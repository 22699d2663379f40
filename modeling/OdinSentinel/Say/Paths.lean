import OdinSentinel.Say.Deliver

/-!
# The paths of a delivery

Every way that a phase of `deliver` can go, with the exchanges it adds to the
history (newest first) and its result.  What holds of deliveries follows from
these cases.
-/

namespace OdinSentinel.Say

open RustText Dialogue

def sawScreen (raw : RustString) : Event := ⟨.readScreen, some raw⟩
def readFailed : Event := ⟨.readScreen, none⟩
def typed (text : RustString) (ok : Bool) : Event := ⟨.sendText text, ok⟩
def pressed (key : Key) (ok : Bool) : Event := ⟨.sendKey key, ok⟩
def clocked (now : UInt64) : Event := ⟨.elapsedMs, now⟩
def slept (ms : Nat) : Event := ⟨.sleep ms, ()⟩

/-- The raw screen of a successful read. -/
def screenOf : Event → Option RustString
  | ⟨.readScreen, answer⟩ => answer
  | _ => none

/-- The answer of a read, failed or not. -/
def readOf : Event → Option (Option RustString)
  | ⟨.readScreen, answer⟩ => some answer
  | _ => none

def isSend : Event → Bool
  | ⟨.sendText _, _⟩ => true
  | _ => false

def isEnter : Event → Bool
  | ⟨.sendKey .enter, _⟩ => true
  | _ => false

abbrev Verdict (Result : Type) := Except (Option Outcome) Result

/-- A refusal on the way. -/
def refusal {Result : Type} (progress : Progress) (state : DeliveryState) (submitted : Bool)
    (note : String) (exit : Int) : Verdict Result :=
  .error (some (refuse state submitted note exit progress.polls progress.waitedMs))

variable {Result : Type} {rules : PaneRules} {progress : Progress} {before after : List Event}

theorem tries_giveUp {state : DeliveryState} {submitted : Bool} {note : String} {exit : Int}
    {result : Verdict Result} :
    Tries (giveUp progress state submitted note exit) before result after ↔
      result = refusal progress state submitted note exit ∧ after = before :=
  tries_throw

theorem tries_reread {submitted : Bool} {note : String} {result : Verdict RustString} :
    Tries (reread progress submitted note) before result after ↔
      (∃ raw, result = .ok (tail14 raw) ∧ after = sawScreen raw :: before) ∨
      (result = refusal progress .paneReadFailed submitted note exitReadFailed ∧
        after = readFailed :: before) := by
  rw [reread, ask, tries_request_bind]
  constructor
  · rintro ⟨answer, hrest⟩
    cases answer with
    | some raw => exact .inl ⟨raw, tries_pure.mp hrest⟩
    | none => exact .inr (tries_giveUp.mp hrest)
  · rintro (⟨raw, rfl, rfl⟩ | ⟨rfl, rfl⟩)
    · exact ⟨some raw, tries_pure.mpr ⟨rfl, rfl⟩⟩
    · exact ⟨none, tries_giveUp.mpr ⟨rfl, rfl⟩⟩

theorem tries_pressAndWait {key : Key} {ms : Nat} {result : Verdict Unit} :
    Tries (pressAndWait key ms) before result after ↔
      ∃ ok, result = .ok () ∧ after = slept ms :: pressed key ok :: before := by
  rw [pressAndWait, ask, tries_request_bind]
  constructor
  · rintro ⟨ok, hrest⟩
    obtain ⟨_, rfl, rfl⟩ := tries_request.mp hrest
    exact ⟨ok, rfl, rfl⟩
  · rintro ⟨ok, rfl, rfl⟩
    exact ⟨ok, tries_request.mpr ⟨(), rfl, rfl⟩⟩

/-- Press a key, let time pass and read: the screen goes on to `next`, a failed
read is a refusal. -/
theorem tries_pressAndReread {key : Key} {ms : Nat} {submitted : Bool} {note : String}
    {next : RustString → Talk Result} {result : Verdict Result} :
    Tries (do
      pressAndWait key ms
      let screen ← reread progress submitted note
      next screen) before result after ↔
    ∃ ok, (∃ raw, Tries (next (tail14 raw))
        (sawScreen raw :: slept ms :: pressed key ok :: before) result after) ∨
      (result = refusal progress .paneReadFailed submitted note exitReadFailed ∧
        after = readFailed :: slept ms :: pressed key ok :: before) := by
  simp only [tries_bind, tries_pressAndWait, tries_reread]
  constructor
  · rintro (⟨_, _, ⟨ok, -, rfl⟩, ⟨_, _, ⟨raw, hscreen, rfl⟩ | ⟨hscreen, rfl⟩, hnext⟩ |
      ⟨_, rfl, ⟨_, hstop, -⟩ | ⟨hstop, rfl⟩⟩⟩ | ⟨_, -, _, hstop, -⟩)
    · cases hscreen
      exact ⟨ok, .inl ⟨raw, hnext⟩⟩
    · cases hscreen
    · cases hstop
    · cases hstop
      exact ⟨ok, .inr ⟨rfl, rfl⟩⟩
    · cases hstop
  · rintro ⟨ok, ⟨raw, hnext⟩ | ⟨rfl, rfl⟩⟩
    · exact .inl ⟨(), _, ⟨ok, trivial, rfl⟩, .inl ⟨_, _, .inl ⟨raw, rfl, rfl⟩, hnext⟩⟩
    · exact .inl ⟨(), _, ⟨ok, trivial, rfl⟩, .inr ⟨_, rfl, .inr ⟨rfl, rfl⟩⟩⟩

/-! ## The phases before the send -/

/-- The ways past an overlay. -/
inductive ClearsOverlay (rules : PaneRules) (progress : Progress) (before : List Event) :
    Verdict Progress → List Event → Prop
  | clear (hclear : blocked progress.screen rules = false) :
      ClearsOverlay rules progress before (.ok progress) before
  | refused (hblocked : blocked progress.screen rules = true) :
      ClearsOverlay rules progress before
        (refusal progress .paneBlockedOnPermission false "pre-send" exitBlocked) before
  | unreadable (hblocked : blocked progress.screen rules = true)
      (hoverlay : contains progress.screen rules.dismissibleOverlay = true) (ok : Bool) :
      ClearsOverlay rules progress before
        (refusal progress .paneReadFailed false "read-failed-after-escape" exitReadFailed)
        (readFailed :: slept 1000 :: pressed .escape ok :: before)
  | uncovered (hblocked : blocked progress.screen rules = true)
      (hoverlay : contains progress.screen rules.dismissibleOverlay = true) (ok : Bool)
      (raw : RustString) (hclear : blocked (tail14 raw) rules = false) :
      ClearsOverlay rules progress before
        (.ok { progress with screen := tail14 raw, polls := progress.polls + 1 })
        (sawScreen raw :: slept 1000 :: pressed .escape ok :: before)
  | stillBlocked (hblocked : blocked progress.screen rules = true)
      (hoverlay : contains progress.screen rules.dismissibleOverlay = true) (ok : Bool)
      (raw : RustString) (hstill : blocked (tail14 raw) rules = true) :
      ClearsOverlay rules progress before
        (refusal { progress with screen := tail14 raw, polls := progress.polls + 1 }
          .paneBlockedOnPermission false "pre-send" exitBlocked)
        (sawScreen raw :: slept 1000 :: pressed .escape ok :: before)

theorem clearOverlay_cases {result : Verdict Progress}
    (hrun : Tries (clearOverlay rules progress) before result after) :
    ClearsOverlay rules progress before result after := by
  rw [clearOverlay] at hrun
  split_ifs at hrun with hblocked hoverlay
  · obtain ⟨ok, ⟨raw, hnext⟩ | ⟨rfl, rfl⟩⟩ := tries_pressAndReread.mp hrun
    · split_ifs at hnext with hstill
      · obtain ⟨rfl, rfl⟩ := tries_giveUp.mp hnext
        exact .stillBlocked hblocked hoverlay ok raw hstill
      · obtain ⟨rfl, rfl⟩ := tries_pure.mp hnext
        exact .uncovered hblocked hoverlay ok raw (by simpa using hstill)
    · exact .unreadable hblocked hoverlay ok
  · obtain ⟨rfl, rfl⟩ := tries_giveUp.mp hrun
    exact .refused hblocked
  · obtain ⟨rfl, rfl⟩ := tries_pure.mp hrun
    exact .clear (by simpa using hblocked)

/-- The ways of a send into a queue harness, with the time it was decided at. -/
inductive SendsQueued (rules : PaneRules) (harness flat : RustString) (busyAt : UInt64)
    (progress : Progress) (before : List Event) : Outcome → List Event → Prop
  | sendFailed (now : UInt64) :
      SendsQueued rules harness flat busyAt progress before
        (refuse .inputBarOnly false "send-failed" exitSendFailed progress.polls (now - busyAt))
        (typed flat false :: clocked now :: before)
  | unreadable (now : UInt64) (ok : Bool) :
      SendsQueued rules harness flat busyAt progress before
        (refuse .paneReadFailed true "read-back-failed" exitReadFailed progress.polls
          (now - busyAt))
        (readFailed :: slept 3000 :: pressed .enter ok :: slept 1500 :: typed flat true ::
          clocked now :: before)
  | queued (now : UInt64) (ok : Bool) (raw : RustString)
      (hqueued : showsQueued (tail14 raw) flat rules harness = true) :
      SendsQueued rules harness flat busyAt progress before (queued "queued" progress.polls)
        (sawScreen raw :: slept 3000 :: pressed .enter ok :: slept 1500 :: typed flat true ::
          clocked now :: before)
  | unproven (now : UInt64) (ok : Bool) (raw : RustString)
      (hunproven : showsQueued (tail14 raw) flat rules harness = false) :
      SendsQueued rules harness flat busyAt progress before
        (refuse .inputBarOnly true "queue-not-proven" exitQueueUnproven progress.polls
          (now - busyAt))
        (sawScreen raw :: slept 3000 :: pressed .enter ok :: slept 1500 :: typed flat true ::
          clocked now :: before)

theorem sendQueued_cases {harness flat : RustString} {busyAt : UInt64} {result : Verdict Result}
    (hrun : Tries (sendQueued rules harness flat busyAt progress) before result after) :
    ∃ outcome, result = .error (some outcome) ∧
      SendsQueued rules harness flat busyAt progress before outcome after := by
  unfold sendQueued ask at hrun
  obtain ⟨now, hrun⟩ := tries_request_bind.mp hrun
  obtain ⟨sent, hrun⟩ := tries_request_bind.mp hrun
  cases sent with
  | false =>
      obtain ⟨rfl, rfl⟩ := tries_giveUp.mp hrun
      exact ⟨_, rfl, .sendFailed now⟩
  | true =>
      simp only [Bool.not_true, Bool.false_eq_true, if_false] at hrun
      obtain ⟨_, hrun⟩ := tries_request_bind.mp hrun
      obtain ⟨ok, ⟨raw, hnext⟩ | ⟨rfl, rfl⟩⟩ := tries_pressAndReread.mp hrun
      · split_ifs at hnext with hqueued
        · obtain ⟨rfl, rfl⟩ := tries_throw.mp hnext
          exact ⟨_, rfl, .queued now ok raw hqueued⟩
        · obtain ⟨rfl, rfl⟩ := tries_giveUp.mp hnext
          exact ⟨_, rfl, .unproven now ok raw (by simpa using hqueued)⟩
      · exact ⟨_, rfl, .unreadable now ok⟩

/-- The ways of a wait: each poll asks the clock, sleeps and reads. -/
inductive Waits (rules : PaneRules) (pollMs budgetMs busyAt : UInt64) :
    Progress → List Event → Verdict Progress → List Event → Prop
  | outOfFuel (progress : Progress) (before : List Event) :
      Waits rules pollMs budgetMs busyAt progress before (.error none) before
  | spent (progress : Progress) (before : List Event) (now : UInt64)
      (hspent : budgetMs ≤ now - busyAt) :
      Waits rules pollMs budgetMs busyAt progress before (.ok progress) (clocked now :: before)
  | unreadable (progress : Progress) (before : List Event) (now : UInt64)
      (hleft : ¬budgetMs ≤ now - busyAt) :
      Waits rules pollMs budgetMs busyAt progress before
        (refusal progress .paneReadFailed false "read-failed-while-waiting" exitReadFailed)
        (readFailed :: slept (min pollMs (budgetMs - (now - busyAt))).toNat :: clocked now ::
          before)
  | becameBlocked (progress : Progress) (before : List Event) (now later : UInt64)
      (raw : RustString) (hleft : ¬budgetMs ≤ now - busyAt)
      (hblocked : blocked (tail14 raw) rules = true) :
      Waits rules pollMs budgetMs busyAt progress before
        (refusal
          { progress with
            screen := tail14 raw, polls := progress.polls + 1, waitedMs := later - busyAt }
          .paneBlockedOnPermission false "pre-send" exitBlocked)
        (clocked later :: sawScreen raw ::
          slept (min pollMs (budgetMs - (now - busyAt))).toNat :: clocked now :: before)
  | becameIdle (progress : Progress) (before : List Event) (now : UInt64) (raw : RustString)
      (hleft : ¬budgetMs ≤ now - busyAt) (hclear : blocked (tail14 raw) rules = false)
      (hidle : busy (tail14 raw) rules = false) :
      Waits rules pollMs budgetMs busyAt progress before
        (.ok { progress with screen := tail14 raw, polls := progress.polls + 1 })
        (sawScreen raw :: slept (min pollMs (budgetMs - (now - busyAt))).toNat :: clocked now ::
          before)
  | stillBusy (progress : Progress) (before after : List Event) (now : UInt64)
      (raw : RustString) (result : Verdict Progress)
      (hleft : ¬budgetMs ≤ now - busyAt) (hclear : blocked (tail14 raw) rules = false)
      (hbusy : busy (tail14 raw) rules = true)
      (hrest : Waits rules pollMs budgetMs busyAt
        { progress with screen := tail14 raw, polls := progress.polls + 1 }
        (sawScreen raw :: slept (min pollMs (budgetMs - (now - busyAt))).toNat :: clocked now ::
          before) result after) :
      Waits rules pollMs budgetMs busyAt progress before result after

/-- One poll: the wait ends with it, or goes on behind a screen that shows the pane busy. -/
theorem waitForIdle_succ {pollMs budgetMs busyAt : UInt64} {fuel : Nat}
    {result : Verdict Progress}
    (hrun : Tries (waitForIdle rules pollMs budgetMs busyAt (fuel + 1) progress) before result
      after) :
    (Waits rules pollMs budgetMs busyAt progress before result after ∧ result ≠ .error none) ∨
      ∃ now raw, ¬budgetMs ≤ now - busyAt ∧ blocked (tail14 raw) rules = false ∧
        busy (tail14 raw) rules = true ∧
        Tries (waitForIdle rules pollMs budgetMs busyAt fuel
          { progress with screen := tail14 raw, polls := progress.polls + 1 })
          (sawScreen raw :: slept (min pollMs (budgetMs - (now - busyAt))).toNat :: clocked now ::
            before) result after := by
  unfold waitForIdle ask at hrun
  obtain ⟨now, hrun⟩ := tries_request_bind.mp hrun
  dsimp only at hrun
  split_ifs at hrun with hspent
  · obtain ⟨rfl, rfl⟩ := tries_pure.mp hrun
    exact .inl ⟨.spent progress before now hspent, by simp⟩
  · obtain ⟨_, hrun⟩ := tries_request_bind.mp hrun
    rw [tries_bind] at hrun
    simp only [tries_reread] at hrun
    obtain ⟨_, _, ⟨raw, hscreen, rfl⟩ | ⟨hscreen, -⟩, hnext⟩ |
      ⟨_, rfl, ⟨_, hstop, -⟩ | ⟨hstop, rfl⟩⟩ := hrun
    · cases hscreen
      split_ifs at hnext with hblocked hbusy
      · obtain ⟨later, hnext⟩ := tries_request_bind.mp hnext
        obtain ⟨rfl, rfl⟩ := tries_giveUp.mp hnext
        exact .inl ⟨.becameBlocked progress before now later raw hspent hblocked,
          by simp [refusal]⟩
      · exact .inr ⟨now, raw, hspent, by simpa using hblocked, hbusy, hnext⟩
      · obtain ⟨rfl, rfl⟩ := tries_pure.mp hnext
        exact .inl ⟨.becameIdle progress before now raw hspent (by simpa using hblocked)
          (by simpa using hbusy), by simp⟩
    · cases hscreen
    · cases hstop
    · cases hstop
      exact .inl ⟨.unreadable progress before now hspent, by simp⟩

theorem waitForIdle_cases {pollMs budgetMs busyAt : UInt64} {fuel : Nat}
    {result : Verdict Progress}
    (hrun : Tries (waitForIdle rules pollMs budgetMs busyAt fuel progress) before result after) :
    Waits rules pollMs budgetMs busyAt progress before result after := by
  induction fuel generalizing progress before with
  | zero =>
      obtain ⟨rfl, rfl⟩ := tries_throw.mp hrun
      exact .outOfFuel progress after
  | succ fuel ih =>
      rcases waitForIdle_succ hrun with ⟨hwaits, -⟩ | ⟨now, raw, hleft, hclear, hbusy, hrest⟩
      · exact hwaits
      · exact .stillBusy progress before after now raw result hleft hclear hbusy (ih hrest)

/-- A wait that is cut off has made all its polls. -/
theorem waitForIdle_cut {pollMs budgetMs busyAt : UInt64} {fuel : Nat}
    (hrun : Tries (waitForIdle rules pollMs budgetMs busyAt fuel progress) before (.error none)
      after) :
    (after.filterMap readOf).length = (before.filterMap readOf).length + fuel := by
  induction fuel generalizing progress before with
  | zero =>
      obtain ⟨-, rfl⟩ := tries_throw.mp hrun
      rfl
  | succ fuel ih =>
      rcases waitForIdle_succ hrun with ⟨-, hnot⟩ | ⟨now, raw, -, -, -, hrest⟩
      · exact absurd rfl hnot
      · have hreads : (sawScreen raw :: slept (min pollMs (budgetMs - (now - busyAt))).toNat ::
            clocked now :: before).filterMap readOf = some raw :: before.filterMap readOf := rfl
        rw [ih hrest, hreads, List.length_cons, Nat.add_assoc, Nat.add_comm 1]

/-- The ways past a busy pane. -/
inductive PassesBusy (rules : PaneRules) (harness flat : RustString) (pollMs budgetMs : UInt64)
    (progress : Progress) (before : List Event) : Verdict Progress → List Event → Prop
  | idle (hidle : busy progress.screen rules = false) :
      PassesBusy rules harness flat pollMs budgetMs progress before (.ok progress) before
  | queued (hbusy : busy progress.screen rules = true)
      (hpolicy : rules.midTurnFor harness = .queue) (busyAt : UInt64) (outcome : Outcome)
      (after : List Event)
      (hsend : SendsQueued rules harness flat busyAt progress (clocked busyAt :: before) outcome
        after) :
      PassesBusy rules harness flat pollMs budgetMs progress before (.error (some outcome)) after
  | stopped (hbusy : busy progress.screen rules = true)
      (hpolicy : rules.midTurnFor harness = .refuse) (busyAt : UInt64)
      (stop : Option Outcome) (after : List Event)
      (hwait : Waits rules pollMs budgetMs busyAt progress (clocked busyAt :: before)
        (.error stop) after) :
      PassesBusy rules harness flat pollMs budgetMs progress before (.error stop) after
  | waited (hbusy : busy progress.screen rules = true)
      (hpolicy : rules.midTurnFor harness = .refuse) (busyAt now : UInt64) (last : Progress)
      (after : List Event)
      (hwait : Waits rules pollMs budgetMs busyAt progress (clocked busyAt :: before) (.ok last)
        after)
      (hidle : busy last.screen rules = false) :
      PassesBusy rules harness flat pollMs budgetMs progress before
        (.ok { last with waitedMs := now - busyAt }) (clocked now :: after)
  | stillThinking (hbusy : busy progress.screen rules = true)
      (hpolicy : rules.midTurnFor harness = .refuse) (busyAt now : UInt64) (last : Progress)
      (after : List Event)
      (hwait : Waits rules pollMs budgetMs busyAt progress (clocked busyAt :: before) (.ok last)
        after)
      (hstill : busy last.screen rules = true) :
      PassesBusy rules harness flat pollMs budgetMs progress before
        (refusal { last with waitedMs := now - busyAt } .paneStillThinking false "pre-send"
          exitStillThinking) (clocked now :: after)

theorem passBusy_cases {harness flat : RustString} {pollMs budgetMs : UInt64} {fuel : Nat}
    {result : Verdict Progress}
    (hrun : Tries (passBusy rules harness flat pollMs budgetMs fuel progress) before result
      after) :
    PassesBusy rules harness flat pollMs budgetMs progress before result after := by
  unfold passBusy ask at hrun
  split_ifs at hrun with hbusy
  · obtain ⟨busyAt, hrun⟩ := tries_request_bind.mp hrun
    cases hpolicy : rules.midTurnFor harness with
    | queue =>
        simp only [hpolicy] at hrun
        obtain ⟨outcome, rfl, hsend⟩ := sendQueued_cases hrun
        exact .queued hbusy hpolicy busyAt outcome after hsend
    | refuse =>
        simp only [hpolicy] at hrun
        rcases tries_bind.mp hrun with ⟨last, middle, hwait, hrun⟩ | ⟨stop, rfl, hwait⟩
        · obtain ⟨now, hrun⟩ := tries_request_bind.mp hrun
          have hwaits := waitForIdle_cases hwait
          split_ifs at hrun with hstill
          · obtain ⟨rfl, rfl⟩ := tries_giveUp.mp hrun
            exact .stillThinking hbusy hpolicy busyAt now last middle hwaits hstill
          · obtain ⟨rfl, rfl⟩ := tries_pure.mp hrun
            exact .waited hbusy hpolicy busyAt now last middle hwaits (by simpa using hstill)
        · exact .stopped hbusy hpolicy busyAt stop after (waitForIdle_cases hwait)
  · obtain ⟨rfl, rfl⟩ := tries_pure.mp hrun
    exact .idle (by simpa using hbusy)

/-- The refusal of a capped seat. -/
def cappedOutcome (progress : Progress) (hit : CapHit) : Outcome :=
  { refuse .seatCapped false "seat-capped" exitSeatCapped progress.polls progress.waitedMs with
    capMarker := some hit.marker
    resetAt := hit.resetAt }

theorem refuseCapped_cases {result : Verdict Progress}
    (hrun : Tries (refuseCapped rules progress) before result after) :
    after = before ∧
      ((∃ hit, capped progress.screen rules = some hit ∧
        result = .error (some (cappedOutcome progress hit))) ∨
      (capped progress.screen rules = none ∧ result = .ok progress)) := by
  rw [refuseCapped] at hrun
  cases hcap : capped progress.screen rules with
  | some hit =>
      simp only [hcap] at hrun
      obtain ⟨rfl, rfl⟩ := tries_throw.mp hrun
      exact ⟨rfl, .inl ⟨hit, rfl, rfl⟩⟩
  | none =>
      simp only [hcap] at hrun
      obtain ⟨rfl, rfl⟩ := tries_pure.mp hrun
      exact ⟨rfl, .inr ⟨rfl, rfl⟩⟩

/-- The ways past text that stands in the input bar. -/
inductive SubmitsStale (rules : PaneRules) (progress : Progress) (before : List Event) :
    Verdict Progress → List Event → Prop
  | fresh (hfresh : staleInput progress.screen = false) :
      SubmitsStale rules progress before (.ok progress) before
  | unreadable (hstale : staleInput progress.screen = true) (ok : Bool) :
      SubmitsStale rules progress before
        (refusal progress .paneReadFailed false "read-failed-after-stale-enter" exitReadFailed)
        (readFailed :: slept 3000 :: pressed .enter ok :: before)
  | becameBlocked (hstale : staleInput progress.screen = true) (ok : Bool) (raw : RustString)
      (hblocked : blocked (tail14 raw) rules = true) :
      SubmitsStale rules progress before
        (refusal { progress with screen := tail14 raw } .paneBlockedOnPermission false
          "pre-send" exitBlocked)
        (sawScreen raw :: slept 3000 :: pressed .enter ok :: before)
  | stuck (hstale : staleInput progress.screen = true) (ok : Bool) (raw : RustString)
      (hclear : blocked (tail14 raw) rules = false)
      (hstuck : staleInput (tail14 raw) = true) :
      SubmitsStale rules progress before
        (refusal { progress with screen := tail14 raw } .inputBarOnly false "stale-text-stuck"
          exitStaleStuck)
        (sawScreen raw :: slept 3000 :: pressed .enter ok :: before)
  | submitted (hstale : staleInput progress.screen = true) (ok : Bool) (raw : RustString)
      (hclear : blocked (tail14 raw) rules = false)
      (hfresh : staleInput (tail14 raw) = false) :
      SubmitsStale rules progress before (.ok { progress with screen := tail14 raw })
        (sawScreen raw :: slept 3000 :: pressed .enter ok :: before)

theorem submitStale_cases {result : Verdict Progress}
    (hrun : Tries (submitStale rules progress) before result after) :
    SubmitsStale rules progress before result after := by
  rw [submitStale] at hrun
  split_ifs at hrun with hstale
  · obtain ⟨ok, ⟨raw, hnext⟩ | ⟨rfl, rfl⟩⟩ := tries_pressAndReread.mp hrun
    · split_ifs at hnext with hblocked hstuck
      · obtain ⟨rfl, rfl⟩ := tries_giveUp.mp hnext
        exact .becameBlocked hstale ok raw hblocked
      · obtain ⟨rfl, rfl⟩ := tries_giveUp.mp hnext
        exact .stuck hstale ok raw (by simpa using hblocked) hstuck
      · obtain ⟨rfl, rfl⟩ := tries_pure.mp hnext
        exact .submitted hstale ok raw (by simpa using hblocked) (by simpa using hstuck)
    · exact .unreadable hstale ok
  · obtain ⟨rfl, rfl⟩ := tries_pure.mp hrun
    exact .fresh (by simpa using hstale)

/-! ## The send -/

/-- The exchanges of a send up to the first Enter and the pause behind it. -/
def sendEvents (flat : RustString) (ok : Bool) : List Event :=
  [slept 3000, pressed .enter ok, slept 1500, typed flat true]

/-- The ways of a send: the text fails, the read-back fails, the message has left
the input bar at once, or one more Enter is pressed. -/
inductive SendsLine (rules : PaneRules) (flat : RustString) (progress : Progress)
    (before : List Event) : Outcome → List Event → Prop
  | sendFailed :
      SendsLine rules flat progress before
        (refuse .inputBarOnly false "send-failed" exitSendFailed progress.polls
          progress.waitedMs) (typed flat false :: before)
  | unreadable (ok : Bool) :
      SendsLine rules flat progress before
        (refuse .paneReadFailed true "read-back-failed" exitReadFailed progress.polls
          progress.waitedMs) (readFailed :: sendEvents flat ok ++ before)
  | gone (ok : Bool) (raw : RustString) (hgone : inBar (tail14 raw) (messageHead flat) = false) :
      SendsLine rules flat progress before
        (verdict rules (messageHead flat) { progress with screen := tail14 raw })
        (sawScreen raw :: sendEvents flat ok ++ before)
  | unreadableAgain (ok again : Bool) (raw : RustString)
      (hbar : inBar (tail14 raw) (messageHead flat) = true) :
      SendsLine rules flat progress before
        (refuse .paneReadFailed true "read-back-failed-after-second-enter" exitReadFailed
          progress.polls progress.waitedMs)
        (readFailed :: slept 3000 :: pressed .enter again :: sawScreen raw ::
          sendEvents flat ok ++ before)
  | stuck (ok again : Bool) (raw last : RustString)
      (hbar : inBar (tail14 raw) (messageHead flat) = true)
      (hstuck : inBar (tail14 last) (messageHead flat) = true)
      (hunanswered : answered (tail14 last) (messageHead flat) = false) :
      SendsLine rules flat progress before
        (refuse .inputBarOnly true "after-2-enters" exitStuckAfterEnters progress.polls
          progress.waitedMs)
        (sawScreen last :: slept 3000 :: pressed .enter again :: sawScreen raw ::
          sendEvents flat ok ++ before)
  | goneAgain (ok again : Bool) (raw last : RustString)
      (hbar : inBar (tail14 raw) (messageHead flat) = true)
      (hgone : inBar (tail14 last) (messageHead flat) = true →
        answered (tail14 last) (messageHead flat) = true) :
      SendsLine rules flat progress before
        (verdict rules (messageHead flat) { progress with screen := tail14 last })
        (sawScreen last :: slept 3000 :: pressed .enter again :: sawScreen raw ::
          sendEvents flat ok ++ before)

/-- The outcome of a body that returned or stopped. -/
def Ends (result : Verdict Outcome) (outcome : Outcome) : Prop :=
  result = .ok outcome ∨ result = .error (some outcome)

theorem sendLine_cases {flat : RustString} {result : Verdict Outcome}
    (hrun : Tries (sendLine rules flat progress) before result after) :
    ∃ outcome, Ends result outcome ∧ SendsLine rules flat progress before outcome after := by
  unfold sendLine ask at hrun
  obtain ⟨sent, hrun⟩ := tries_request_bind.mp hrun
  cases sent with
  | false =>
      obtain ⟨rfl, rfl⟩ := tries_giveUp.mp hrun
      exact ⟨_, .inr rfl, .sendFailed⟩
  | true =>
      simp only [Bool.not_true, Bool.false_eq_true, if_false] at hrun
      obtain ⟨_, hrun⟩ := tries_request_bind.mp hrun
      obtain ⟨ok, ⟨raw, hrun⟩ | ⟨rfl, rfl⟩⟩ := tries_pressAndReread.mp hrun
      · rw [enterAgain] at hrun
        split_ifs at hrun with hbar
        · obtain ⟨again, ⟨last, hrun⟩ | ⟨rfl, rfl⟩⟩ := tries_pressAndReread.mp hrun
          · split_ifs at hrun with hstuck
            · obtain ⟨rfl, rfl⟩ := tries_giveUp.mp hrun
              simp only [Bool.and_eq_true, Bool.not_eq_true'] at hstuck
              exact ⟨_, .inr rfl, .stuck ok again raw last hbar hstuck.1 hstuck.2⟩
            · obtain ⟨rfl, rfl⟩ := tries_pure.mp hrun
              simp only [Bool.and_eq_true, Bool.not_eq_true', not_and, Bool.not_eq_false]
                at hstuck
              exact ⟨_, .inl rfl, .goneAgain ok again raw last hbar hstuck⟩
          · exact ⟨_, .inr rfl, .unreadableAgain ok again raw hbar⟩
        · obtain ⟨rfl, rfl⟩ := tries_pure.mp hrun
          exact ⟨_, .inl rfl, .gone ok raw (by simpa using hbar)⟩
      · exact ⟨_, .inr rfl, .unreadable ok⟩

/-! ## The whole delivery -/

/-- The identity that a first screen gives. -/
def identityOf (rules : PaneRules) (selector : HarnessSelector) (screen : RustString) :
    HarnessIdentity := identify selector.flag selector.env screen rules

/-- The progress behind a first read. -/
def firstProgress (raw : RustString) : Progress :=
  { screen := tail14 raw, polls := 1, waitedMs := 0 }

/-- The way from a first screen to the send: past an overlay, a busy pane, a cap
and text in the input bar. -/
structure ReadyToSend (rules : PaneRules) (harness flat : RustString)
    (opts : DeliveryOptions) (raw : RustString) (progress : Progress) (history : List Event) :
    Prop where
  path : ∃ uncovered history₁ idle history₂,
    ClearsOverlay rules (firstProgress raw) [sawScreen raw] (.ok uncovered) history₁ ∧
    PassesBusy rules harness flat (max (saturatingU64 opts.poll) 1) (saturatingU64 opts.wait)
      uncovered history₁ (.ok idle) history₂ ∧
    capped idle.screen rules = none ∧
    SubmitsStale rules idle history₂ (.ok progress) history

/-- The ways that a delivery stops before the send. -/
inductive StopsEarly (rules : PaneRules) (harness flat : RustString) (opts : DeliveryOptions)
    (raw : RustString) : Option Outcome → List Event → Prop
  | overlay (stop : Option Outcome) (history : List Event)
      (hoverlay : ClearsOverlay rules (firstProgress raw) [sawScreen raw] (.error stop)
        history) :
      StopsEarly rules harness flat opts raw stop history
  | busy (stop : Option Outcome) (uncovered : Progress) (history₁ history : List Event)
      (hoverlay : ClearsOverlay rules (firstProgress raw) [sawScreen raw] (.ok uncovered)
        history₁)
      (hbusy : PassesBusy rules harness flat (max (saturatingU64 opts.poll) 1)
        (saturatingU64 opts.wait) uncovered history₁ (.error stop) history) :
      StopsEarly rules harness flat opts raw stop history
  | capped (uncovered idle : Progress) (history₁ history : List Event) (hit : CapHit)
      (hoverlay : ClearsOverlay rules (firstProgress raw) [sawScreen raw] (.ok uncovered)
        history₁)
      (hbusy : PassesBusy rules harness flat (max (saturatingU64 opts.poll) 1)
        (saturatingU64 opts.wait) uncovered history₁ (.ok idle) history)
      (hcap : capped idle.screen rules = some hit) :
      StopsEarly rules harness flat opts raw (some (cappedOutcome idle hit)) history
  | stale (stop : Option Outcome) (uncovered idle : Progress)
      (history₁ history₂ history : List Event)
      (hoverlay : ClearsOverlay rules (firstProgress raw) [sawScreen raw] (.ok uncovered)
        history₁)
      (hbusy : PassesBusy rules harness flat (max (saturatingU64 opts.poll) 1)
        (saturatingU64 opts.wait) uncovered history₁ (.ok idle) history₂)
      (hcap : capped idle.screen rules = none)
      (hstale : SubmitsStale rules idle history₂ (.error stop) history) :
      StopsEarly rules harness flat opts raw stop history

/-- The complete runs of `deliver`. -/
inductive Delivers (rules : PaneRules) (selector : HarnessSelector) (text : RustString)
    (opts : DeliveryOptions) : Option Outcome → List Event → Prop
  | unreadable :
      Delivers rules selector text opts
        (some { refuse .paneReadFailed false "read-failed" exitReadFailed 0 0 with
          harness := identityOf rules selector [] })
        [readFailed]
  | stopped (raw : RustString) (stop : Option Outcome) (history : List Event)
      (hfirst : ∃ events, history = events ++ [sawScreen raw])
      (hstop : StopsEarly rules (identityOf rules selector (tail14 raw)).harness (flatten text)
        opts raw stop history) :
      Delivers rules selector text opts
        (stop.map fun outcome =>
          { outcome with harness := identityOf rules selector (tail14 raw) }) history
  | sent (raw : RustString) (progress : Progress) (outcome : Outcome)
      (before history : List Event)
      (hfirst : ∃ events, history = events ++ [sawScreen raw])
      (hready : ReadyToSend rules (identityOf rules selector (tail14 raw)).harness
        (flatten text) opts raw progress before)
      (hsend : SendsLine rules (flatten text) progress before outcome history) :
      Delivers rules selector text opts
        (some { outcome with harness := identityOf rules selector (tail14 raw) }) history

theorem deliverFrom_cases {harness flat : RustString} {opts : DeliveryOptions} {fuel : Nat}
    {raw : RustString} {result : Verdict Outcome}
    (hrun : Tries (deliverFrom rules harness flat opts fuel (firstProgress raw))
      [sawScreen raw] result after) :
    (∃ stop, result = .error stop ∧ StopsEarly rules harness flat opts raw stop after) ∨
    ∃ progress outcome before, Ends result outcome ∧
      ReadyToSend rules harness flat opts raw progress before ∧
      SendsLine rules flat progress before outcome after := by
  rw [deliverFrom] at hrun
  rcases tries_bind.mp hrun with ⟨uncovered, history₁, hoverlay, hrun⟩ | ⟨stop, rfl, hoverlay⟩
  · have hoverlay := clearOverlay_cases hoverlay
    rcases tries_bind.mp hrun with ⟨idle, history₂, hbusy, hrun⟩ | ⟨stop, rfl, hbusy⟩
    · have hbusy := passBusy_cases hbusy
      rcases tries_bind.mp hrun with ⟨opened, history₃, htry, hrun⟩ | ⟨stop, rfl, htry⟩
      · obtain ⟨rfl, ⟨hit, -, hstop⟩ | ⟨hcap, hok⟩⟩ := refuseCapped_cases htry
        · cases hstop
        · cases hok
          rcases tries_bind.mp hrun with ⟨progress, before, hstale, hrun⟩ | ⟨stop, rfl, hstale⟩
          · obtain ⟨outcome, hends, hsend⟩ := sendLine_cases hrun
            exact .inr ⟨progress, outcome, before, hends,
              ⟨uncovered, history₁, _, _, hoverlay, hbusy, hcap, submitStale_cases hstale⟩, hsend⟩
          · exact .inl ⟨stop, rfl, .stale stop uncovered _ history₁ _ after hoverlay hbusy hcap
              (submitStale_cases hstale)⟩
      · obtain ⟨rfl, ⟨hit, hcap, hstop⟩ | ⟨-, hok⟩⟩ := refuseCapped_cases htry
        · cases hstop
          exact .inl ⟨_, rfl, .capped uncovered idle history₁ _ hit hoverlay hbusy hcap⟩
        · cases hok
    · exact .inl ⟨stop, rfl, .busy stop uncovered history₁ after hoverlay
        (passBusy_cases hbusy)⟩
  · exact .inl ⟨stop, rfl, .overlay stop after (clearOverlay_cases hoverlay)⟩

theorem deliver_cases {selector : HarnessSelector} {text : RustString} {opts : DeliveryOptions}
    {fuel : Nat} {result : Option Outcome}
    (hrun : Runs (deliver rules selector text opts fuel) [] result after) :
    Delivers rules selector text opts result after := by
  rw [deliver] at hrun
  obtain ⟨answer, _, hread, hrun⟩ := runs_bind.mp hrun
  obtain rfl := runs_request.mp hread
  cases answer with
  | none =>
      obtain ⟨rfl, rfl⟩ := runs_pure.mp hrun
      exact .unreadable
  | some raw =>
      obtain ⟨verdict, history, hbody, hrun⟩ := runs_bind.mp hrun
      have hbody : Tries (deliverFrom rules (identityOf rules selector (tail14 raw)).harness
        (flatten text) opts fuel (firstProgress raw)) [sawScreen raw] verdict history := hbody
      have hfirst := Runs.exists_append hbody
      rcases deliverFrom_cases hbody with ⟨stop, rfl, hstop⟩ |
        ⟨progress, outcome, before, rfl | rfl, hready, hsend⟩
      · obtain ⟨rfl, rfl⟩ := runs_pure.mp hrun
        exact .stopped raw stop after hfirst hstop
      · obtain ⟨rfl, rfl⟩ := runs_pure.mp hrun
        exact .sent raw progress outcome before after hfirst hready hsend
      · obtain ⟨rfl, rfl⟩ := runs_pure.mp hrun
        exact .sent raw progress outcome before after hfirst hready hsend

/-! ## A scripted pane -/

/-- A pane that shows one screen after the other and then cannot be read; every
send succeeds and the clock stands still. -/
def scripted (screens : List RustString) : (question : PaneAsk) → List Event → PaneAnswer question
  | .readScreen, history => screens[history.countP fun event => (screenOf event).isSome]?
  | .sendText _, _ => true
  | .sendKey _, _ => true
  | .elapsedMs, _ => (0 : UInt64)
  | .sleep _, _ => ()

/-- Some of the embedded rules. -/
def fewRules : PaneRules where
  statusMarkers := [rs "esc to interrupt"]
  busyWords := [rs "Working ("]
  busyExclusions := []
  spinnerGlyphs := rs "⠋"
  blocked := [rs "Allow?"]
  blockedExclusions := []
  dismissibleOverlay := rs "esc close"
  harnesses := [(rs "pi", ⟨[rs "(auto)"], .queue, [rs "Steering:"]⟩)]
  capped := ⟨[⟨rs "free_models_per_day", [rs "free-models-per-day"]⟩], [rs "•"],
    rs "X-RateLimit-Reset"⟩
  liveTailNonEmptyLines := 3

end OdinSentinel.Say
