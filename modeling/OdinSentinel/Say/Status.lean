import OdinSentinel.Say.SingleCopy

/-!
# The status of a pane

What `status` calls a pane is what a delivery does with it: both read the same
predicates in the same order.
-/

namespace OdinSentinel.Say

open RustText Dialogue

/-! ## The command -/

inductive PaneState
  | blocked
  | busy
  | capped
  | staleInput
  | idle
  deriving DecidableEq

def PaneState.text : PaneState → RustString
  | .blocked => rs "blocked"
  | .busy => rs "busy"
  | .capped => rs "capped"
  | .staleInput => rs "stale_input"
  | .idle => rs "idle"

/-- In the order the sender acts. -/
def classify (screen : RustString) (rules : PaneRules) : PaneState :=
  if blocked screen rules then .blocked
  else if busy screen rules then .busy
  else if (capped screen rules).isSome then .capped
  else if staleInput screen then .staleInput
  else .idle

/-- The line that reports a state; a cap comes with its marker and reset instant. -/
def statusLine (surface screen : RustString) (rules : PaneRules) : RustString :=
  let state := classify screen rules
  let line := rs "status: " ++ surface ++ rs " " ++ state.text
  if state = .capped then
    match capped screen rules with
    | none => line
    | some hit =>
        line ++ rs " marker=" ++ hit.marker ++
          match hit.resetAt with
          | none => []
          | some resetAt => rs " reset_at=" ++ resetAt
  else line

/-- One read of the pane: the line that is printed, if any, and the exit status. -/
def status (rules : PaneRules) (surface : RustString) :
    Program PaneAsk PaneAnswer (Option RustString × Int) := do
  match ← Program.request PaneAsk.readScreen with
  | none => pure (none, exitReadFailed)
  | some raw => pure (some (statusLine surface (tail14 raw) rules), 0)

variable {rules : PaneRules} {selector : HarnessSelector} {history before after : List Event}
  {raw screen harness flat : RustString} {opts : DeliveryOptions} {progress : Progress}
  {result : Verdict Progress}

theorem status_run {surface : RustString} {printed : Option RustString × Int} :
    Runs (status rules surface) [] printed history ↔
      (printed = (none, exitReadFailed) ∧ history = [readFailed]) ∨
      ∃ raw, printed = (some (statusLine surface (tail14 raw) rules), 0) ∧
        history = [sawScreen raw] := by
  rw [status, runs_bind]
  constructor
  · rintro ⟨answer, middle, hread, hrun⟩
    obtain rfl := runs_request.mp hread
    cases answer with
    | none => exact .inl (runs_pure.mp hrun)
    | some raw => exact .inr ⟨raw, runs_pure.mp hrun⟩
  · rintro (⟨rfl, rfl⟩ | ⟨raw, rfl, rfl⟩)
    · exact ⟨none, _, runs_request.mpr rfl, runs_pure.mpr ⟨rfl, rfl⟩⟩
    · exact ⟨some raw, _, runs_request.mpr rfl, runs_pure.mpr ⟨rfl, rfl⟩⟩

theorem status_printed {surface : RustString} {printed : Option RustString × Int}
    (hrun : Runs (status rules surface) [] printed [sawScreen raw]) :
    printed = (some (statusLine surface (tail14 raw) rules), 0) := by
  rcases status_run.mp hrun with ⟨-, hfailed⟩ | ⟨shown, rfl, hshown⟩
  · cases hfailed
  · cases hshown
    rfl

theorem classify_blocked_iff : classify screen rules = .blocked ↔ blocked screen rules = true := by
  rw [classify]
  split_ifs <;> simp [*]

theorem classify_busy_iff :
    classify screen rules = .busy ↔ blocked screen rules = false ∧ busy screen rules = true := by
  rw [classify]
  split_ifs <;> simp [*]

theorem classify_capped_iff :
    classify screen rules = .capped ↔ blocked screen rules = false ∧ busy screen rules = false ∧
      ∃ hit, capped screen rules = some hit := by
  rw [classify]
  split_ifs <;> simp_all [Option.isSome_iff_exists]

theorem classify_staleInput_iff :
    classify screen rules = .staleInput ↔ blocked screen rules = false ∧
      busy screen rules = false ∧ capped screen rules = none ∧ staleInput screen = true := by
  rw [classify]
  split_ifs <;> simp_all [Option.isSome_iff_ne_none]

theorem classify_idle_iff :
    classify screen rules = .idle ↔ blocked screen rules = false ∧
      busy screen rules = false ∧ capped screen rules = none ∧ staleInput screen = false := by
  rw [classify]
  split_ifs <;> simp_all [Option.isSome_iff_ne_none]

/-! ## The branches of a delivery -/

/-- A wait of at most `polls` polls, entered behind the exchanges `before`: its first poll asks
the clock and, with time left, lets some of it pass and reads the pane; a wait that is cut off
has made all its polls. -/
structure EntersWait (rules : PaneRules) (pollMs budgetMs busyAt : UInt64) (polls : Nat)
    (progress : Progress) (before : List Event) (result : Verdict Progress)
    (after : List Event) : Prop where
  waits : Waits rules pollMs budgetMs busyAt progress before result after
  first : 0 < polls → ∃ now,
    (budgetMs ≤ now - busyAt ∧ result = .ok progress ∧ after = clocked now :: before) ∨
    (¬budgetMs ≤ now - busyAt ∧ ∃ read : Option RustString, ⟨.readScreen, read⟩ ::
      slept (min pollMs (budgetMs - (now - busyAt))).toNat :: clocked now :: before <:+ after)
  cut : result = .error none →
    (after.filterMap readOf).length = (before.filterMap readOf).length + polls

/-- What a delivery of at most `polls` polls does with a first screen that is classified so. -/
def Follows (rules : PaneRules) (identity : HarnessIdentity) (flat : RustString)
    (opts : DeliveryOptions) (polls : Nat) (raw : RustString) (result : Option Outcome)
    (history : List Event) : PaneState → Prop
  | .blocked => contains (tail14 raw) rules.dismissibleOverlay = false →
      history = [sawScreen raw] ∧ result = some
        { refuse .paneBlockedOnPermission false "pre-send" exitBlocked 1 0 with
          harness := identity }
  | .busy =>
      match rules.midTurnFor identity.harness with
      | .refuse => ∃ busyAt waited middle screen,
          EntersWait rules (max (saturatingU64 opts.poll) 1) (saturatingU64 opts.wait) busyAt
            polls (firstProgress raw) [clocked busyAt, sawScreen raw] waited middle ∧
          Looked middle screen ∧ middle <:+ history
      | .queue => ∃ busyAt now ok,
          typed flat ok :: clocked now :: clocked busyAt :: [sawScreen raw] <:+ history
  | .capped => history = [sawScreen raw] ∧ ∃ hit, capped (tail14 raw) rules = some hit ∧
      result = some { cappedOutcome (firstProgress raw) hit with harness := identity }
  | .staleInput => ∃ ok, pressed .enter ok :: [sawScreen raw] <:+ history
  | .idle => ∃ ok, typed flat ok :: [sawScreen raw] <:+ history

theorem SubmitsStale.suffix (hsubmits : SubmitsStale rules progress before result after) :
    before <:+ after := by
  cases hsubmits with
  | fresh => exact List.suffix_refl before
  | unreadable _ ok => exact ⟨[readFailed, slept 3000, pressed .enter ok], rfl⟩
  | becameBlocked _ ok raw => exact ⟨[sawScreen raw, slept 3000, pressed .enter ok], rfl⟩
  | stuck _ ok raw => exact ⟨[sawScreen raw, slept 3000, pressed .enter ok], rfl⟩
  | submitted _ ok raw => exact ⟨[sawScreen raw, slept 3000, pressed .enter ok], rfl⟩

theorem SubmitsStale.enters (hsubmits : SubmitsStale rules progress before result after)
    (hstale : staleInput progress.screen = true) :
    ∃ ok, pressed .enter ok :: before <:+ after := by
  cases hsubmits with
  | fresh hfresh =>
      rw [hfresh] at hstale
      cases hstale
  | unreadable _ ok => exact ⟨ok, [readFailed, slept 3000], rfl⟩
  | becameBlocked _ ok raw => exact ⟨ok, [sawScreen raw, slept 3000], rfl⟩
  | stuck _ ok raw => exact ⟨ok, [sawScreen raw, slept 3000], rfl⟩
  | submitted _ ok raw => exact ⟨ok, [sawScreen raw, slept 3000], rfl⟩

theorem SubmitsStale.of_fresh (hsubmits : SubmitsStale rules progress before result after)
    (hfresh : staleInput progress.screen = false) : result = .ok progress ∧ after = before := by
  cases hsubmits with
  | fresh => exact ⟨rfl, rfl⟩
  | unreadable hstale => simp [hfresh] at hstale
  | becameBlocked hstale => simp [hfresh] at hstale
  | stuck hstale => simp [hfresh] at hstale
  | submitted hstale => simp [hfresh] at hstale

theorem SendsLine.types {outcome : Outcome}
    (hsends : SendsLine rules flat progress before outcome after) :
    ∃ ok, typed flat ok :: before <:+ after := by
  obtain ⟨events, ok, rfl, -⟩ := hsends.exists_send
  exact ⟨ok, List.suffix_append events _⟩

/-- What follows a screen that is neither blocked nor busy. -/
inductive Continues (rules : PaneRules) (flat : RustString) (progress : Progress)
    (before : List Event) : Option Outcome → List Event → Prop
  | capped (hit : CapHit) (hcap : capped progress.screen rules = some hit) :
      Continues rules flat progress before (some (cappedOutcome progress hit)) before
  | stale (stop : Option Outcome) (history : List Event)
      (hcap : capped progress.screen rules = none)
      (hstale : SubmitsStale rules progress before (.error stop) history) :
      Continues rules flat progress before stop history
  | sent (next : Progress) (outcome : Outcome) (middle history : List Event)
      (hcap : capped progress.screen rules = none)
      (hstale : SubmitsStale rules progress before (.ok next) middle)
      (hsend : SendsLine rules flat next middle outcome history) :
      Continues rules flat progress before (some outcome) history

variable {stop : Option Outcome}

theorem Continues.suffix (hcontinues : Continues rules flat progress before stop after) :
    before <:+ after := by
  cases hcontinues with
  | capped => exact List.suffix_refl before
  | stale _ _ _ hstale => exact hstale.suffix
  | sent _ _ _ _ _ hstale hsend =>
      obtain ⟨ok, htypes⟩ := hsend.types
      exact hstale.suffix.trans ((List.suffix_cons _ _).trans htypes)

theorem firstRead_inj {other : RustString} (hfirst : ∃ events, history = events ++ [sawScreen raw])
    (hother : ∃ events, history = events ++ [sawScreen other]) : raw = other := by
  obtain ⟨events, rfl⟩ := hfirst
  obtain ⟨others, hsame⟩ := hother
  have hlast := congrArg List.getLast? hsame
  simpa using hlast

theorem ClearsOverlay.of_clear (hclears : ClearsOverlay rules progress before result after)
    (hclear : blocked progress.screen rules = false) : result = .ok progress ∧ after = before := by
  cases hclears with
  | clear => exact ⟨rfl, rfl⟩
  | refused hblocked => simp [hclear] at hblocked
  | unreadable hblocked => simp [hclear] at hblocked
  | uncovered hblocked => simp [hclear] at hblocked
  | stillBlocked hblocked => simp [hclear] at hblocked

theorem ClearsOverlay.of_covered (hclears : ClearsOverlay rules progress before result after)
    (hblocked : blocked progress.screen rules = true)
    (hpersists : contains progress.screen rules.dismissibleOverlay = false) :
    result = refusal progress .paneBlockedOnPermission false "pre-send" exitBlocked ∧
      after = before := by
  cases hclears with
  | clear hclear => simp [hblocked] at hclear
  | refused => exact ⟨rfl, rfl⟩
  | unreadable _ hoverlay => simp [hpersists] at hoverlay
  | uncovered _ hoverlay => simp [hpersists] at hoverlay
  | stillBlocked _ hoverlay => simp [hpersists] at hoverlay

/-- The way of a delivery from a first screen that is not blocked: past a busy pane, and on. -/
inductive Advances (rules : PaneRules) (harness flat : RustString) (opts : DeliveryOptions)
    (raw : RustString) : Option Outcome → List Event → Prop
  | stopped (stop : Option Outcome) (history : List Event)
      (hbusy : PassesBusy rules harness flat (max (saturatingU64 opts.poll) 1)
        (saturatingU64 opts.wait) (firstProgress raw) [sawScreen raw] (.error stop) history) :
      Advances rules harness flat opts raw stop history
  | passed (stop : Option Outcome) (idle : Progress) (middle history : List Event)
      (hbusy : PassesBusy rules harness flat (max (saturatingU64 opts.poll) 1)
        (saturatingU64 opts.wait) (firstProgress raw) [sawScreen raw] (.ok idle) middle)
      (hcontinues : Continues rules flat idle middle stop history) :
      Advances rules harness flat opts raw stop history

theorem StopsEarly.advances (hstop : StopsEarly rules harness flat opts raw stop history)
    (hclear : blocked (tail14 raw) rules = false) :
    Advances rules harness flat opts raw stop history := by
  cases hstop with
  | overlay _ _ hoverlay => cases (hoverlay.of_clear hclear).1
  | busy _ _ _ _ hoverlay hbusy =>
      obtain ⟨hsame, rfl⟩ := hoverlay.of_clear hclear
      cases hsame
      exact .stopped stop history hbusy
  | capped _ idle _ _ hit hoverlay hbusy hcap =>
      obtain ⟨hsame, rfl⟩ := hoverlay.of_clear hclear
      cases hsame
      exact .passed _ idle history history hbusy (.capped hit hcap)
  | stale _ _ idle _ middle _ hoverlay hbusy hcap hstale =>
      obtain ⟨hsame, rfl⟩ := hoverlay.of_clear hclear
      cases hsame
      exact .passed stop idle middle history hbusy (.stale stop history hcap hstale)

theorem ReadyToSend.advances {outcome : Outcome}
    (hready : ReadyToSend rules harness flat opts raw progress before)
    (hsend : SendsLine rules flat progress before outcome after)
    (hclear : blocked (tail14 raw) rules = false) :
    Advances rules harness flat opts raw (some outcome) after := by
  obtain ⟨uncovered, history₁, idle, middle, hoverlay, hbusy, hcap, hstale⟩ := hready.path
  obtain ⟨hsame, rfl⟩ := hoverlay.of_clear hclear
  cases hsame
  exact .passed _ idle middle after hbusy (.sent progress outcome before after hcap hstale hsend)

theorem Delivers.advances {text : RustString} {outcome : Option Outcome}
    (hdelivers : Delivers rules selector text opts outcome history)
    (hfirst : ∃ events, history = events ++ [sawScreen raw])
    (hclear : blocked (tail14 raw) rules = false) :
    ∃ stop, outcome = stop.map (fun bare : Outcome =>
        { bare with harness := identityOf rules selector (tail14 raw) }) ∧
      Advances rules (identityOf rules selector (tail14 raw)).harness (flatten text) opts raw stop
        history := by
  cases hdelivers with
  | unreadable =>
      obtain ⟨events, hsame⟩ := hfirst
      have hlast := congrArg List.getLast? hsame
      simp [readFailed, sawScreen] at hlast
  | stopped other stop history hother hstop =>
      obtain rfl := firstRead_inj hfirst hother
      exact ⟨stop, rfl, hstop.advances hclear⟩
  | sent other progress bare before history hother hready hsend =>
      obtain rfl := firstRead_inj hfirst hother
      exact ⟨some bare, rfl, hready.advances hsend hclear⟩

/-- A blocked first screen that no overlay explains ends the delivery. -/
theorem Delivers.refuses_blocked {text : RustString} {outcome : Option Outcome}
    (hdelivers : Delivers rules selector text opts outcome history)
    (hfirst : ∃ events, history = events ++ [sawScreen raw])
    (hblocked : blocked (tail14 raw) rules = true)
    (hpersists : contains (tail14 raw) rules.dismissibleOverlay = false) :
    history = [sawScreen raw] ∧ outcome = some
      { refuse .paneBlockedOnPermission false "pre-send" exitBlocked 1 0 with
        harness := identityOf rules selector (tail14 raw) } := by
  have hrefused : ∀ {passed : Verdict Progress} {middle : List Event},
      ClearsOverlay rules (firstProgress raw) [sawScreen raw] passed middle →
      passed = refusal (firstProgress raw) .paneBlockedOnPermission false "pre-send" exitBlocked ∧
        middle = [sawScreen raw] := fun hoverlay => hoverlay.of_covered hblocked hpersists
  cases hdelivers with
  | unreadable =>
      obtain ⟨events, hsame⟩ := hfirst
      have hlast := congrArg List.getLast? hsame
      simp [readFailed, sawScreen] at hlast
  | stopped other stop history hother hstop =>
      obtain rfl := firstRead_inj hfirst hother
      cases hstop with
      | overlay _ _ hoverlay =>
          obtain ⟨hstopped, rfl⟩ := hrefused hoverlay
          cases hstopped
          exact ⟨rfl, rfl⟩
      | busy _ _ _ _ hoverlay => cases (hrefused hoverlay).1
      | capped _ _ _ _ _ hoverlay => cases (hrefused hoverlay).1
      | stale _ _ _ _ _ _ hoverlay => cases (hrefused hoverlay).1
  | sent other progress bare before history hother hready =>
      obtain rfl := firstRead_inj hfirst hother
      obtain ⟨_, _, _, _, hoverlay, -⟩ := hready.path
      cases (hrefused hoverlay).1

theorem Advances.of_idle (hadvances : Advances rules harness flat opts raw stop history)
    (hidle : busy (tail14 raw) rules = false) :
    Continues rules flat (firstProgress raw) [sawScreen raw] stop history := by
  have hnot : busy (firstProgress raw).screen rules ≠ true := by
    rw [firstProgress, hidle]
    exact Bool.false_ne_true
  cases hadvances with
  | stopped _ hbusy =>
      cases hbusy with
      | queued hworking => exact absurd hworking hnot
      | stopped hworking => exact absurd hworking hnot
      | stillThinking hworking => exact absurd hworking hnot
  | passed idle middle _ hbusy hcontinues =>
      cases hbusy with
      | idle => exact hcontinues
      | waited hworking => exact absurd hworking hnot

theorem Waits.suffix {pollMs budgetMs busyAt : UInt64}
    (hwaits : Waits rules pollMs budgetMs busyAt progress before result after) :
    before <:+ after := by
  induction hwaits with
  | outOfFuel => exact List.suffix_refl _
  | spent => exact List.suffix_cons _ _
  | unreadable => exact List.suffix_append [_, _, _] _
  | becameBlocked => exact List.suffix_append [_, _, _, _] _
  | becameIdle => exact List.suffix_append [_, _, _] _
  | stillBusy _ _ _ _ _ _ _ _ _ _ ih => exact (List.suffix_append [_, _, _] _).trans ih

theorem waitForIdle_enters {pollMs budgetMs busyAt : UInt64} {polls : Nat}
    (hrun : Tries (waitForIdle rules pollMs budgetMs busyAt polls progress) before result after) :
    EntersWait rules pollMs budgetMs busyAt polls progress before result after := by
  have hwaits := waitForIdle_cases hrun
  have hcut : result = .error none →
      (after.filterMap readOf).length = (before.filterMap readOf).length + polls := by
    rintro rfl
    exact waitForIdle_cut hrun
  refine ⟨hwaits, fun hpolls => ?_, hcut⟩
  cases hwaits with
  | outOfFuel =>
      have hnone := hcut rfl
      omega
  | spent _ _ now hspent => exact ⟨now, .inl ⟨hspent, rfl, rfl⟩⟩
  | unreadable _ _ now hleft => exact ⟨now, .inr ⟨hleft, none, List.suffix_refl _⟩⟩
  | becameBlocked _ _ now later raw hleft =>
      exact ⟨now, .inr ⟨hleft, some raw, List.suffix_cons _ _⟩⟩
  | becameIdle _ _ now raw hleft => exact ⟨now, .inr ⟨hleft, some raw, List.suffix_refl _⟩⟩
  | stillBusy _ _ _ now raw _ hleft _ _ hrest =>
      exact ⟨now, .inr ⟨hleft, some raw, hrest.suffix⟩⟩

theorem passBusy_waits {pollMs budgetMs : UInt64} {polls : Nat}
    (hrun : Tries (passBusy rules harness flat pollMs budgetMs polls progress) before result
      after)
    (hworking : busy progress.screen rules = true)
    (hpolicy : rules.midTurnFor harness = .refuse) :
    ∃ busyAt waited middle, EntersWait rules pollMs budgetMs busyAt polls progress
      (clocked busyAt :: before) waited middle ∧ middle <:+ after := by
  unfold passBusy ask at hrun
  rw [if_pos hworking] at hrun
  obtain ⟨busyAt, hrun⟩ := tries_request_bind.mp hrun
  simp only [hpolicy] at hrun
  rcases tries_bind.mp hrun with ⟨last, middle, hwait, hrest⟩ | ⟨stop, rfl, hwait⟩
  · exact ⟨busyAt, .ok last, middle, waitForIdle_enters hwait, Runs.suffix hrest⟩
  · exact ⟨busyAt, .error stop, after, waitForIdle_enters hwait, List.suffix_refl after⟩

/-- A delivery that first sees a busy pane of a harness that refuses mid-turn sends waits. -/
theorem deliver_waits {text : RustString} {polls : Nat} {outcome : Option Outcome}
    (hrun : Runs (deliver rules selector text opts polls) [] outcome history)
    (hfirst : ∃ events, history = events ++ [sawScreen raw])
    (hclear : blocked (tail14 raw) rules = false) (hworking : busy (tail14 raw) rules = true)
    (hpolicy : rules.midTurnFor (identityOf rules selector (tail14 raw)).harness = .refuse) :
    ∃ busyAt waited middle, EntersWait rules (max (saturatingU64 opts.poll) 1)
      (saturatingU64 opts.wait) busyAt polls (firstProgress raw)
      [clocked busyAt, sawScreen raw] waited middle ∧ middle <:+ history := by
  rw [deliver] at hrun
  obtain ⟨answer, _, hread, hrun⟩ := runs_bind.mp hrun
  obtain rfl := runs_request.mp hread
  obtain ⟨exchanges, hhistory⟩ := Runs.exists_append hrun
  obtain ⟨events, hsame⟩ := hfirst
  have hlast := congrArg List.getLast? (hhistory.symm.trans hsame)
  cases answer with
  | none => simp [sawScreen] at hlast
  | some first =>
      obtain rfl : first = raw := by simpa [sawScreen] using hlast
      obtain ⟨verdict, middle, hbody, hrest⟩ := runs_bind.mp hrun
      have hwaits : ∃ busyAt waited last, EntersWait rules (max (saturatingU64 opts.poll) 1)
          (saturatingU64 opts.wait) busyAt polls (firstProgress first)
          [clocked busyAt, sawScreen first] waited last ∧ last <:+ middle := by
        have hbody : Tries (deliverFrom rules (identityOf rules selector (tail14 first)).harness
          (flatten text) opts polls (firstProgress first)) [sawScreen first] verdict middle :=
          hbody
        rw [deliverFrom] at hbody
        rcases tries_bind.mp hbody with ⟨uncovered, _, hoverlay, hbody⟩ | ⟨stop, -, hoverlay⟩
        · obtain ⟨hsame, rfl⟩ := (clearOverlay_cases hoverlay).of_clear hclear
          cases hsame
          rcases tries_bind.mp hbody with ⟨idle, passed, hbusy, hlater⟩ | ⟨stop, -, hbusy⟩
          · obtain ⟨busyAt, waited, last, henters, hlast⟩ := passBusy_waits hbusy hworking hpolicy
            exact ⟨busyAt, waited, last, henters, hlast.trans (Runs.suffix hlater)⟩
          · exact passBusy_waits hbusy hworking hpolicy
        · cases ((clearOverlay_cases hoverlay).of_clear hclear).1
      obtain ⟨busyAt, waited, last, henters, hlast⟩ := hwaits
      exact ⟨busyAt, waited, last, henters, hlast.trans hrest.suffix⟩

theorem PassesBusy.queues {pollMs budgetMs : UInt64}
    (hpasses : PassesBusy rules harness flat pollMs budgetMs progress before result after)
    (hworking : busy progress.screen rules = true)
    (hqueue : rules.midTurnFor harness = .queue) :
    ∃ busyAt now ok, typed flat ok :: clocked now :: clocked busyAt :: before <:+ after := by
  cases hpasses with
  | idle hidle =>
      rw [hidle] at hworking
      cases hworking
  | queued _ hpolicy busyAt outcome after hsend =>
      obtain ⟨events, now, ok, rfl, -⟩ := hsend.exists_send
      exact ⟨busyAt, now, ok, List.suffix_append events _⟩
  | stopped _ hpolicy => simp [hpolicy] at hqueue
  | waited _ hpolicy => simp [hpolicy] at hqueue
  | stillThinking _ hpolicy => simp [hpolicy] at hqueue

theorem Advances.queues (hadvances : Advances rules harness flat opts raw stop history)
    (hworking : busy (tail14 raw) rules = true)
    (hqueue : rules.midTurnFor harness = .queue) :
    ∃ busyAt now ok,
      typed flat ok :: clocked now :: clocked busyAt :: [sawScreen raw] <:+ history := by
  cases hadvances with
  | stopped _ hbusy => exact hbusy.queues hworking hqueue
  | passed idle middle _ hbusy hcontinues =>
      obtain ⟨busyAt, now, ok, htyped⟩ := hbusy.queues hworking hqueue
      exact ⟨busyAt, now, ok, htyped.trans hcontinues.suffix⟩

/-- What the status command prints of a screen is what every run of `deliver` that first reads
that screen does with it. -/
theorem deliver_follows_status {text : RustString} {fuel : Nat} {outcome : Option Outcome}
    (hrun : Runs (deliver rules selector text opts fuel) [] outcome history)
    (hfirst : ∃ events, history = events ++ [sawScreen raw]) :
    (∀ surface printed, Runs (status rules surface) [] printed [sawScreen raw] →
      printed = (some (statusLine surface (tail14 raw) rules), 0)) ∧
    Follows rules (identityOf rules selector (tail14 raw)) (flatten text) opts fuel raw outcome
      history (classify (tail14 raw) rules) := by
  refine ⟨fun surface printed => status_printed, ?_⟩
  have hdelivers := deliver_cases hrun
  cases hstate : classify (tail14 raw) rules with
  | blocked =>
      have hblocked := classify_blocked_iff.mp hstate
      exact hdelivers.refuses_blocked hfirst hblocked
  | busy =>
      obtain ⟨hclear, hworking⟩ := classify_busy_iff.mp hstate
      cases hpolicy : rules.midTurnFor (identityOf rules selector (tail14 raw)).harness with
      | refuse =>
          obtain ⟨busyAt, waited, middle, henters, hmiddle⟩ :=
            deliver_waits hrun hfirst hclear hworking hpolicy
          obtain ⟨screen, hlooked⟩ :=
            (henters.waits.leaves ((firstProgress_looked raw).clock busyAt) hclear).1
          simp only [Follows, hpolicy]
          exact ⟨busyAt, waited, middle, screen, henters, hlooked, hmiddle⟩
      | queue =>
          obtain ⟨stop, rfl, hadvances⟩ := hdelivers.advances hfirst hclear
          simp only [Follows, hpolicy]
          exact hadvances.queues hworking hpolicy
  | capped =>
      obtain ⟨hclear, hidle, hit, hcap⟩ := classify_capped_iff.mp hstate
      obtain ⟨stop, rfl, hadvances⟩ := hdelivers.advances hfirst hclear
      cases hadvances.of_idle hidle with
      | capped other hother =>
          obtain rfl := Option.some.inj (hcap.symm.trans hother)
          exact ⟨rfl, hit, hcap, rfl⟩
      | stale _ _ hnone =>
          rw [show capped (firstProgress raw).screen rules = some hit from hcap] at hnone
          cases hnone
      | sent _ _ _ _ hnone =>
          rw [show capped (firstProgress raw).screen rules = some hit from hcap] at hnone
          cases hnone
  | staleInput =>
      obtain ⟨hclear, hidle, hnone, hstale⟩ := classify_staleInput_iff.mp hstate
      obtain ⟨stop, rfl, hadvances⟩ := hdelivers.advances hfirst hclear
      cases hadvances.of_idle hidle with
      | capped hit hcap =>
          rw [show capped (firstProgress raw).screen rules = none from hnone] at hcap
          cases hcap
      | stale _ _ _ hsubmits => exact hsubmits.enters hstale
      | sent _ _ _ _ _ hsubmits hsend =>
          obtain ⟨ok, henter⟩ := hsubmits.enters hstale
          obtain ⟨again, htypes⟩ := hsend.types
          exact ⟨ok, henter.trans ((List.suffix_cons _ _).trans htypes)⟩
  | idle =>
      obtain ⟨hclear, hidle, hnone, hfresh⟩ := classify_idle_iff.mp hstate
      obtain ⟨stop, rfl, hadvances⟩ := hdelivers.advances hfirst hclear
      cases hadvances.of_idle hidle with
      | capped hit hcap =>
          rw [show capped (firstProgress raw).screen rules = none from hnone] at hcap
          cases hcap
      | stale _ _ _ hsubmits => cases (hsubmits.of_fresh hfresh).1
      | sent _ _ _ _ _ hsubmits hsend =>
          obtain ⟨-, rfl⟩ := hsubmits.of_fresh hfresh
          exact hsend.types

/-- A pane that works and shows a cap. -/
def busyAndCapped : RustString := rs "Working (1s)\nfree-models-per-day"

/-- A harness that refuses while busy waits for that pane; the cap comes second. -/
theorem deliver_follows_status_busy :
    (∀ surface printed, Runs (status fewRules surface) [] printed [sawScreen busyAndCapped] →
      printed = (some (statusLine surface (tail14 busyAndCapped) fewRules), 0)) ∧
    classify (tail14 busyAndCapped) fewRules = .busy ∧
      ∃ busyAt waited middle screen,
        EntersWait fewRules 5000 180000 busyAt 2 (firstProgress busyAndCapped)
          [clocked busyAt, sawScreen busyAndCapped] waited middle ∧
        Looked middle screen ∧
        middle <:+ ((deliver fewRules ⟨none, none⟩ (rs "hello") ⟨5000, 180000⟩ 2).play
          (scripted [busyAndCapped, busyAndCapped, rs "❯ "]) []).2 := by
  have hstate : classify (tail14 busyAndCapped) fewRules = .busy := by decide
  obtain ⟨hprinted, hfollows⟩ := deliver_follows_status (runs_play (scripted [busyAndCapped,
    busyAndCapped, rs "❯ "]) (deliver fewRules ⟨none, none⟩ (rs "hello") ⟨5000, 180000⟩ 2) [])
    (List.getLast?_eq_some_iff.mp rfl)
  rw [hstate] at hfollows
  exact ⟨hprinted, hstate, hfollows⟩

end OdinSentinel.Say
