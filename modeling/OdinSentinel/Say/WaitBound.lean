import OdinSentinel.Core.Budget
import OdinSentinel.Say.Clock

/-!
# The bound of a wait

A delivery that waits for a busy pane spends its budget in polls: it reads the pane no more
often than the budget has poll intervals, sleeps no longer than the budget, and refuses only
when the budget is spent.
-/

namespace OdinSentinel.Say

open RustText Dialogue Budget

variable {rules : PaneRules} {selector : HarnessSelector} {harness flat : RustString}
variable {progress : Progress} {history before after : List Event} {time : List Event → Nat}
variable {pollMs budgetMs busyAt : UInt64}

/-! ## One poll -/

/-- What is left of the budget behind a history. -/
def leftAt (time : List Event → Nat) (budgetMs busyAt : UInt64) (history : List Event) : Nat :=
  budgetMs.toNat - (time history - busyAt.toNat)

/-- The pause of one poll. -/
def pauseMs (pollMs budgetMs busyAt now : UInt64) : Nat :=
  (min pollMs (budgetMs - (now - busyAt))).toNat

theorem toNat_min (left right : UInt64) : (min left right).toNat = min left.toNat right.toNat := by
  change (if left ≤ right then left else right).toNat = _
  by_cases hle : left ≤ right
  · rw [if_pos hle, Nat.min_eq_left (UInt64.le_iff_toNat_le.mp hle)]
  · rw [UInt64.le_iff_toNat_le, Nat.not_le] at hle
    rw [if_neg (UInt64.le_iff_toNat_le.not.mpr (Nat.not_le_of_lt hle)),
      Nat.min_eq_right (Nat.le_of_lt hle)]

section Poll

variable {now : UInt64} (htells : TellsTime time (clocked now :: before))
  (hbusyAt : busyAt.toNat ≤ time before)
include htells hbusyAt

theorem toNat_waited : (now - busyAt).toNat = time before - busyAt.toNat := by
  have hnow := htells.tells now before (List.suffix_refl _)
  have hle : busyAt ≤ now := by
    rw [UInt64.le_iff_toNat_le, hnow]
    exact hbusyAt
  rw [UInt64.toNat_sub_of_le now busyAt hle, hnow]

theorem leftAt_pos_iff : 0 < leftAt time budgetMs busyAt before ↔ ¬budgetMs ≤ now - busyAt := by
  rw [leftAt, UInt64.le_iff_toNat_le, toNat_waited htells hbusyAt]
  omega

/-- A poll sleeps for an interval, or for what is left. -/
theorem pauseMs_eq (hleft : ¬budgetMs ≤ now - busyAt) :
    pauseMs pollMs budgetMs busyAt now =
      min pollMs.toNat (leftAt time budgetMs busyAt before) := by
  have hle : now - busyAt ≤ budgetMs := by
    rw [UInt64.le_iff_toNat_le] at hleft ⊢
    omega
  rw [pauseMs, toNat_min, UInt64.toNat_sub_of_le budgetMs _ hle, toNat_waited htells hbusyAt,
    leftAt]

end Poll

/-- Behind the pause of a poll that much less is left. -/
theorem leftAt_slept {now : UInt64} {event : Event}
    (htells : TellsTime time (event :: slept (pauseMs pollMs budgetMs busyAt now) ::
      clocked now :: before))
    (hsleeps : SleepsFully time (event :: slept (pauseMs pollMs budgetMs busyAt now) ::
      clocked now :: before))
    (hbusyAt : busyAt.toNat ≤ time before) (hleft : ¬budgetMs ≤ now - busyAt) :
    leftAt time budgetMs busyAt
        (event :: slept (pauseMs pollMs budgetMs busyAt now) :: clocked now :: before) ≤
      leftAt time budgetMs busyAt before -
        min pollMs.toNat (leftAt time budgetMs busyAt before) := by
  have hslept := htells.suffix (List.suffix_cons _ _)
  have hclocked := hslept.suffix (List.suffix_cons _ _)
  have hstart := hclocked.forward _ _ (List.suffix_refl _)
  have hpause := hsleeps _ _ (List.suffix_cons _ _)
  have hend := htells.forward _ _ (List.suffix_refl _)
  rw [← pauseMs_eq hclocked hbusyAt hleft]
  calc
    leftAt time budgetMs busyAt
        (event :: slept (pauseMs pollMs budgetMs busyAt now) :: clocked now :: before) ≤
        budgetMs.toNat -
          (time before + pauseMs pollMs budgetMs busyAt now - busyAt.toNat) := by
      apply Nat.sub_le_sub_left
      apply Nat.sub_le_sub_right
      exact (Nat.add_le_add_right hstart _).trans (hpause.trans hend)
    _ = leftAt time budgetMs busyAt before - pauseMs pollMs budgetMs busyAt now := by
      rw [leftAt]
      omega

/-! ## The whole wait -/

theorem spends_one {now : UInt64} (htells : TellsTime time (clocked now :: before))
    (hbusyAt : busyAt.toNat ≤ time before) (hleft : ¬budgetMs ≤ now - busyAt) :
    Spends pollMs.toNat (leftAt time budgetMs busyAt before)
      [pauseMs pollMs budgetMs busyAt now] := by
  rw [pauseMs_eq htells hbusyAt hleft]
  exact .spend (Nat.le_refl _) ((leftAt_pos_iff htells hbusyAt).mpr hleft) (Nat.le_refl _)
    (.stop _)

/-- The steps of a wait spend what is left of its budget. -/
theorem Waits.spends {result : Verdict Progress}
    (hwaits : Waits rules pollMs budgetMs busyAt progress before result after)
    (htells : TellsTime time after) (hsleeps : SleepsFully time after)
    (hbusyAt : busyAt.toNat ≤ time before) :
    ∃ steps, Spends pollMs.toNat (leftAt time budgetMs busyAt before) steps ∧
      waitingSleeps after = steps.reverse ++ waitingSleeps before ∧
      waitingReads after = waitingReads before + steps.length := by
  induction hwaits with
  | outOfFuel progress before => exact ⟨[], .stop _, rfl, rfl⟩
  | spent progress before now => exact ⟨[], .stop _, rfl, rfl⟩
  | unreadable progress before now hleft =>
      have hclocked := htells.suffix ((List.suffix_cons _ _).trans (List.suffix_cons _ _))
      exact ⟨_, spends_one hclocked hbusyAt hleft, rfl, rfl⟩
  | becameBlocked progress before now later raw hleft =>
      have hslept := htells.suffix ((List.suffix_cons _ _).trans (List.suffix_cons _ _))
      exact ⟨_, spends_one (hslept.suffix (List.suffix_cons _ _)) hbusyAt hleft, rfl, rfl⟩
  | becameIdle progress before now raw hleft =>
      have hclocked := htells.suffix ((List.suffix_cons _ _).trans (List.suffix_cons _ _))
      exact ⟨_, spends_one hclocked hbusyAt hleft, rfl, rfl⟩
  | stillBusy progress before after now raw result hleft hclear hbusy hrest ih =>
      obtain ⟨events, hafter, -⟩ := hrest.unescaped
      have hread : sawScreen raw :: slept (pauseMs pollMs budgetMs busyAt now) :: clocked now ::
          before <:+ after := by
        rw [hafter]
        exact List.suffix_append _ _
      have hmiddle := htells.suffix hread
      have hclocked := hmiddle.suffix ((List.suffix_cons _ _).trans (List.suffix_cons _ _))
      have hlater : time before ≤ time (sawScreen raw :: slept (pauseMs pollMs budgetMs busyAt now)
          :: clocked now :: before) :=
        hmiddle.mono ⟨[sawScreen raw, slept _, clocked now], rfl⟩
      obtain ⟨steps, hspends, hwaited, hreads⟩ := ih htells hsleeps (hbusyAt.trans hlater)
      refine ⟨pauseMs pollMs budgetMs busyAt now :: steps, ?_, ?_, ?_⟩
      · rw [pauseMs_eq hclocked hbusyAt hleft]
        exact .spend (Nat.le_refl _) ((leftAt_pos_iff hclocked hbusyAt).mpr hleft)
          (leftAt_slept hmiddle (hsleeps.suffix hread) hbusyAt hleft) hspends
      · rw [hwaited, List.reverse_cons, List.append_assoc]
        rfl
      · rw [hreads, List.length_cons, ← Nat.add_assoc, Nat.add_right_comm]
        rfl

/-! ## Spent fuel -/

/-- A wait whose fuel is spent has polled that often. -/
theorem waitForIdle_fuel {fuel : Nat}
    (hrun : Tries (waitForIdle rules pollMs budgetMs busyAt fuel progress) before (.error none)
      after) : waitingReads after = waitingReads before + fuel := by
  induction fuel generalizing progress before with
  | zero =>
      obtain ⟨-, rfl⟩ := tries_throw.mp hrun
      rfl
  | succ fuel ih =>
      unfold waitForIdle ask at hrun
      obtain ⟨now, hrun⟩ := tries_request_bind.mp hrun
      dsimp only at hrun
      split_ifs at hrun with hspent
      · cases (tries_pure.mp hrun).1
      · obtain ⟨_, hrun⟩ := tries_request_bind.mp hrun
        rcases tries_bind.mp hrun with ⟨screen, middle, hread, hnext⟩ | ⟨stop, hstop, hread⟩
        · obtain ⟨raw, hscreen, rfl⟩ | ⟨hscreen, -⟩ := tries_reread.mp hread
          · cases hscreen
            split_ifs at hnext with hblocked hbusy
            · obtain ⟨later, hnext⟩ := tries_request_bind.mp hnext
              cases (tries_giveUp.mp hnext).1
            · rw [ih hnext, Nat.add_comm fuel 1, ← Nat.add_assoc]
              rfl
            · cases (tries_pure.mp hnext).1
          · cases hscreen
        · cases hstop
          obtain ⟨_, hread, -⟩ | ⟨hread, -⟩ := tries_reread.mp hread
          · cases hread
          · cases hread

theorem passBusy_fuel {fuel : Nat}
    (hrun : Tries (passBusy rules harness flat pollMs budgetMs fuel progress) before (.error none)
      after) : ∃ busyAt, waitingReads after = waitingReads (clocked busyAt :: before) + fuel := by
  unfold passBusy ask at hrun
  split_ifs at hrun with hbusy
  · obtain ⟨busyAt, hrun⟩ := tries_request_bind.mp hrun
    cases hpolicy : rules.midTurnFor harness with
    | queue =>
        simp only [hpolicy] at hrun
        obtain ⟨outcome, hstop, -⟩ := sendQueued_cases hrun
        cases hstop
    | refuse =>
        simp only [hpolicy] at hrun
        rcases tries_bind.mp hrun with ⟨last, middle, hwait, hrun⟩ | ⟨stop, hstop, hwait⟩
        · obtain ⟨now, hrun⟩ := tries_request_bind.mp hrun
          split_ifs at hrun with hstill
          · cases (tries_giveUp.mp hrun).1
          · cases (tries_pure.mp hrun).1
        · cases hstop
          exact ⟨busyAt, waitForIdle_fuel hwait⟩
  · cases (tries_pure.mp hrun).1

theorem deliverFrom_fuel {opts : DeliveryOptions} {fuel : Nat}
    (hrun : Tries (deliverFrom rules harness flat opts fuel progress) before (.error none)
      after) : fuel ≤ waitingReads after := by
  rw [deliverFrom] at hrun
  rcases tries_bind.mp hrun with ⟨uncovered, history₁, -, hrun⟩ | ⟨stop, hstop, hoverlay⟩
  · rcases tries_bind.mp hrun with ⟨idle, history₂, -, hrun⟩ | ⟨stop, hstop, hbusy⟩
    · rcases tries_bind.mp hrun with ⟨opened, history₃, -, hrun⟩ | ⟨stop, hstop, hcap⟩
      · rcases tries_bind.mp hrun with ⟨ready, history₄, -, hrun⟩ | ⟨stop, hstop, hstale⟩
        · obtain ⟨outcome, hends | hends, -⟩ := sendLine_cases hrun
          · cases hends
          · cases hends
        · cases hstop
          cases submitStale_cases hstale
      · cases hstop
        obtain ⟨-, ⟨hit, -, hcapped⟩ | ⟨-, hcapped⟩⟩ := refuseCapped_cases hcap
        · cases hcapped
        · cases hcapped
    · cases hstop
      obtain ⟨busyAt, hreads⟩ := passBusy_fuel hbusy
      rw [hreads]
      exact Nat.le_add_left _ _
  · cases hstop
    cases clearOverlay_cases hoverlay

/-- A delivery ends without an outcome only behind as many polls as it has fuel. -/
theorem deliver_fuel {text : RustString} {opts : DeliveryOptions} {fuel : Nat}
    (hrun : Runs (deliver rules selector text opts fuel) [] none history) :
    fuel ≤ waitingReads history := by
  rw [deliver] at hrun
  obtain ⟨answer, _, hread, hrun⟩ := runs_bind.mp hrun
  cases answer with
  | none => cases (runs_pure.mp hrun).1
  | some raw =>
      obtain ⟨verdict, middle, hbody, hrun⟩ := runs_bind.mp hrun
      cases verdict with
      | ok outcome => cases (runs_pure.mp hrun).1
      | error stop =>
          obtain ⟨hstop, rfl⟩ := runs_pure.mp hrun
          cases stop with
          | some outcome => cases hstop
          | none => exact deliverFrom_fuel hbody

/-! ## The bound -/

/-- A history whose wait keeps within its budget: it polls no more often than the budget has
intervals, sleeps no longer than the budget, and no difference of two readings or of the
budget and the time waited is negative. -/
structure WaitsWithin (pollMs budgetMs : UInt64) (history : List Event) : Prop where
  reads : waitingReads history ≤ budgetMs.toNat ⌈/⌉ pollMs.toNat
  sleeps : (waitingSleeps history).sum ≤ budgetMs.toNat
  forward : ∀ first ∈ (readings history).getLast?, ∀ now ∈ readings history, first ≤ now
  left : ∀ first ∈ (readings history).getLast?, ∀ pause ∈ pauses history,
    pause.1 - first < budgetMs

theorem WaitsWithin.unclocked (hwithin : WaitsWithin pollMs budgetMs before)
    (hunclocked : Unclocked before after) : WaitsWithin pollMs budgetMs after where
  reads := hunclocked.reads_eq ▸ hwithin.reads
  sleeps := by
    rw [waitingSleeps, hunclocked.pauses_eq]
    exact hwithin.sleeps
  forward := by
    rw [hunclocked.readings_eq]
    exact hwithin.forward
  left := by
    rw [hunclocked.readings_eq, hunclocked.pauses_eq]
    exact hwithin.left

theorem Timeless.within (htimeless : Timeless history) : WaitsWithin pollMs budgetMs history where
  reads := by
    rw [htimeless.reads_eq]
    exact Nat.zero_le _
  sleeps := by
    rw [waitingSleeps, htimeless.pauses_eq]
    exact Nat.zero_le _
  forward := by
    rw [htimeless.readings_eq]
    rintro first ⟨⟩
  left := by
    rw [htimeless.readings_eq]
    rintro first ⟨⟩

theorem Waits.pauses_left {result : Verdict Progress}
    (hwaits : Waits rules pollMs budgetMs busyAt progress before result after) :
    ∀ pause ∈ pauses after, pause ∈ pauses before ∨ pause.1 - busyAt < budgetMs := by
  have hone : ∀ {now : UInt64} {ms : Nat} {before : List Event}, ¬budgetMs ≤ now - busyAt →
      ∀ pause ∈ (now, ms) :: pauses before,
        pause ∈ pauses before ∨ pause.1 - busyAt < budgetMs := by
    intro now ms before hleft pause hpause
    rcases List.mem_cons.mp hpause with rfl | hpause
    · exact .inr (UInt64.not_le.mp hleft)
    · exact .inl hpause
  induction hwaits with
  | outOfFuel => exact fun pause hpause => .inl hpause
  | spent => exact fun pause hpause => .inl hpause
  | unreadable progress before now hleft => exact hone hleft
  | becameBlocked progress before now later raw hleft => exact hone hleft
  | becameIdle progress before now raw hleft => exact hone hleft
  | stillBusy progress before after now raw result hleft hclear hbusy hrest ih =>
      intro pause hpause
      rcases ih pause hpause with hpause | hpause
      · exact hone hleft pause hpause
      · exact .inr hpause

/-- The wait of a delivery keeps within its budget, from its first reading of the clock on. -/
theorem Waits.within {result : Verdict Progress} (hbefore : Timeless before)
    (hwaits : Waits rules pollMs budgetMs busyAt progress (clocked busyAt :: before) result after)
    (htells : TellsTime time after) (hsleeps : SleepsFully time after) (hpoll : 0 < pollMs) :
    WaitsWithin pollMs budgetMs after := by
  obtain ⟨events, hafter, -⟩ := hwaits.unescaped
  have hclocked := htells.suffix (hafter ▸ List.suffix_append events (clocked busyAt :: before))
  have hbusyAt : busyAt.toNat ≤ time (clocked busyAt :: before) :=
    hclocked.reading_le List.mem_cons_self
  obtain ⟨steps, hspends, hslept, hreads⟩ := hwaits.spends htells hsleeps hbusyAt
  have hspends := hspends.of_le (Nat.sub_le budgetMs.toNat _)
  obtain ⟨later, hreadings⟩ := hwaits.readings_eq hbefore.readings_eq
  have hfirst : (readings after).getLast? = some busyAt := by
    rw [hreadings]
    exact List.getLast?_concat
  constructor
  · have hnone : waitingReads (clocked busyAt :: before) = 0 := hbefore.reads_eq
    rw [hreads, hnone, Nat.zero_add]
    exact hspends.length_le hpoll
  · have hnone : waitingSleeps (clocked busyAt :: before) = [] :=
      congrArg (List.map Prod.snd) hbefore.pauses_eq
    rw [hslept, hnone, List.append_nil, List.sum_reverse]
    exact hspends.sum_le
  · intro first hmem now hnow
    rw [hfirst] at hmem
    cases hmem
    exact htells.first_le hreadings hnow
  · intro first hmem pause hpause
    rw [hfirst] at hmem
    cases hmem
    rcases hwaits.pauses_left pause hpause with hnone | hleft
    · have hempty : pauses (clocked busyAt :: before) = [] := hbefore.pauses_eq
      rw [hempty] at hnone
      cases hnone
    · exact hleft

/-- One more reading behind others. -/
theorem WaitsWithin.clock {now first : UInt64} {later : List UInt64}
    (hwithin : WaitsWithin pollMs budgetMs before) (hreadings : readings before = later ++ [first])
    (htells : TellsTime time (clocked now :: before)) :
    WaitsWithin pollMs budgetMs (clocked now :: before) := by
  have hfirst : (readings (clocked now :: before)).getLast? = (readings before).getLast? := by
    rw [readings_cons_clocked, hreadings, ← List.cons_append, List.getLast?_concat,
      List.getLast?_concat]
  have hsorted := htells.readings_sorted
  rw [readings_cons_clocked] at hsorted
  refine ⟨hwithin.reads, hwithin.sleeps, ?_, ?_⟩
  · intro earliest hmem other hother
    rw [hfirst] at hmem
    rcases List.mem_cons.mp hother with rfl | hother
    · exact (List.pairwise_cons.mp hsorted).1 earliest (List.mem_of_getLast? hmem)
    · exact hwithin.forward earliest hmem other hother
  · intro earliest hmem
    rw [hfirst] at hmem
    exact hwithin.left earliest hmem

theorem PassesBusy.within {result : Verdict Progress} (hbefore : Timeless before)
    (hpasses : PassesBusy rules harness flat pollMs budgetMs progress before result after)
    (htells : TellsTime time after) (hsleeps : SleepsFully time after) (hpoll : 0 < pollMs) :
    WaitsWithin pollMs budgetMs after := by
  cases hpasses with
  | idle => exact hbefore.within
  | queued _ _ busyAt outcome after hsend =>
      -- no poll: a wait that stops at once
      obtain ⟨now, hsuffix, hunclocked⟩ := hsend.unclocked
      have hnow := htells.suffix hsuffix
      have hstart := List.suffix_cons (clocked now) (clocked busyAt :: before)
      have hnone : Waits rules pollMs budgetMs busyAt progress (clocked busyAt :: before)
          (.error none) (clocked busyAt :: before) :=
        .outOfFuel progress _
      obtain ⟨later, hreadings⟩ := hnone.readings_eq hbefore.readings_eq
      have hfirst := hnone.within hbefore (hnow.suffix hstart)
        ((hsleeps.suffix hsuffix).suffix hstart) hpoll
      exact (hfirst.clock hreadings hnow).unclocked hunclocked
  | stopped _ _ busyAt stop after hwait => exact hwait.within hbefore htells hsleeps hpoll
  | waited _ _ busyAt now last middle hwait =>
      obtain ⟨later, hreadings⟩ := hwait.readings_eq hbefore.readings_eq
      have hmiddle := List.suffix_cons (clocked now) middle
      exact (hwait.within hbefore (htells.suffix hmiddle) (hsleeps.suffix hmiddle) hpoll).clock
        hreadings htells
  | stillThinking _ _ busyAt now last middle hwait =>
      obtain ⟨later, hreadings⟩ := hwait.readings_eq hbefore.readings_eq
      have hmiddle := List.suffix_cons (clocked now) middle
      exact (hwait.within hbefore (htells.suffix hmiddle) (hsleeps.suffix hmiddle) hpoll).clock
        hreadings htells

theorem pollMs_pos (pollMs : UInt64) : 0 < max pollMs 1 := by
  change 0 < if pollMs ≤ 1 then 1 else pollMs
  by_cases hle : pollMs ≤ 1
  · rw [if_pos hle]
    decide
  · rw [if_neg hle]
    rw [UInt64.not_le, UInt64.lt_iff_toNat_lt] at hle
    exact UInt64.lt_iff_toNat_lt.mpr (Nat.lt_of_le_of_lt (Nat.zero_le _) hle)

section Delivery

variable {opts : DeliveryOptions} {raw : RustString}

theorem StopsEarly.within {stop : Option Outcome}
    (hstop : StopsEarly rules harness flat opts raw stop history) (htells : TellsTime time history)
    (hsleeps : SleepsFully time history) :
    WaitsWithin (max (saturatingU64 opts.poll) 1) (saturatingU64 opts.wait) history := by
  have hfirst := timeless_first raw
  cases hstop with
  | overlay stop history hoverlay => exact (hfirst.unclocked hoverlay.unclocked).within
  | busy stop uncovered history₁ history hoverlay hbusy =>
      exact hbusy.within (hfirst.unclocked hoverlay.unclocked) htells hsleeps (pollMs_pos _)
  | capped uncovered idle history₁ history hit hoverlay hbusy =>
      exact hbusy.within (hfirst.unclocked hoverlay.unclocked) htells hsleeps (pollMs_pos _)
  | stale stop uncovered idle history₁ history₂ history hoverlay hbusy hcap hstale =>
      have hsuffix := hstale.unescaped.suffix
      exact (hbusy.within (hfirst.unclocked hoverlay.unclocked) (htells.suffix hsuffix)
        (hsleeps.suffix hsuffix) (pollMs_pos _)).unclocked hstale.unclocked

theorem ReadyToSend.within
    (hready : ReadyToSend rules harness flat opts raw progress history)
    (htells : TellsTime time history) (hsleeps : SleepsFully time history) :
    WaitsWithin (max (saturatingU64 opts.poll) 1) (saturatingU64 opts.wait) history := by
  obtain ⟨uncovered, history₁, idle, history₂, hoverlay, hbusy, -, hstale⟩ := hready.path
  have hsuffix := hstale.unescaped.suffix
  exact (hbusy.within ((timeless_first raw).unclocked hoverlay.unclocked) (htells.suffix hsuffix)
    (hsleeps.suffix hsuffix) (pollMs_pos _)).unclocked hstale.unclocked

theorem Delivers.within {text : RustString} {outcome : Option Outcome}
    (hdelivers : Delivers rules selector text opts outcome history)
    (htells : TellsTime time history) (hsleeps : SleepsFully time history) :
    WaitsWithin (max (saturatingU64 opts.poll) 1) (saturatingU64 opts.wait) history := by
  cases hdelivers with
  | unreadable => exact Timeless.within ⟨rfl, rfl, rfl⟩
  | stopped raw stop history hfirst hstop => exact hstop.within htells hsleeps
  | sent raw progress outcome before history hfirst hready hsend =>
      have hsuffix := hsend.unescaped.suffix
      exact (hready.within (htells.suffix hsuffix) (hsleeps.suffix hsuffix)).unclocked
        hsend.unclocked

end Delivery

/-! ## Giving up -/

/-- The last read gave a screen. -/
def ShowsLast (history : List Event) (screen : RustString) : Prop :=
  ∃ raw, history.findSome? readOf = some (some raw) ∧ tail14 raw = screen

theorem ClearsOverlay.showsLast {next : Progress}
    (hclears : ClearsOverlay rules progress before (.ok next) after)
    (hshows : ShowsLast before progress.screen) : ShowsLast after next.screen := by
  cases hclears with
  | clear => exact hshows
  | uncovered _ _ ok raw => exact ⟨raw, rfl, rfl⟩

theorem Waits.showsLast {result : Verdict Progress} {last : Progress}
    (hwaits : Waits rules pollMs budgetMs busyAt progress before result after)
    (hresult : result = .ok last) (hshows : ShowsLast before progress.screen) :
    ShowsLast after last.screen := by
  induction hwaits with
  | outOfFuel => cases hresult
  | spent progress before now =>
      cases hresult
      exact hshows
  | unreadable => cases hresult
  | becameBlocked => cases hresult
  | becameIdle progress before now raw =>
      cases hresult
      exact ⟨raw, rfl, rfl⟩
  | stillBusy progress before after now raw result _ _ _ _ ih =>
      exact ih hresult ⟨raw, rfl, rfl⟩

/-- A wait ends at a busy pane only when its budget is spent. -/
theorem Waits.spent_of_busy {result : Verdict Progress} {last : Progress}
    (hwaits : Waits rules pollMs budgetMs busyAt progress before result after)
    (hresult : result = .ok last) (hbusy : busy last.screen rules = true) :
    ∃ now earlier, after = clocked now :: earlier ∧ budgetMs ≤ now - busyAt := by
  induction hwaits with
  | outOfFuel => cases hresult
  | spent progress before now hspent => exact ⟨now, before, rfl, hspent⟩
  | unreadable => cases hresult
  | becameBlocked => cases hresult
  | becameIdle progress before now raw _ _ hidle =>
      cases hresult
      rw [hidle] at hbusy
      cases hbusy
  | stillBusy progress before after now raw result _ _ _ _ ih => exact ih hresult

/-- A delivery gives up on a busy pane: the last read was busy, and the budget has elapsed
between the first reading of the clock and the last one. -/
structure GivesUp (rules : PaneRules) (budgetMs : UInt64) (history : List Event) : Prop where
  busy : ∃ screen, ShowsLast history screen ∧ busy screen rules = true
  spent : ∃ first last, (readings history).getLast? = some first ∧
    (readings history).head? = some last ∧ budgetMs.toNat ≤ last.toNat - first.toNat

/-- An outcome that refuses a pane because it is busy. -/
def RefusesBusy (outcome : Outcome) : Prop :=
  outcome.state = .paneStillThinking ∧ outcome.submitted = false

theorem ClearsOverlay.not_refusesBusy {outcome : Outcome}
    (hclears : ClearsOverlay rules progress before (.error (some outcome)) after) :
    ¬RefusesBusy outcome := by
  cases hclears <;> exact fun hrefuses => by cases hrefuses.1

theorem Waits.not_refusesBusy {result : Verdict Progress} {outcome : Outcome}
    (hwaits : Waits rules pollMs budgetMs busyAt progress before result after)
    (hresult : result = .error (some outcome)) : ¬RefusesBusy outcome := by
  induction hwaits with
  | outOfFuel => cases hresult
  | spent => cases hresult
  | unreadable =>
      cases hresult
      exact fun hrefuses => by cases hrefuses.1
  | becameBlocked =>
      cases hresult
      exact fun hrefuses => by cases hrefuses.1
  | becameIdle => cases hresult
  | stillBusy _ _ _ _ _ _ _ _ _ _ ih => exact ih hresult

theorem SendsQueued.not_refusesBusy {outcome : Outcome}
    (hsends : SendsQueued rules harness flat busyAt progress before outcome after) :
    ¬RefusesBusy outcome := by
  cases hsends with
  | sendFailed => exact fun hrefuses => by cases hrefuses.1
  | unreadable => exact fun hrefuses => by cases hrefuses.1
  | queued => exact fun hrefuses => by cases hrefuses.2
  | unproven => exact fun hrefuses => by cases hrefuses.1

theorem SubmitsStale.not_refusesBusy {outcome : Outcome}
    (hsubmits : SubmitsStale rules progress before (.error (some outcome)) after) :
    ¬RefusesBusy outcome := by
  cases hsubmits <;> exact fun hrefuses => by cases hrefuses.1

theorem SendsLine.not_refusesBusy {outcome : Outcome}
    (hsends : SendsLine rules flat progress before outcome after) : ¬RefusesBusy outcome := by
  have hverdict : ∀ progress, ¬RefusesBusy (verdict rules (messageHead flat) progress) := by
    intro progress
    rw [verdict]
    split_ifs <;> exact fun hrefuses => by cases hrefuses.1
  cases hsends with
  | gone => exact hverdict _
  | goneAgain => exact hverdict _
  | _ => exact fun hrefuses => by cases hrefuses.1

theorem PassesBusy.givesUp {outcome : Outcome} (hbefore : Timeless before)
    (hpasses : PassesBusy rules harness flat pollMs budgetMs progress before
      (.error (some outcome)) after) (htells : TellsTime time after)
    (hshows : ShowsLast before progress.screen) (hrefuses : RefusesBusy outcome) :
    GivesUp rules budgetMs after := by
  cases hpasses with
  | queued _ _ busyAt outcome after hsend => exact absurd hrefuses hsend.not_refusesBusy
  | stopped _ _ busyAt stop after hwait => exact absurd hrefuses (hwait.not_refusesBusy rfl)
  | stillThinking _ _ busyAt now last middle hwait hstill =>
      refine ⟨⟨last.screen, hwait.showsLast rfl hshows, hstill⟩, ?_⟩
      obtain ⟨spentAt, earlier, rfl, hspent⟩ := hwait.spent_of_busy rfl hstill
      obtain ⟨later, hreadings⟩ := hwait.readings_eq hbefore.readings_eq
      refine ⟨busyAt, now, ?_, rfl, ?_⟩
      · rw [readings_cons_clocked, hreadings, ← List.cons_append, List.getLast?_concat]
      · have hsorted := htells.readings_sorted
        rw [readings_cons_clocked] at hsorted
        have hlast := (List.pairwise_cons.mp hsorted).1 spentAt List.mem_cons_self
        have hfirst := (htells.suffix (List.suffix_cons _ _)).first_le hreadings List.mem_cons_self
        rw [UInt64.le_iff_toNat_le, UInt64.toNat_sub_of_le spentAt busyAt hfirst] at hspent
        rw [UInt64.le_iff_toNat_le] at hlast
        omega

theorem StopsEarly.givesUp {opts : DeliveryOptions} {raw : RustString} {outcome : Outcome}
    (hstop : StopsEarly rules harness flat opts raw (some outcome) history)
    (htells : TellsTime time history) (hrefuses : RefusesBusy outcome) :
    GivesUp rules (saturatingU64 opts.wait) history := by
  have hfirst : ShowsLast [sawScreen raw] (firstProgress raw).screen := ⟨raw, rfl, rfl⟩
  cases hstop with
  | overlay stop history hoverlay => exact absurd hrefuses hoverlay.not_refusesBusy
  | busy stop uncovered history₁ history hoverlay hbusy =>
      exact hbusy.givesUp ((timeless_first raw).unclocked hoverlay.unclocked) htells
        (hoverlay.showsLast hfirst) hrefuses
  | capped => cases hrefuses.1
  | stale stop uncovered idle history₁ history₂ history hoverlay hbusy hcap hstale =>
      exact absurd hrefuses hstale.not_refusesBusy

theorem Delivers.givesUp {text : RustString} {opts : DeliveryOptions} {result : Option Outcome}
    {outcome : Outcome} (hdelivers : Delivers rules selector text opts result history)
    (hresult : result = some outcome) (htells : TellsTime time history)
    (hrefuses : RefusesBusy outcome) : GivesUp rules (saturatingU64 opts.wait) history := by
  cases hdelivers with
  | unreadable =>
      cases hresult
      cases hrefuses.1
  | stopped raw stop history hfirst hstop =>
      obtain ⟨stopped, rfl, rfl⟩ := Option.map_eq_some_iff.mp hresult
      exact hstop.givesUp htells hrefuses
  | sent raw progress outcome before history hfirst hready hsend =>
      cases hresult
      exact absurd hrefuses hsend.not_refusesBusy

/-- The wait of a delivery is bounded: with one poll of fuel more than the budget has intervals
it ends, it keeps within its budget, and it refuses a busy pane only when the budget is spent. -/
theorem deliver_wait_bounded (rules : PaneRules) (selector : HarnessSelector) (text : RustString)
    (opts : DeliveryOptions) {fuel : Nat} {result : Option Outcome} {history : List Event}
    (hrun : Runs (deliver rules selector text opts fuel) [] result history)
    {time : List Event → Nat} (htells : TellsTime time history)
    (hsleeps : SleepsFully time history) :
    ((saturatingU64 opts.wait).toNat ⌈/⌉ (max (saturatingU64 opts.poll) 1).toNat < fuel →
      result.isSome = true) ∧
    WaitsWithin (max (saturatingU64 opts.poll) 1) (saturatingU64 opts.wait) history ∧
    ∀ outcome, result = some outcome → RefusesBusy outcome →
      GivesUp rules (saturatingU64 opts.wait) history := by
  have hdelivers := deliver_cases hrun
  have hwithin := hdelivers.within htells hsleeps
  refine ⟨?_, hwithin, fun outcome hresult => hdelivers.givesUp hresult htells⟩
  intro hfuel
  cases result with
  | some outcome => rfl
  | none => exact absurd ((deliver_fuel hrun).trans hwithin.reads) (Nat.not_le_of_lt hfuel)

/-- A pane that stays busy while three polls spend a budget of 25 ms. -/
def staysBusy : Option Outcome × List Event :=
  (deliver fewRules ⟨none, none⟩ (rs "hello") ⟨10, 25⟩ 4).play
    (ticking (List.replicate 4 (rs "Working (1s)"))) []

theorem deliver_wait_bounded_staysBusy : staysBusy.1.isSome = true ∧
    waitingReads staysBusy.2 ≤ (25 : Nat) ⌈/⌉ 10 ∧ GivesUp fewRules 25 staysBusy.2 := by
  have hrun := runs_play (ticking (List.replicate 4 (rs "Working (1s)")))
    (deliver fewRules ⟨none, none⟩ (rs "hello") ⟨10, 25⟩ 4) []
  obtain ⟨htells, hsleeps⟩ := @keepsTime_sound staysBusy.2 sleptMs (by decide)
  obtain ⟨hends, hwithin, hgives⟩ := deliver_wait_bounded fewRules ⟨none, none⟩ (rs "hello")
    ⟨10, 25⟩ hrun htells hsleeps
  exact ⟨hends (by decide), hwithin.reads, hgives _ rfl ⟨rfl, rfl⟩⟩

end OdinSentinel.Say
