import OdinSentinel.Registry.LockAttempts

/-!
# Waiting for the lock

Under a clock that moves by at least what is slept, an acquisition comes to an end: each
pause is positive and stays within what is left of the budget.
-/

namespace OdinSentinel.Registry

open JsText Dialogue

/-! ## The clock -/

/-- What the clock shows behind each exchange: every reading shows it, it never goes back,
and a pause moves it by at least its length. -/
structure Advances (time : List FileEvent → Int) (history : List FileEvent) : Prop where
  tells : ∀ now earlier, told now :: earlier <:+ history → now = time (told now :: earlier)
  moves : ∀ event earlier, event :: earlier <:+ history → time earlier ≤ time (event :: earlier)
  sleeps : ∀ pause ms earlier, waited pause (.finite ms) :: earlier <:+ history →
    (time earlier : ℚ) + ms ≤ time (waited pause (.finite ms) :: earlier)

variable {time : List FileEvent → Int} {pause : Pause} {before after history : List FileEvent}

theorem Advances.suffix (hclock : Advances time history) (hsuffix : before <:+ history) :
    Advances time before where
  tells now earlier hearlier := hclock.tells now earlier (hearlier.trans hsuffix)
  moves event earlier hearlier := hclock.moves event earlier (hearlier.trans hsuffix)
  sleeps pause ms earlier hearlier := hclock.sleeps pause ms earlier (hearlier.trans hsuffix)

theorem Advances.mono (hclock : Advances time history) (hsuffix : before <:+ history) :
    time before ≤ time history := by
  induction history with
  | nil => rw [List.suffix_nil.mp hsuffix]
  | cons event rest ih =>
      rcases List.suffix_cons_iff.mp hsuffix with rfl | hsuffix
      · exact le_refl _
      · calc
          time before ≤ time rest := ih (hclock.suffix (List.suffix_cons event rest)) hsuffix
          _ ≤ time (event :: rest) := hclock.moves event rest (List.suffix_refl _)

/-- A positive pause moves the clock. -/
theorem Advances.lt_waited {ms : ℚ} (hclock : Advances time (waited pause (.finite ms) :: before))
    (hms : 0 < ms) : time before < time (waited pause (.finite ms) :: before) := by
  have hsleeps := hclock.sleeps pause ms before (List.suffix_refl _)
  have hlt : (time before : ℚ) < time (waited pause (.finite ms) :: before) := by linarith
  exact_mod_cast hlt

/-! ## The delay -/

/-- The jittered delay lies between two milliseconds and the delay. -/
theorem jittered_between {random : ℚ} (hrandom : 0 ≤ random ∧ random < 1) {delayMs : Nat}
    (hdelay : 5 ≤ delayMs) (hcap : delayMs ≤ 200) :
    ∃ jittered : ℚ, ((JsNumber.ofNat delayMs).mul (toDouble (1 / 2 + random / 2))).round =
      .finite jittered ∧ 1 ≤ jittered ∧ jittered ≤ 200 := by
  have hone : toDouble 1 = .finite 1 := by exact_mod_cast @toDouble_intCast 1 (by decide)
  have hlow := @toDouble_mono (1 / 2) (1 / 2 + random / 2) (by linarith)
  have hhigh := @toDouble_mono (1 / 2 + random / 2) 1 (by linarith)
  rw [toDouble_half] at hlow
  rw [hone] at hhigh
  obtain ⟨factor, hfactor, hfactorLow, hfactorHigh⟩ := JsNumber.exists_finite_between hlow hhigh
  have hdelayLow : (5 : ℚ) ≤ delayMs := by exact_mod_cast hdelay
  have hdelayHigh : (delayMs : ℚ) ≤ 200 := by exact_mod_cast hcap
  have htwo : toDouble 2 = .finite 2 := by exact_mod_cast @toDouble_intCast 2 (by decide)
  have hmost : toDouble 200 = .finite 200 := by exact_mod_cast @toDouble_intCast 200 (by decide)
  have hproductLow := @toDouble_mono 2 (delayMs * factor) (by nlinarith)
  have hproductHigh := @toDouble_mono (delayMs * factor) 200 (by nlinarith)
  rw [htwo] at hproductLow
  rw [hmost] at hproductHigh
  obtain ⟨product, hproduct, hleast, hgreatest⟩ :=
    JsNumber.exists_finite_between hproductLow hproductHigh
  refine ⟨⌊product + 1 / 2⌋, ?_, ?_, ?_⟩
  · rw [hfactor, JsNumber.ofNat, JsNumber.mul, hproduct, JsNumber.round]
  · have hfloor : (1 : Int) ≤ ⌊product + 1 / 2⌋ := Int.le_floor.mpr (by push_cast; linarith)
    exact_mod_cast hfloor
  · have hfloor : ⌊product + 1 / 2⌋ < (201 : Int) := Int.floor_lt.mpr (by push_cast; linarith)
    have hle : ⌊product + 1 / 2⌋ ≤ (200 : Int) := by omega
    exact_mod_cast hle

/-- While something of the budget is left, the delay is positive and within it. -/
theorem nextBackoffDelayMs_within {random : ℚ} (hrandom : 0 ≤ random ∧ random < 1) {delayMs : Nat}
    (hdelay : 5 ≤ delayMs) (hcap : delayMs ≤ 200) {elapsed : Int} (helapsed : 0 ≤ elapsed)
    {budget : ℚ} (hdouble : toDouble budget = .finite budget) (hleft : (elapsed : ℚ) < budget) :
    ∃ ms : ℚ, nextBackoffDelayMs random delayMs elapsed (.finite budget) = .finite ms ∧ 0 < ms ∧
      elapsed + ms ≤ budget := by
  obtain ⟨jittered, hjittered, hleast, hmost⟩ := jittered_between hrandom hdelay hcap
  have hsub : (JsNumber.finite budget).sub (.ofInt elapsed) = toDouble (budget - elapsed) := by
    rw [sub_eq_add_neg]
    rfl
  have hmin : ∃ ms : ℚ, (JsNumber.finite jittered).minimum (toDouble (budget - elapsed)) =
      .finite ms ∧ 0 < ms ∧ elapsed + ms ≤ budget := by
    by_cases hsmall : budget - elapsed < 2 ^ 53
    · rw [toDouble_sub_int hdouble helapsed hleft hsmall, JsNumber.minimum_finite]
      refine ⟨_, rfl, lt_min (by linarith) (by linarith), ?_⟩
      linarith [min_le_right jittered (budget - elapsed)]
    · -- far from the end the jittered delay is the smaller one
      have hfar : jittered ≤ budget - elapsed := by linarith
      have hlow := @toDouble_mono 200 (budget - elapsed) (by linarith)
      have helapsed' : (0 : ℚ) ≤ elapsed := by exact_mod_cast helapsed
      have hhigh := @toDouble_mono (budget - elapsed) budget (by linarith)
      have hmost' : toDouble 200 = .finite 200 := by
        exact_mod_cast @toDouble_intCast 200 (by decide)
      rw [hmost'] at hlow
      rw [hdouble] at hhigh
      obtain ⟨rest, hrest, hleastRest, -⟩ := JsNumber.exists_finite_between hlow hhigh
      rw [hrest, JsNumber.minimum_finite, min_eq_left (hmost.trans hleastRest)]
      exact ⟨jittered, rfl, by linarith, by linarith⟩
  obtain ⟨ms, hms, hpos, hwithin⟩ := hmin
  refine ⟨ms, ?_, hpos, hwithin⟩
  unfold nextBackoffDelayMs
  dsimp only
  rw [hjittered, hsub, hms, JsNumber.ofNat, Nat.cast_zero, JsNumber.maximum_finite,
    max_eq_right hpos.le]

theorem pauses_of_pos {ms : ℚ} (hms : 0 < ms) :
    pauses pause (.finite ms) = [waited pause (.finite ms)] := by
  have hle : (JsNumber.finite ms).le (.ofNat 0) = false := by
    rw [JsNumber.ofNat, Nat.cast_zero]
    exact decide_eq_false (not_le.mpr hms)
  rw [pauses, hle]
  rfl

/-! ## The end of the wait -/

variable {maxAttempts retryMs budgetMs : JsNumber} {fuel attempts delayMs : Nat} {startedAt : Int}
  {result : Except Halt (Bool × Nat)}

theorem BackoffAttempts.suffix
    (hattempts : BackoffAttempts pause startedAt budgetMs fuel attempts delayMs before result
      after) : before <:+ after := by
  induction hattempts with
  | outOfFuel attempts delayMs before => exact List.suffix_refl before
  | taken fuel attempts delayMs before => exact List.suffix_cons _ before
  | threw fuel attempts delayMs before error => exact List.suffix_cons _ before
  | spent fuel attempts delayMs before error now =>
      exact (List.suffix_cons _ before).trans (List.suffix_cons _ _)
  | held fuel attempts delayMs before after result error now random _ _ _ ih =>
      refine List.IsSuffix.trans ?_ ih
      exact List.IsSuffix.trans ⟨[drew random, told now, tried (.error error)], rfl⟩
        (List.suffix_append _ _)

theorem FixedAttempts.suffix
    (hattempts : FixedAttempts pause maxAttempts retryMs fuel attempts before result after) :
    before <:+ after := by
  induction hattempts with
  | outOfFuel attempts before => exact List.suffix_refl before
  | spent fuel attempts before => exact List.suffix_refl before
  | taken fuel attempts before => exact List.suffix_cons _ before
  | threw fuel attempts before error => exact List.suffix_cons _ before
  | held fuel attempts before after result error _ _ _ ih =>
      exact ((List.suffix_cons _ before).trans (List.suffix_append _ _)).trans ih

theorem Attempts.suffix {policy : LockPolicy}
    (hattempts : Attempts pause startedAt fuel before result after policy) : before <:+ after := by
  cases policy with
  | fixed => exact FixedAttempts.suffix hattempts
  | backoff => exact BackoffAttempts.suffix hattempts

/-- The delays of the backoff. -/
def IsDelay (delayMs : Nat) : Prop := 5 ≤ delayMs ∧ delayMs ≤ 200

theorem isDelay_initial : IsDelay defaultLockBackoffInitialMs := ⟨le_refl 5, by decide⟩

theorem IsDelay.double (hdelay : IsDelay delayMs) :
    IsDelay (min defaultLockBackoffMaxMs (delayMs * 2)) := by
  obtain ⟨hleast, hmost⟩ := hdelay
  unfold IsDelay defaultLockBackoffMaxMs
  omega

theorem lt_of_le_false {budget : ℚ} {elapsed : Int}
    (hleft : (JsNumber.finite budget).le (.ofInt elapsed) = false) : (elapsed : ℚ) < budget :=
  not_le.mp (of_decide_eq_false hleft)

/-- A pause of the backoff behind a held lock: the clock was read, the pause lasts, and it
ends within the budget. -/
theorem exists_pause {budget : ℚ} (hdouble : toDouble budget = .finite budget)
    (hdelay : IsDelay delayMs) (hclock : Advances time after) (hstart : startedAt ≤ time before)
    {now : Int} {answer : FsAnswer Unit} {random : { value : ℚ // 0 ≤ value ∧ value < 1 }}
    (hleft : (JsNumber.finite budget).le (.ofInt (now - startedAt)) = false)
    (hsuffix : pauses pause (nextBackoffDelayMs random.1 delayMs (now - startedAt)
      (.finite budget)) ++ drew random :: told now :: tried answer :: before <:+ after) :
    time before ≤ now ∧ ∃ ms : ℚ,
      pauses pause (nextBackoffDelayMs random.1 delayMs (now - startedAt) (.finite budget)) ++
          drew random :: told now :: tried answer :: before =
        waited pause (.finite ms) :: drew random :: told now :: tried answer :: before ∧
      ((now - startedAt : Int) : ℚ) + ms ≤ budget ∧
      now < time (waited pause (.finite ms) :: drew random :: told now :: tried answer ::
        before) := by
  have hdrew : drew random :: told now :: tried answer :: before <:+ after :=
    (List.suffix_append _ _).trans hsuffix
  have hread := (List.suffix_cons (drew random) _).trans hdrew
  have hnow := hclock.tells now _ hread
  have hlater : time before ≤ now := by
    rw [hnow]
    exact (hclock.suffix hread).mono ((List.suffix_cons _ before).trans (List.suffix_cons _ _))
  obtain ⟨ms, hms, hpos, hends⟩ := nextBackoffDelayMs_within random.2 hdelay.1 hdelay.2
    (show 0 ≤ now - startedAt by omega) hdouble (lt_of_le_false hleft)
  rw [hms, pauses_of_pos hpos, List.singleton_append] at hsuffix
  refine ⟨hlater, ms, by rw [hms, pauses_of_pos hpos, List.singleton_append], hends, ?_⟩
  calc
    now = time (told now :: tried answer :: before) := hnow
    _ ≤ time (drew random :: told now :: tried answer :: before) := hclock.moves _ _ hdrew
    _ < _ := (hclock.suffix hsuffix).lt_waited hpos

/-- Every attempt of the backoff but the last takes a millisecond of the budget at least. -/
theorem BackoffAttempts.attempts_le {budget : ℚ}
    (hattempts : BackoffAttempts pause startedAt (.finite budget) fuel attempts delayMs before
      result after)
    (hdouble : toDouble budget = .finite budget) (hclock : Advances time after)
    (hdelay : IsDelay delayMs) (hstart : startedAt ≤ time before) :
    attemptsIn after ≤ attemptsIn before + 1 ∨
      (attemptsIn after : ℚ) + (time before - startedAt) < attemptsIn before + 2 + budget := by
  induction hattempts with
  | outOfFuel => exact .inl (Nat.le_succ _)
  | taken => exact .inl (le_refl _)
  | threw => exact .inl (le_refl _)
  | spent => exact .inl (le_refl _)
  | held fuel attempts delayMs before after result error now random _ hleft hrest ih =>
      right
      have hbudget := lt_of_le_false hleft
      obtain ⟨hlater, ms, hpaused, -, hmoved⟩ :=
        exists_pause hdouble hdelay hclock hstart hleft hrest.suffix
      rw [hpaused] at ih
      have hmade : attemptsIn (waited pause (.finite ms) :: drew random :: told now ::
          tried (.error error) :: before) = attemptsIn before + 1 := rfl
      have hlater' : (time before : ℚ) ≤ now := by exact_mod_cast hlater
      rw [hmade] at ih
      push_cast at hbudget ih ⊢
      rcases ih hclock hdelay.double (by omega) with hlast | hmore
      · have hlast' : (attemptsIn after : ℚ) ≤ attemptsIn before + 1 + 1 := by exact_mod_cast hlast
        linarith
      · have hmoved' : (now : ℚ) + 1 ≤ time (waited pause (.finite ms) :: drew random ::
            told now :: tried (.error error) :: before) := by exact_mod_cast hmoved
        linarith

/-- The fixed mode makes no attempt beyond its number. -/
theorem FixedAttempts.attempts_le {most : ℚ}
    (hattempts : FixedAttempts pause (.finite most) retryMs fuel attempts before result after) :
    attemptsIn after = attemptsIn before ∨
      (attemptsIn after : ℚ) + attempts < attemptsIn before + 1 + most := by
  induction hattempts with
  | outOfFuel => exact .inl rfl
  | spent => exact .inl rfl
  | taken fuel attempts before hleft =>
      right
      rw [JsNumber.ofNat, JsNumber.lt_finite, decide_eq_true_eq] at hleft
      have hmade : attemptsIn (tried (.ok ()) :: before) = attemptsIn before + 1 := rfl
      rw [hmade]
      push_cast
      linarith
  | threw fuel attempts before error hleft =>
      right
      rw [JsNumber.ofNat, JsNumber.lt_finite, decide_eq_true_eq] at hleft
      have hmade : attemptsIn (tried (.error error) :: before) = attemptsIn before + 1 := rfl
      rw [hmade]
      push_cast
      linarith
  | held fuel attempts before after result error hleft _ _ ih =>
      right
      rw [JsNumber.ofNat, JsNumber.lt_finite, decide_eq_true_eq] at hleft
      have hmade : attemptsIn ((if (JsNumber.ofNat (attempts + 1)).lt (.finite most) then
          pauses pause retryMs else []) ++ tried (.error error) :: before) =
            attemptsIn before + 1 := by
        rw [attemptsIn, answersIn_between]
        rfl
      rw [hmade] at ih
      push_cast at ih ⊢
      rcases ih with hlast | hmore
      · have hlast' : (attemptsIn after : ℚ) = attemptsIn before + 1 := by exact_mod_cast hlast
        linarith
      · linarith

/-! ## Within the budget -/

/-- The readings of the clock, newest first. -/
def readingsIn (history : List FileEvent) : List Int := history.filterMap readingOf

/-- No pause is longer than what the last reading left of a budget that runs since the first. -/
def SleepsWithin (budget : ℚ) (history : List FileEvent) : Prop :=
  ∀ pause ms earlier, waited pause ms :: earlier <:+ history →
    ∃ value first now, ms = .finite value ∧ (readingsIn earlier).getLast? = some first ∧
      (readingsIn earlier).head? = some now ∧ ((now - first : Int) : ℚ) + value ≤ budget

variable {budget : ℚ}

theorem sleepsWithin_skip {event : FileEvent} (hevent : ∀ pause ms, event ≠ waited pause ms)
    (hwithin : SleepsWithin budget history) : SleepsWithin budget (event :: history) := by
  intro pause ms earlier hsuffix
  rcases List.suffix_cons_iff.mp hsuffix with hsame | hsuffix
  · rw [List.cons.injEq] at hsame
    exact absurd hsame.1.symm (hevent pause ms)
  · exact hwithin pause ms earlier hsuffix

theorem sleepsWithin_tried {answer : FsAnswer Unit} (hwithin : SleepsWithin budget history) :
    SleepsWithin budget (tried answer :: history) :=
  sleepsWithin_skip (by simp [tried, waited]) hwithin

theorem sleepsWithin_told {now : Int} (hwithin : SleepsWithin budget history) :
    SleepsWithin budget (told now :: history) :=
  sleepsWithin_skip (by simp [told, waited]) hwithin

theorem sleepsWithin_waited {value : ℚ} {first now : Int}
    (hfirst : (readingsIn history).getLast? = some first)
    (hlast : (readingsIn history).head? = some now)
    (hleft : ((now - first : Int) : ℚ) + value ≤ budget) (hwithin : SleepsWithin budget history) :
    SleepsWithin budget (waited pause (.finite value) :: history) := by
  intro other ms earlier hsuffix
  rcases List.suffix_cons_iff.mp hsuffix with hsame | hsuffix
  · rw [List.cons.injEq] at hsame
    obtain ⟨hevent, rfl⟩ := hsame
    have hms : ms = .finite value := by
      simp only [waited, Exchange.mk.injEq, FileAsk.wait.injEq] at hevent
      exact hevent.1.2
    exact ⟨value, first, now, hms, hfirst, hlast, hleft⟩
  · exact hwithin other ms earlier hsuffix

theorem BackoffAttempts.sleepsWithin
    (hattempts : BackoffAttempts pause startedAt (.finite budget) fuel attempts delayMs before
      result after)
    (hdouble : toDouble budget = .finite budget) (hclock : Advances time after)
    (hdelay : IsDelay delayMs) (hstart : startedAt ≤ time before)
    (hfirst : (readingsIn before).getLast? = some startedAt)
    (hwithin : SleepsWithin budget before) : SleepsWithin budget after := by
  induction hattempts with
  | outOfFuel => exact hwithin
  | taken => exact sleepsWithin_tried hwithin
  | threw => exact sleepsWithin_tried hwithin
  | spent => exact sleepsWithin_told (sleepsWithin_tried hwithin)
  | held fuel attempts delayMs before after result error now random _ hleft hrest ih =>
      obtain ⟨hlater, ms, hpaused, hends, hmoved⟩ :=
        exists_pause hdouble hdelay hclock hstart hleft hrest.suffix
      rw [hpaused] at ih
      have hlast : (now :: readingsIn before).getLast? = some startedAt := by
        rw [List.getLast?_cons, hfirst]
        rfl
      have hdrew : SleepsWithin budget (drew random :: told now :: tried (.error error) :: before) :=
        sleepsWithin_skip (by simp [drew, waited]) (sleepsWithin_told (sleepsWithin_tried hwithin))
      exact ih hclock hdelay.double (by omega) hlast (sleepsWithin_waited hlast rfl hends hdrew)

end OdinSentinel.Registry
