import OdinSentinel.Registry.LockWait

/-!
# The law of the lock

Both ways to acquire the lock make the same attempts and come to an end, and an append
frees what it took, once.
-/

namespace OdinSentinel.Registry

open JsText Dialogue

variable {pause other : Pause} {before after history : List FileEvent} {Value Next : Type}
  {fuel : Nat}

/-! ## The same attempts -/

/-- An exchange with its wait made in another way. -/
def byPause (pause : Pause) : FileEvent → FileEvent
  | ⟨.wait _ ms, answer⟩ => ⟨.wait pause ms, answer⟩
  | event => event

/-- Every run of one call is a run of another, with its waits made in one way. -/
def Twins (pause : Pause) (call twin : Talk Value) : Prop :=
  ∀ before result after, Tries call before result after →
    Tries twin (before.map (byPause pause)) result (after.map (byPause pause))

theorem twins_pure (value : Value) : Twins pause (pure value) (pure value) := by
  intro before result after hrun
  obtain ⟨rfl, rfl⟩ := tries_pure.mp hrun
  exact tries_pure.mpr ⟨rfl, rfl⟩

theorem twins_throw (halt : Halt) : Twins pause (throw halt : Talk Value) (throw halt) := by
  intro before result after hrun
  obtain ⟨rfl, rfl⟩ := tries_throw.mp hrun
  exact tries_throw.mpr ⟨rfl, rfl⟩

theorem Twins.bind {call twin : Talk Value} {next nextTwin : Value → Talk Next}
    (hcall : Twins pause call twin) (hnext : ∀ value, Twins pause (next value) (nextTwin value)) :
    Twins pause (call >>= next) (twin >>= nextTwin) := by
  intro before result after hrun
  rcases tries_bind.mp hrun with ⟨value, middle, hfirst, hrest⟩ | ⟨halt, rfl, hfirst⟩
  · exact tries_bind.mpr (.inl ⟨value, _, hcall _ _ _ hfirst, hnext value _ _ _ hrest⟩)
  · exact tries_bind.mpr (.inr ⟨halt, rfl, hcall _ _ _ hfirst⟩)

/-- A question that is no wait is asked by both. -/
theorem twins_ask {question : FileAsk}
    (hquestion : ∀ answer, byPause pause ⟨question, answer⟩ = ⟨question, answer⟩) :
    Twins pause (ask question) (ask question) := by
  intro before result after hrun
  obtain ⟨answer, rfl, rfl⟩ := tries_request.mp hrun
  exact tries_request.mpr ⟨answer, rfl, by rw [List.map_cons, hquestion]⟩

theorem twins_sleepBy (ms : JsNumber) : Twins pause (sleepBy other ms) (sleepBy pause ms) := by
  intro before result after hrun
  obtain ⟨rfl, rfl⟩ := tries_sleepBy.mp hrun
  apply tries_sleepBy.mpr
  refine ⟨rfl, ?_⟩
  unfold pauses
  split_ifs <;> rfl

theorem twins_fixedAttempts (maxAttempts retryMs : JsNumber) (fuel attempts : Nat) :
    Twins pause (fixedAttempts (sleepBy other) maxAttempts retryMs fuel attempts)
      (fixedAttempts (sleepBy pause) maxAttempts retryMs fuel attempts) := by
  induction fuel generalizing attempts with
  | zero => exact twins_throw .waiting
  | succ fuel ih =>
      rw [fixedAttempts, fixedAttempts]
      by_cases hleft : (JsNumber.ofNat attempts).lt maxAttempts = true
      · rw [if_pos hleft, if_pos hleft]
        apply Twins.bind (twins_ask fun _ => rfl)
        intro answer
        cases answer with
        | ok value => exact twins_pure _
        | error error =>
            cases hheld : isEexists error with
            | false =>
                simp only [hheld, Bool.not_false, if_true]
                exact twins_throw _
            | true =>
                simp only [hheld, Bool.not_true, Bool.false_eq_true, if_false]
                by_cases hmore : (JsNumber.ofNat (attempts + 1)).lt maxAttempts = true
                · rw [if_pos hmore, if_pos hmore]
                  exact (twins_sleepBy retryMs).bind fun _ => ih (attempts + 1)
                · rw [if_neg hmore, if_neg hmore]
                  exact ih (attempts + 1)
      · rw [if_neg hleft, if_neg hleft]
        exact twins_pure _

theorem twins_backoffAttempts (startedAt : Int) (budgetMs : JsNumber)
    (fuel attempts delayMs : Nat) :
    Twins pause (backoffAttempts (sleepBy other) startedAt budgetMs fuel attempts delayMs)
      (backoffAttempts (sleepBy pause) startedAt budgetMs fuel attempts delayMs) := by
  induction fuel generalizing attempts delayMs with
  | zero => exact twins_throw .waiting
  | succ fuel ih =>
      rw [backoffAttempts, backoffAttempts]
      apply Twins.bind (twins_ask fun _ => rfl)
      intro answer
      cases answer with
      | ok value => exact twins_pure _
      | error error =>
          cases hheld : isEexists error with
          | false =>
              simp only [hheld, Bool.not_false, if_true]
              exact twins_throw _
          | true =>
              simp only [hheld, Bool.not_true, Bool.false_eq_true, if_false]
              apply Twins.bind (twins_ask fun _ => rfl)
              intro now
              split_ifs
              · exact twins_pure _
              · apply Twins.bind (twins_ask fun _ => rfl)
                intro random
                exact (twins_sleepBy _).bind fun _ => ih _ _

/-- Both ways to acquire make the same attempts with the same delays. -/
theorem twins_acquireBy (options : RegistryLockOptions) (fuel : Nat) :
    Twins pause (acquireBy other options fuel) (acquireBy pause options fuel) := by
  unfold acquireBy acquireRegistryLockBy
  apply Twins.bind (twins_ask fun _ => rfl)
  intro startedAt
  cases lockPolicy options with
  | fixed maxAttempts retryMs =>
      apply (twins_fixedAttempts maxAttempts retryMs fuel 0).bind
      exact fun found => (twins_ask fun _ => rfl).bind fun now => twins_pure _
  | backoff budgetMs =>
      apply (twins_backoffAttempts startedAt budgetMs fuel 0 _).bind
      exact fun found => (twins_ask fun _ => rfl).bind fun now => twins_pure _

/-! ## The numbers of the options -/

/-- A finite script number. -/
def IsDouble (number : JsNumber) : Prop :=
  ∃ value : ℚ, number = .finite value ∧ toDouble value = .finite value

/-- Every number that is given is finite. -/
structure FiniteOptions (options : RegistryLockOptions) : Prop where
  attempts : ∀ number, options.maxLockAttempts = some number → IsDouble number
  retry : ∀ number, options.lockRetryMs = some number → IsDouble number
  budget : ∀ number, options.lockBudgetMs = some number → IsDouble number

theorem isDouble_ofNat {value : Nat} (hvalue : value < 2 ^ 53) : IsDouble (.ofNat value) :=
  ⟨value, rfl, by exact_mod_cast @toDouble_intCast value (by simpa using hvalue)⟩

theorem isDouble_getD {number : Option JsNumber} (preset : Nat) (hpreset : preset < 2 ^ 53)
    (hnumber : ∀ given, number = some given → IsDouble given) :
    IsDouble (number.getD (.ofNat preset)) := by
  cases number with
  | none => exact isDouble_ofNat hpreset
  | some given => exact hnumber given rfl

/-- The greater of a natural number and a finite one. -/
theorem exists_maximum (least : Nat) (hleast : least < 2 ^ 53) {number : JsNumber}
    (hnumber : IsDouble number) :
    ∃ value : ℚ, (JsNumber.ofNat least).maximum number = .finite value ∧
      toDouble value = .finite value ∧ (least : ℚ) ≤ value := by
  obtain ⟨value, rfl, hvalue⟩ := hnumber
  obtain ⟨same, hsame, hdouble⟩ := isDouble_ofNat hleast
  cases hsame
  rw [JsNumber.ofNat, JsNumber.maximum_finite]
  refine ⟨_, rfl, ?_, le_max_left _ _⟩
  rcases le_total (least : ℚ) value with hle | hle
  · rw [max_eq_right hle]
    exact hvalue
  · rw [max_eq_left hle]
    exact hdouble

/-- The policy of finite options: one attempt at least, or a budget that is not negative. -/
inductive BoundedPolicy : LockPolicy → Prop
  | fixed (most : ℚ) (retryMs : JsNumber) (hmost : 1 ≤ most) :
      BoundedPolicy (.fixed (.finite most) retryMs)
  | backoff (budget : ℚ) (hbudget : 0 ≤ budget) (hdouble : toDouble budget = .finite budget) :
      BoundedPolicy (.backoff (.finite budget))

theorem lockPolicy_bounded {options : RegistryLockOptions} (hfinite : FiniteOptions options) :
    BoundedPolicy (lockPolicy options) := by
  rw [lockPolicy]
  split_ifs
  · obtain ⟨most, hmost, -, hleast⟩ := exists_maximum 1 (by decide)
      (isDouble_getD defaultMaxLockAttempts (by decide) hfinite.attempts)
    rw [hmost]
    exact .fixed most _ (by exact_mod_cast hleast)
  · obtain ⟨budget, hbudget, hdouble, hleast⟩ := exists_maximum 0 (by decide)
      (isDouble_getD defaultLockBudgetMs (by decide) hfinite.budget)
    rw [hbudget]
    exact .backoff budget (by exact_mod_cast hleast) hdouble

/-! ## Acquisitions -/

/-- The most attempts that a policy makes. -/
def attemptLimit : LockPolicy → Nat
  | .fixed (.finite most) _ => ⌈most⌉₊
  | .backoff (.finite budget) => ⌈budget⌉₊ + 1
  | _ => 0

/-- What is promised of an acquisition: it ends behind one attempt at least and no more than
its limit, tells how its last attempt went, and sleeps within its budget. -/
structure LawfulAcquisition (policy : LockPolicy)
    (outcome : Except Halt RegistryLockAcquisition) (history : List FileEvent) : Prop where
  ends : outcome ≠ .error .waiting
  attempted : 1 ≤ attemptsIn history ∧ attemptsIn history ≤ attemptLimit policy
  honest : ∀ acquisition, outcome = .ok acquisition →
    (acquisition.locked = true ↔ (answersIn history).head? = some (.ok ())) ∧
      acquisition.attempts = attemptsIn history
  failed : ∀ error, outcome = .error (.threw error) →
    (answersIn history).head? = some (.error error) ∧ isEexists error = false
  within : ∀ budget, policy = .backoff (.finite budget) → SleepsWithin budget history

variable {policy : LockPolicy} {outcome : Except Halt RegistryLockAcquisition}
  {time : List FileEvent → Int} {startedAt : Int} {result : Except Halt (Bool × Nat)}

theorem Attempts.attempts_le (hattempts : Attempts pause startedAt fuel [told startedAt] result
      after policy) (hpolicy : BoundedPolicy policy) (hclock : Advances time after)
    (hstart : startedAt ≤ time [told startedAt]) : attemptsIn after ≤ attemptLimit policy := by
  have hnone : attemptsIn [told startedAt] = 0 := rfl
  cases hpolicy with
  | fixed most retryMs hmost =>
      have hceil : most ≤ ⌈most⌉₊ := Nat.le_ceil most
      rcases FixedAttempts.attempts_le hattempts with hsame | hmore
      · rw [hsame, hnone]
        exact Nat.zero_le _
      · rw [hnone] at hmore
        push_cast at hmore
        have hlt : (attemptsIn after : ℚ) < ⌈most⌉₊ + 1 := by linarith
        exact Nat.lt_succ_iff.mp (by exact_mod_cast hlt)
  | backoff budget hbudget hdouble =>
      have hceil : budget ≤ ⌈budget⌉₊ := Nat.le_ceil budget
      rcases BackoffAttempts.attempts_le hattempts hdouble hclock isDelay_initial hstart with
        hlast | hmore
      · rw [hnone] at hlast
        exact hlast.trans (Nat.le_add_left 1 _)
      · rw [hnone] at hmore
        have hstart' : (startedAt : ℚ) ≤ time [told startedAt] := by exact_mod_cast hstart
        push_cast at hmore
        have hlt : (attemptsIn after : ℚ) < ⌈budget⌉₊ + 1 + 1 := by linarith
        exact Nat.lt_succ_iff.mp (by exact_mod_cast hlt)

theorem Attempts.attempted {made : Nat}
    (hattempts : Attempts pause startedAt fuel before (.ok (false, made)) after policy)
    (hpolicy : BoundedPolicy policy) : 1 ≤ made := by
  cases hpolicy with
  | fixed most retryMs hmost =>
      have hgaveUp := FixedAttempts.gaveUp hattempts rfl
      rw [JsNumber.ofNat, JsNumber.lt_finite, decide_eq_false_iff_not, not_lt] at hgaveUp
      have hone : (1 : ℚ) ≤ made := hmost.trans hgaveUp
      exact_mod_cast hone
  | backoff => exact BackoffAttempts.gaveUp hattempts rfl

theorem Attempts.sleepsWithin {budget : ℚ}
    (hattempts : Attempts pause startedAt fuel [told startedAt] result after
      (.backoff (.finite budget)))
    (hdouble : toDouble budget = .finite budget) (hclock : Advances time after)
    (hstart : startedAt ≤ time [told startedAt]) : SleepsWithin budget after := by
  apply BackoffAttempts.sleepsWithin hattempts hdouble hclock isDelay_initial hstart rfl
  intro pause ms earlier hsuffix
  have hmem : waited pause ms ∈ [told startedAt] := hsuffix.subset List.mem_cons_self
  simp [waited, told] at hmem

/-- The attempts of an acquisition, as far as they are the same for every end of it. -/
theorem Attempts.lawful (hattempts : Attempts pause startedAt fuel [told startedAt] result after
      policy) (hpolicy : BoundedPolicy policy) (hclock : Advances time after) :
    attemptsIn after ≤ attemptLimit policy ∧
      ∀ budget, policy = .backoff (.finite budget) → SleepsWithin budget after := by
  have hstart : startedAt ≤ time [told startedAt] :=
    (hclock.tells startedAt [] hattempts.suffix).le
  refine ⟨hattempts.attempts_le hpolicy hclock hstart, ?_⟩
  rintro budget rfl
  cases hpolicy with
  | backoff _ _ hdouble => exact hattempts.sleepsWithin hdouble hclock hstart

theorem Acquires.lawful (hacquires : Acquires pause policy fuel [] outcome history)
    (hpolicy : BoundedPolicy policy) (hclock : Advances time history)
    (hfuel : attemptLimit policy < fuel) : LawfulAcquisition policy outcome history := by
  cases hacquires with
  | halted startedAt halt after hattempts =>
      obtain ⟨hlimit, hwithin⟩ := hattempts.lawful hpolicy hclock
      obtain ⟨held, -, hanswers⟩ := hattempts.heard
      cases halt with
      | waiting =>
          have hspent := hattempts.waiting
          rw [show attemptsIn [told startedAt] = 0 from rfl] at hspent
          omega
      | threw error =>
          refine ⟨by rintro ⟨⟩, ⟨?_, hlimit⟩, by rintro _ ⟨⟩, ?_, hwithin⟩
          · rw [attemptsIn, hanswers.1]
            exact Nat.le_add_left 1 _
          · rintro _ ⟨⟩
            exact ⟨by rw [hanswers.1]; rfl, hanswers.2⟩
  | decided startedAt now locked made middle hattempts =>
      obtain ⟨hlimit, hwithin⟩ :=
        hattempts.lawful hpolicy (hclock.suffix (List.suffix_cons _ middle))
      obtain ⟨held, hheld, hanswers⟩ := hattempts.heard
      have hsleeps : ∀ budget, policy = .backoff (.finite budget) →
          SleepsWithin budget (told now :: middle) :=
        fun budget hbudget => sleepsWithin_told (hwithin budget hbudget)
      have hcount : attemptsIn (told now :: middle) = attemptsIn middle := rfl
      cases locked with
      | true =>
          have hmade : attemptsIn middle = made := by
            rw [attemptsIn, hanswers.1, hanswers.2]
            simp [answersIn, attemptOf, told]
          have hpositive : 1 ≤ made := by
            rw [hanswers.2]
            exact Nat.le_add_left 1 _
          refine ⟨by rintro ⟨⟩, ⟨by omega, by omega⟩, ?_, by rintro _ ⟨⟩, hsleeps⟩
          rintro _ ⟨⟩
          refine ⟨iff_of_true rfl ?_, hmade.symm⟩
          rw [answersIn_told, hanswers.1]
          rfl
      | false =>
          have hmade : attemptsIn middle = made := by
            rw [attemptsIn, hanswers.1, hanswers.2]
            simp [answersIn, attemptOf, told]
          have hpositive := hattempts.attempted hpolicy
          refine ⟨by rintro ⟨⟩, ⟨by omega, by omega⟩, ?_, by rintro _ ⟨⟩, hsleeps⟩
          rintro _ ⟨⟩
          refine ⟨iff_of_false Bool.false_ne_true ?_, hmade.symm⟩
          rw [answersIn_told, hanswers.1]
          cases held with
          | nil => simp at hanswers; omega
          | cons error held => simp

/-! ## Appends -/

/-- Nothing was taken and nothing freed; or the lock was taken once, and freed once by the
last exchange. -/
def ReleasesOnce (history : List FileEvent) : Prop :=
  (takesIn history = 0 ∧ freesIn history = 0) ∨
    ∃ answer earlier, history = freed answer :: earlier ∧ takesIn earlier = 1 ∧ freesIn earlier = 0

/-- Every run of a call leaves the lock alone and ends without waiting. -/
def LeavesLock (call : Talk Value) : Prop :=
  ∀ before result after, Tries call before result after →
    takesIn after = takesIn before ∧ freesIn after = freesIn before ∧ result ≠ .error .waiting

theorem leavesLock_pure (value : Value) : LeavesLock (pure value : Talk Value) := by
  intro before result after hrun
  obtain ⟨rfl, rfl⟩ := tries_pure.mp hrun
  exact ⟨rfl, rfl, by rintro ⟨⟩⟩

theorem leavesLock_orThrow (answer : FsAnswer Value) : LeavesLock (orThrow answer) := by
  cases answer with
  | ok value => exact leavesLock_pure value
  | error error =>
      intro before result after hrun
      obtain ⟨rfl, rfl⟩ := tries_throw.mp hrun
      exact ⟨rfl, rfl, by rintro ⟨⟩⟩

theorem leavesLock_ask {question : FileAsk}
    (hquestion : ∀ answer, attemptOf ⟨question, answer⟩ = none ∧
      isFreeing ⟨question, answer⟩ = false) : LeavesLock (ask question) := by
  intro before result after hrun
  obtain ⟨answer, rfl, rfl⟩ := tries_request.mp hrun
  obtain ⟨hattempt, hfreeing⟩ := hquestion answer
  refine ⟨?_, ?_, by rintro ⟨⟩⟩
  · rw [takesIn, answersIn, List.filterMap_cons_none hattempt]
    rfl
  · rw [freesIn, List.countP_cons_of_neg (by simp [hfreeing])]
    rfl

theorem LeavesLock.bind {call : Talk Value} {next : Value → Talk Next} (hcall : LeavesLock call)
    (hnext : ∀ value, LeavesLock (next value)) : LeavesLock (call >>= next) := by
  intro before result after hrun
  rcases tries_bind.mp hrun with ⟨value, middle, hfirst, hrest⟩ | ⟨halt, rfl, hfirst⟩
  · obtain ⟨htakes, hfrees, -⟩ := hcall _ _ _ hfirst
    obtain ⟨htakes', hfrees', hends⟩ := hnext value _ _ _ hrest
    exact ⟨htakes'.trans htakes, hfrees'.trans hfrees, hends⟩
  · obtain ⟨htakes, hfrees, hends⟩ := hcall _ _ _ hfirst
    exact ⟨htakes, hfrees, fun hwaiting => hends (by cases hwaiting; rfl)⟩

theorem leavesLock_symlink (dir path eventClass : JsString) :
    LeavesLock (registrySymlinkRejection dir path eventClass) := by
  apply (leavesLock_ask fun _ => ⟨rfl, rfl⟩).bind
  intro answer
  apply (leavesLock_orThrow answer).bind
  intro found
  cases found with
  | none => exact leavesLock_pure none
  | some link => exact leavesLock_pure _

/-- The clean-up comes behind a body that ended, however it did. -/
theorem tryFinally_cases {body : Talk Value} {final : Talk Unit} {result : Except Halt Value}
    (hrun : Tries (tryFinally body final) before result after) :
    ∃ outcome middle, Tries body before outcome middle ∧
      (outcome = .error .waiting ∨ ∃ ended, Tries final middle ended after) := by
  obtain ⟨outcome, middle, hbody, hrest⟩ := runs_bind.mp hrun
  refine ⟨outcome, middle, hbody, ?_⟩
  cases outcome with
  | ok value =>
      obtain ⟨ended, last, hfinal, hdone⟩ := runs_bind.mp hrest
      refine .inr ⟨ended, ?_⟩
      cases ended with
      | ok done =>
          obtain ⟨-, rfl⟩ := runs_pure.mp hdone
          exact hfinal
      | error halt =>
          obtain ⟨-, rfl⟩ := runs_pure.mp hdone
          exact hfinal
  | error halt =>
      cases halt with
      | waiting => exact .inl rfl
      | threw error =>
          obtain ⟨ended, last, hfinal, hdone⟩ := runs_bind.mp hrest
          refine .inr ⟨ended, ?_⟩
          cases ended with
          | ok done =>
              obtain ⟨-, rfl⟩ := runs_pure.mp hdone
              exact hfinal
          | error halt =>
              obtain ⟨-, rfl⟩ := runs_pure.mp hdone
              exact hfinal

/-- A section under the lock frees it as its last step. -/
theorem section_releases {body : Talk Value} {result : Except Halt Value}
    (hbody : LeavesLock body) (htaken : takesIn before = 1) (hfrees : freesIn before = 0)
    (hrun : Tries (tryFinally body (do orThrow (← ask .removeLock))) before result after) :
    ReleasesOnce after := by
  obtain ⟨outcome, middle, hmiddle, hrest⟩ := tryFinally_cases hrun
  obtain ⟨htakes, hfree, hends⟩ := hbody _ _ _ hmiddle
  rcases hrest with hwaiting | ⟨ended, hfinal⟩
  · exact absurd hwaiting hends
  · obtain ⟨answer, hthrow⟩ := tries_ask_bind.mp hfinal
    have hlast : after = freed answer :: middle := by
      cases answer with
      | ok value => exact (tries_pure.mp hthrow).2
      | error error => exact (tries_throw.mp hthrow).2
    exact .inr ⟨answer, middle, hlast, htakes.trans htaken, hfree.trans hfrees⟩

/-- Nothing of the lock was touched yet. -/
def Untouched (history : List FileEvent) : Prop := takesIn history = 0 ∧ freesIn history = 0

/-- Every run of a call from an untouched lock frees what it took, once. -/
def Releases (call : Talk Value) : Prop :=
  ∀ before result after, Untouched before → Tries call before result after → ReleasesOnce after

theorem LeavesLock.untouched {call : Talk Value} {result : Except Halt Value}
    (hcall : LeavesLock call) (hbefore : Untouched before)
    (hrun : Tries call before result after) : Untouched after := by
  obtain ⟨htakes, hfrees, -⟩ := hcall _ _ _ hrun
  exact ⟨htakes.trans hbefore.1, hfrees.trans hbefore.2⟩

theorem LeavesLock.releases {call : Talk Value} (hcall : LeavesLock call) : Releases call := by
  intro before result after hbefore hrun
  exact .inl (hcall.untouched hbefore hrun)

theorem LeavesLock.bind_releases {call : Talk Value} {next : Value → Talk Next}
    (hcall : LeavesLock call) (hnext : ∀ value, Releases (next value)) :
    Releases (call >>= next) := by
  intro before result after hbefore hrun
  rcases tries_bind.mp hrun with ⟨value, middle, hfirst, hrest⟩ | ⟨halt, rfl, hfirst⟩
  · exact hnext value _ _ _ (hcall.untouched hbefore hfirst) hrest
  · exact .inl (hcall.untouched hbefore hfirst)

/-- An acquisition with a section behind it where the lock was taken. -/
theorem acquireBy_releases {options : RegistryLockOptions}
    {next : RegistryLockAcquisition → Talk Value} {body : Talk Value}
    (hmissed : ∀ acquisition, acquisition.locked = false → LeavesLock (next acquisition))
    (hlocked : ∀ acquisition, acquisition.locked = true →
      next acquisition = tryFinally body (do orThrow (← ask .removeLock)))
    (hbody : LeavesLock body) : Releases (acquireBy pause options fuel >>= next) := by
  intro before result after hbefore hrun
  rcases tries_bind.mp hrun with ⟨acquisition, middle, hacquire, hrest⟩ | ⟨halt, rfl, hacquire⟩
  · have hacquires := acquireBy_cases hacquire
    have htakes := hacquires.takes
    have hfrees := hacquires.frees.trans hbefore.2
    rw [hbefore.1, Nat.zero_add] at htakes
    cases hgot : acquisition.locked with
    | true =>
        rw [hlocked acquisition hgot] at hrest
        simp only [hgot, if_true] at htakes
        exact section_releases hbody htakes hfrees hrest
    | false =>
        simp only [hgot, Bool.false_eq_true, if_false] at htakes
        exact (hmissed acquisition hgot).releases _ _ _ ⟨htakes, hfrees⟩ hrest
  · have hacquires := acquireBy_cases hacquire
    exact .inl ⟨hacquires.takes.trans hbefore.1, hacquires.frees.trans hbefore.2⟩

/-- An append frees the lock once where it took it, and not at all where it did not. -/
theorem appendBy_releases (runtime : Runtime) (scope base : JsString) (event : JsValue)
    (options : RegistryAppendOptions) (fuel : Nat) :
    Releases (appendRegistryEventBy (acquireBy pause) runtime scope event base options fuel) := by
  rw [appendRegistryEventBy]
  cases prepareAppend runtime scope event base options with
  | error rejections => exact (leavesLock_pure _).releases
  | ok prepared =>
      apply (leavesLock_symlink _ _ _).bind_releases
      intro linked
      cases linked with
      | some linked => exact (leavesLock_pure _).releases
      | none =>
          apply (leavesLock_ask fun _ => ⟨rfl, rfl⟩).bind_releases
          intro made
          apply (leavesLock_orThrow made).bind_releases
          intro _
          apply acquireBy_releases
          · intro acquisition hmissed
            simp only [hmissed, Bool.not_false, if_true]
            exact leavesLock_pure _
          · intro acquisition hlocked
            simp only [hlocked, Bool.not_true, Bool.false_eq_true, if_false]
            rfl
          · apply (leavesLock_symlink _ _ _).bind
            intro raced
            cases raced with
            | some raced => exact leavesLock_pure _
            | none =>
                apply (leavesLock_ask fun _ => ⟨rfl, rfl⟩).bind
                intro answer
                exact (leavesLock_orThrow answer).bind fun _ => leavesLock_pure _

/-! ## The law -/

/-- For finite options and a clock that moves by what is slept, either acquisition ends as it
should; each run of one is a run of the other with the same attempts and delays; and either
append frees what it took, once, and nothing else. -/
theorem registryLock_law (options : RegistryAppendOptions)
    (hfinite : FiniteOptions options.toRegistryLockOptions) :
    (∀ acquire ∈ [acquireRegistryLock, acquireRegistryLockAsync], ∀ (fuel : Nat)
      (time : List FileEvent → Int) (outcome : Except Halt RegistryLockAcquisition)
      (history : List FileEvent),
      attemptLimit (lockPolicy options.toRegistryLockOptions) < fuel →
      Tries (acquire options.toRegistryLockOptions fuel) [] outcome history →
      Advances time history →
      LawfulAcquisition (lockPolicy options.toRegistryLockOptions) outcome history) ∧
    (∀ (fuel : Nat) (outcome : Except Halt RegistryLockAcquisition) (history : List FileEvent),
      (Tries (acquireRegistryLock options.toRegistryLockOptions fuel) [] outcome history →
        Tries (acquireRegistryLockAsync options.toRegistryLockOptions fuel) [] outcome
          (history.map (byPause .timer))) ∧
      (Tries (acquireRegistryLockAsync options.toRegistryLockOptions fuel) [] outcome history →
        Tries (acquireRegistryLock options.toRegistryLockOptions fuel) [] outcome
          (history.map (byPause .blocking)))) ∧
    ∀ append ∈ [appendRegistryEvent, appendRegistryEventAsync], ∀ (runtime : Runtime)
      (scope base : JsString) (event : JsValue) (fuel : Nat)
      (result : Except Halt (Judged Appended)) (history : List FileEvent),
      Tries (append runtime scope event base options fuel) [] result history →
      ReleasesOnce history := by
  have hlawful : ∀ (pause : Pause) (fuel : Nat) (time : List FileEvent → Int)
      (outcome : Except Halt RegistryLockAcquisition) (history : List FileEvent),
      attemptLimit (lockPolicy options.toRegistryLockOptions) < fuel →
      Tries (acquireBy pause options.toRegistryLockOptions fuel) [] outcome history →
      Advances time history →
      LawfulAcquisition (lockPolicy options.toRegistryLockOptions) outcome history := by
    intro pause fuel time outcome history hfuel hrun hclock
    exact (acquireBy_cases hrun).lawful (lockPolicy_bounded hfinite) hclock hfuel
  have hreleases : ∀ (pause : Pause) (runtime : Runtime) (scope base : JsString)
      (event : JsValue) (fuel : Nat) (result : Except Halt (Judged Appended))
      (history : List FileEvent),
      Tries (appendRegistryEventBy (acquireBy pause) runtime scope event base options fuel) []
        result history → ReleasesOnce history := by
    intro pause runtime scope base event fuel result history hrun
    exact appendBy_releases runtime scope base event options fuel _ _ _ ⟨rfl, rfl⟩ hrun
  refine ⟨?_, ?_, ?_⟩
  · intro acquire hacquire
    rcases List.mem_pair.mp hacquire with rfl | rfl
    · exact hlawful .blocking
    · exact hlawful .timer
  · intro fuel outcome history
    exact ⟨@twins_acquireBy .timer .blocking options.toRegistryLockOptions fuel [] outcome history,
      @twins_acquireBy .blocking .timer options.toRegistryLockOptions fuel [] outcome history⟩
  · intro append happend
    rcases List.mem_pair.mp happend with rfl | rfl
    · exact hreleases .blocking
    · exact hreleases .timer

/-- Two attempts without a pause between them. -/
def twoAttempts : RegistryAppendOptions :=
  { RegistryAppendOptions.defaults with
    maxLockAttempts := some (.ofNat 2)
    lockRetryMs := some (.ofNat 0) }

/-- Another writer held the lock at the first attempt. -/
def secondTake : List FileEvent :=
  [told 0, tried (.ok ()), tried (.error ⟨js "EEXIST"⟩), told 0]

theorem tries_secondTake :
    Tries (acquireRegistryLock twoAttempts.toRegistryLockOptions 3) []
      (.ok { locked := true, attempts := 2, elapsedMs := 0 }) secondTake :=
  .ask (0 : Int) (.ask (.error ⟨js "EEXIST"⟩) (.ask (.ok ()) (.ask (0 : Int) (.done _ _))))

theorem twoAttempts_finite : FiniteOptions twoAttempts.toRegistryLockOptions where
  attempts number hnumber := by
    cases hnumber
    exact isDouble_ofNat (by decide)
  retry number hnumber := by
    cases hnumber
    exact isDouble_ofNat (by decide)
  budget := by rintro number ⟨⟩

theorem twoAttempts_limit : attemptLimit (lockPolicy twoAttempts.toRegistryLockOptions) < 3 := by
  have hpolicy : lockPolicy twoAttempts.toRegistryLockOptions =
      .fixed ((JsNumber.finite (1 : Nat)).maximum (.finite (2 : Nat)))
        ((JsNumber.ofNat 0).maximum (.ofNat 0)) := rfl
  rw [hpolicy, JsNumber.maximum_finite, attemptLimit]
  norm_num

theorem secondTake_advances : Advances (fun _ => 0) secondTake where
  tells now earlier hsuffix := by
    have hmem : told now ∈ secondTake := hsuffix.subset List.mem_cons_self
    simpa [secondTake, told, tried] using hmem
  moves _ _ _ := le_refl _
  sleeps pause ms earlier hsuffix := by
    have hmem : waited pause (.finite ms) ∈ secondTake := hsuffix.subset List.mem_cons_self
    simp [secondTake, told, tried, waited] at hmem

/-- The lock is taken at the second attempt, as the law says. -/
theorem registryLock_law_secondTake :
    LawfulAcquisition (lockPolicy twoAttempts.toRegistryLockOptions)
      (.ok { locked := true, attempts := 2, elapsedMs := 0 }) secondTake :=
  (registryLock_law twoAttempts twoAttempts_finite).1 acquireRegistryLock
    List.mem_cons_self 3 (fun _ => 0) _ secondTake twoAttempts_limit tries_secondTake
    secondTake_advances

end OdinSentinel.Registry
