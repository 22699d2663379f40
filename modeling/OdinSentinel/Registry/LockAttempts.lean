import OdinSentinel.Registry.Files

/-!
# Attempts at the lock

What an acquisition asks and hears: attempts that fail while another writer holds the
lock, a look at the clock and a pause between them, and the last attempt that decides.
-/

namespace OdinSentinel.Registry

open JsText Dialogue

/-! ## Exchanges -/

def tried (answer : FsAnswer Unit) : FileEvent := ⟨.makeLock, answer⟩
def told (now : Int) : FileEvent := ⟨.now, now⟩
def drew (random : { value : ℚ // 0 ≤ value ∧ value < 1 }) : FileEvent := ⟨.random, random⟩
def waited (pause : Pause) (ms : JsNumber) : FileEvent := ⟨.wait pause ms, ()⟩
def freed (answer : FsAnswer Unit) : FileEvent := ⟨.removeLock, answer⟩

/-- The answer of an attempt at the lock. -/
def attemptOf : FileEvent → Option (FsAnswer Unit)
  | ⟨.makeLock, answer⟩ => some answer
  | _ => none

def readingOf : FileEvent → Option Int
  | ⟨.now, now⟩ => some now
  | _ => none

def isFreeing : FileEvent → Bool
  | ⟨.removeLock, _⟩ => true
  | _ => false

/-- The pause of a wait; nothing is waited for no time. -/
def pauses (pause : Pause) (ms : JsNumber) : List FileEvent :=
  if ms.le (.ofNat 0) then [] else [waited pause ms]

def sleepBy : Pause → JsNumber → Talk Unit
  | .blocking => sleepSync
  | .timer => sleepAsync

variable {pause : Pause} {before after : List FileEvent} {Value Next : Type}

theorem tries_ask_bind {question : FileAsk} {next : FileAnswer question → Talk Next}
    {result : Except Halt Next} :
    Tries (ask question >>= next) before result after ↔
      ∃ answer, Tries (next answer) (⟨question, answer⟩ :: before) result after :=
  tries_request_bind

theorem tries_sleepBy {ms : JsNumber} {result : Except Halt Unit} :
    Tries (sleepBy pause ms) before result after ↔
      result = .ok () ∧ after = pauses pause ms ++ before := by
  have hsleep : sleepBy pause ms = if ms.le (.ofNat 0) then pure () else ask (.wait pause ms) := by
    cases pause <;> rfl
  rw [hsleep, pauses]
  split_ifs with hzero
  · exact tries_pure
  · constructor
    · intro hrun
      obtain ⟨_, rfl, rfl⟩ := tries_request.mp hrun
      exact ⟨rfl, rfl⟩
    · rintro ⟨rfl, rfl⟩
      exact tries_request.mpr ⟨(), rfl, rfl⟩

theorem tries_sleepBy_bind {ms : JsNumber} {next : Unit → Talk Next} {result : Except Halt Next} :
    Tries (sleepBy pause ms >>= next) before result after ↔
      Tries (next ()) (pauses pause ms ++ before) result after := by
  rw [tries_bind]
  simp only [tries_sleepBy]
  constructor
  · rintro (⟨_, _, ⟨-, rfl⟩, hnext⟩ | ⟨_, -, hstop, -⟩)
    · exact hnext
    · cases hstop
  · exact fun hnext => .inl ⟨(), _, ⟨trivial, rfl⟩, hnext⟩

/-! ## The two modes -/

/-- The attempts of the fixed mode behind those that were made. -/
inductive FixedAttempts (pause : Pause) (maxAttempts retryMs : JsNumber) :
    Nat → Nat → List FileEvent → Except Halt (Bool × Nat) → List FileEvent → Prop
  | outOfFuel (attempts : Nat) (before : List FileEvent) :
      FixedAttempts pause maxAttempts retryMs 0 attempts before (.error .waiting) before
  | spent (fuel attempts : Nat) (before : List FileEvent)
      (hspent : (JsNumber.ofNat attempts).lt maxAttempts = false) :
      FixedAttempts pause maxAttempts retryMs (fuel + 1) attempts before (.ok (false, attempts))
        before
  | taken (fuel attempts : Nat) (before : List FileEvent)
      (hleft : (JsNumber.ofNat attempts).lt maxAttempts = true) :
      FixedAttempts pause maxAttempts retryMs (fuel + 1) attempts before
        (.ok (true, attempts + 1)) (tried (.ok ()) :: before)
  | threw (fuel attempts : Nat) (before : List FileEvent) (error : FsError)
      (hleft : (JsNumber.ofNat attempts).lt maxAttempts = true)
      (hother : isEexists error = false) :
      FixedAttempts pause maxAttempts retryMs (fuel + 1) attempts before (.error (.threw error))
        (tried (.error error) :: before)
  | held (fuel attempts : Nat) (before after : List FileEvent)
      (result : Except Halt (Bool × Nat)) (error : FsError)
      (hleft : (JsNumber.ofNat attempts).lt maxAttempts = true)
      (hheld : isEexists error = true)
      (hrest : FixedAttempts pause maxAttempts retryMs fuel (attempts + 1)
        ((if (JsNumber.ofNat (attempts + 1)).lt maxAttempts then pauses pause retryMs else []) ++
          tried (.error error) :: before) result after) :
      FixedAttempts pause maxAttempts retryMs (fuel + 1) attempts before result after

/-- The attempts of the backoff mode behind those that were made. -/
inductive BackoffAttempts (pause : Pause) (startedAt : Int) (budgetMs : JsNumber) :
    Nat → Nat → Nat → List FileEvent → Except Halt (Bool × Nat) → List FileEvent → Prop
  | outOfFuel (attempts delayMs : Nat) (before : List FileEvent) :
      BackoffAttempts pause startedAt budgetMs 0 attempts delayMs before (.error .waiting) before
  | taken (fuel attempts delayMs : Nat) (before : List FileEvent) :
      BackoffAttempts pause startedAt budgetMs (fuel + 1) attempts delayMs before
        (.ok (true, attempts + 1)) (tried (.ok ()) :: before)
  | threw (fuel attempts delayMs : Nat) (before : List FileEvent) (error : FsError)
      (hother : isEexists error = false) :
      BackoffAttempts pause startedAt budgetMs (fuel + 1) attempts delayMs before
        (.error (.threw error)) (tried (.error error) :: before)
  | spent (fuel attempts delayMs : Nat) (before : List FileEvent) (error : FsError) (now : Int)
      (hheld : isEexists error = true)
      (hspent : budgetMs.le (.ofInt (now - startedAt)) = true) :
      BackoffAttempts pause startedAt budgetMs (fuel + 1) attempts delayMs before
        (.ok (false, attempts + 1)) (told now :: tried (.error error) :: before)
  | held (fuel attempts delayMs : Nat) (before after : List FileEvent)
      (result : Except Halt (Bool × Nat)) (error : FsError) (now : Int)
      (random : { value : ℚ // 0 ≤ value ∧ value < 1 })
      (hheld : isEexists error = true)
      (hleft : budgetMs.le (.ofInt (now - startedAt)) = false)
      (hrest : BackoffAttempts pause startedAt budgetMs fuel (attempts + 1)
        (min defaultLockBackoffMaxMs (delayMs * 2))
        (pauses pause (nextBackoffDelayMs random.1 delayMs (now - startedAt) budgetMs) ++
          drew random :: told now :: tried (.error error) :: before) result after) :
      BackoffAttempts pause startedAt budgetMs (fuel + 1) attempts delayMs before result after

variable {maxAttempts retryMs budgetMs : JsNumber} {fuel attempts delayMs : Nat} {startedAt : Int}
  {result : Except Halt (Bool × Nat)}

theorem fixedAttempts_cases
    (hrun : Tries (fixedAttempts (sleepBy pause) maxAttempts retryMs fuel attempts) before result
      after) :
    FixedAttempts pause maxAttempts retryMs fuel attempts before result after := by
  induction fuel generalizing attempts before with
  | zero =>
      obtain ⟨rfl, rfl⟩ := tries_throw.mp hrun
      exact .outOfFuel attempts after
  | succ fuel ih =>
      rw [fixedAttempts] at hrun
      by_cases hleft : (JsNumber.ofNat attempts).lt maxAttempts = true
      · rw [if_pos hleft] at hrun
        obtain ⟨answer, hrun⟩ := tries_ask_bind.mp hrun
        cases answer with
        | ok value =>
            obtain ⟨rfl, rfl⟩ := tries_pure.mp hrun
            exact .taken fuel attempts before hleft
        | error error =>
            cases hheld : isEexists error with
            | false =>
                simp only [hheld] at hrun
                obtain ⟨rfl, rfl⟩ := tries_throw.mp hrun
                exact .threw fuel attempts before error hleft hheld
            | true =>
                simp only [hheld, Bool.not_true, Bool.false_eq_true, if_false] at hrun
                apply FixedAttempts.held fuel attempts before after result error hleft hheld
                by_cases hmore : (JsNumber.ofNat (attempts + 1)).lt maxAttempts = true
                · rw [if_pos hmore] at hrun ⊢
                  exact ih (tries_sleepBy_bind.mp hrun)
                · rw [if_neg hmore] at hrun ⊢
                  exact ih hrun
      · rw [if_neg hleft] at hrun
        obtain ⟨rfl, rfl⟩ := tries_pure.mp hrun
        exact .spent fuel attempts after (by simpa using hleft)

theorem backoffAttempts_cases
    (hrun : Tries (backoffAttempts (sleepBy pause) startedAt budgetMs fuel attempts delayMs) before
      result after) :
    BackoffAttempts pause startedAt budgetMs fuel attempts delayMs before result after := by
  induction fuel generalizing attempts delayMs before with
  | zero =>
      obtain ⟨rfl, rfl⟩ := tries_throw.mp hrun
      exact .outOfFuel attempts delayMs after
  | succ fuel ih =>
      rw [backoffAttempts] at hrun
      obtain ⟨answer, hrun⟩ := tries_ask_bind.mp hrun
      cases answer with
      | ok value =>
          obtain ⟨rfl, rfl⟩ := tries_pure.mp hrun
          exact .taken fuel attempts delayMs before
      | error error =>
          cases hheld : isEexists error with
          | false =>
              simp only [hheld] at hrun
              obtain ⟨rfl, rfl⟩ := tries_throw.mp hrun
              exact .threw fuel attempts delayMs before error hheld
          | true =>
              simp only [hheld, Bool.not_true, Bool.false_eq_true, if_false] at hrun
              obtain ⟨now, hrun⟩ := tries_ask_bind.mp hrun
              split_ifs at hrun with hspent
              · obtain ⟨rfl, rfl⟩ := tries_pure.mp hrun
                exact .spent fuel attempts delayMs before error now hheld hspent
              · obtain ⟨random, hrun⟩ := tries_ask_bind.mp hrun
                have hrest := ih (tries_sleepBy_bind.mp hrun)
                exact .held fuel attempts delayMs before after result error now random hheld
                  (by simpa using hspent) hrest

/-- The attempts under a policy, from the first one on. -/
def Attempts (pause : Pause) (startedAt : Int) (fuel : Nat) (before : List FileEvent)
    (result : Except Halt (Bool × Nat)) (after : List FileEvent) : LockPolicy → Prop
  | .fixed maxAttempts retryMs =>
      FixedAttempts pause maxAttempts retryMs fuel 0 before result after
  | .backoff budgetMs =>
      BackoffAttempts pause startedAt budgetMs fuel 0 defaultLockBackoffInitialMs before result
        after

/-- The ways of an acquisition: the clock, the attempts, and the clock again where they
came to an end. -/
inductive Acquires (pause : Pause) (policy : LockPolicy) (fuel : Nat) (before : List FileEvent) :
    Except Halt RegistryLockAcquisition → List FileEvent → Prop
  | halted (startedAt : Int) (halt : Halt) (after : List FileEvent)
      (hattempts : Attempts pause startedAt fuel (told startedAt :: before) (.error halt) after
        policy) :
      Acquires pause policy fuel before (.error halt) after
  | decided (startedAt now : Int) (locked : Bool) (made : Nat) (middle : List FileEvent)
      (hattempts : Attempts pause startedAt fuel (told startedAt :: before) (.ok (locked, made))
        middle policy) :
      Acquires pause policy fuel before
        (.ok { locked := locked, attempts := made, elapsedMs := now - startedAt })
        (told now :: middle)

def acquireBy (pause : Pause) (options : RegistryLockOptions) (fuel : Nat) :
    Talk RegistryLockAcquisition := acquireRegistryLockBy (sleepBy pause) options fuel

theorem acquires_of_attempts {policy : LockPolicy} {loop : Talk (Bool × Nat)}
    {outcome : Except Halt RegistryLockAcquisition}
    (hattempts : ∀ result middle, Tries loop (told startedAt :: before) result middle →
      Attempts pause startedAt fuel (told startedAt :: before) result middle policy)
    (hrun : Tries (loop >>= fun found => ask .now >>= fun now =>
      (pure { locked := found.1, attempts := found.2, elapsedMs := now - startedAt } :
        Talk RegistryLockAcquisition)) (told startedAt :: before) outcome after) :
    Acquires pause policy fuel before outcome after := by
  rcases tries_bind.mp hrun with ⟨⟨locked, made⟩, middle, hloop, hrun⟩ | ⟨halt, rfl, hloop⟩
  · obtain ⟨now, hrun⟩ := tries_ask_bind.mp hrun
    obtain ⟨rfl, rfl⟩ := tries_pure.mp hrun
    exact .decided startedAt now locked made middle (hattempts _ _ hloop)
  · exact .halted startedAt halt after (hattempts _ _ hloop)

theorem acquireBy_cases {options : RegistryLockOptions}
    {outcome : Except Halt RegistryLockAcquisition}
    (hrun : Tries (acquireBy pause options fuel) before outcome after) :
    Acquires pause (lockPolicy options) fuel before outcome after := by
  unfold acquireBy acquireRegistryLockBy at hrun
  obtain ⟨startedAt, hrun⟩ := tries_ask_bind.mp hrun
  cases hpolicy : lockPolicy options with
  | fixed maxAttempts retryMs =>
      rw [hpolicy] at hrun
      exact acquires_of_attempts (fun _ _ => fixedAttempts_cases) hrun
  | backoff budgetMs =>
      rw [hpolicy] at hrun
      exact acquires_of_attempts (fun _ _ => backoffAttempts_cases) hrun

/-! ## What was answered -/

/-- The answers of the attempts, newest first. -/
def answersIn (history : List FileEvent) : List (FsAnswer Unit) := history.filterMap attemptOf

/-- The answers behind a part of an acquisition: the lock was held a number of times, and
the attempt behind that took it, failed otherwise, or was not made. -/
def Heard (attempts : Nat) (earlier : List (FsAnswer Unit)) (result : Except Halt (Bool × Nat))
    (answers : List (FsAnswer Unit)) : Prop :=
  ∃ held : List FsError, (∀ error ∈ held, isEexists error = true) ∧
    match result with
    | .ok (true, made) =>
        answers = .ok () :: held.map .error ++ earlier ∧ made = attempts + held.length + 1
    | .ok (false, made) =>
        answers = held.map .error ++ earlier ∧ made = attempts + held.length
    | .error (.threw error) =>
        answers = .error error :: held.map .error ++ earlier ∧ isEexists error = false
    | .error .waiting => answers = held.map .error ++ earlier

/-- The attempts that were made. -/
def attemptsIn (history : List FileEvent) : Nat := (answersIn history).length

@[simp]
theorem answersIn_tried (answer : FsAnswer Unit) (history : List FileEvent) :
    answersIn (tried answer :: history) = answer :: answersIn history := rfl

@[simp]
theorem answersIn_told (now : Int) (history : List FileEvent) :
    answersIn (told now :: history) = answersIn history := rfl

@[simp]
theorem answersIn_drew (random : { value : ℚ // 0 ≤ value ∧ value < 1 })
    (history : List FileEvent) : answersIn (drew random :: history) = answersIn history := rfl

@[simp]
theorem answersIn_pauses (ms : JsNumber) (history : List FileEvent) :
    answersIn (pauses pause ms ++ history) = answersIn history := by
  rw [pauses]
  split_ifs <;> rfl

/-- A pause that is made or left out. -/
theorem answersIn_between (again : Prop) [Decidable again] (ms : JsNumber)
    (history : List FileEvent) :
    answersIn ((if again then pauses pause ms else []) ++ history) = answersIn history := by
  split_ifs
  · exact answersIn_pauses ms history
  · rfl

variable {earlier answers : List (FsAnswer Unit)}

/-- A held lock is one failed attempt more. -/
theorem Heard.held {error : FsError} (hheld : isEexists error = true)
    (hheard : Heard (attempts + 1) (.error error :: earlier) result answers) :
    Heard attempts earlier result answers := by
  obtain ⟨held, hall, hrest⟩ := hheard
  refine ⟨held ++ [error], List.forall_mem_append.mpr ⟨hall, by simpa using hheld⟩, ?_⟩
  have hlength : attempts + (held ++ [error]).length = attempts + 1 + held.length := by
    simp only [List.length_append, List.length_cons, List.length_nil]
    omega
  simpa only [hlength, List.map_append, List.map_singleton, List.append_assoc,
    List.nil_append, List.cons_append] using hrest

theorem FixedAttempts.heard
    (hattempts : FixedAttempts pause maxAttempts retryMs fuel attempts before result after) :
    Heard attempts (answersIn before) result (answersIn after) := by
  induction hattempts with
  | outOfFuel => exact ⟨[], by simp, rfl⟩
  | spent => exact ⟨[], by simp, rfl, rfl⟩
  | taken => exact ⟨[], by simp, rfl, rfl⟩
  | threw _ _ _ _ _ hother => exact ⟨[], by simp, rfl, hother⟩
  | held fuel attempts before after result error hleft hheld hrest ih =>
      apply Heard.held hheld
      rw [answersIn_between, answersIn_tried] at ih
      exact ih

theorem BackoffAttempts.heard
    (hattempts : BackoffAttempts pause startedAt budgetMs fuel attempts delayMs before result
      after) :
    Heard attempts (answersIn before) result (answersIn after) := by
  induction hattempts with
  | outOfFuel => exact ⟨[], by simp, rfl⟩
  | taken => exact ⟨[], by simp, rfl, rfl⟩
  | threw _ _ _ _ _ hother => exact ⟨[], by simp, rfl, hother⟩
  | spent _ _ _ _ error _ hheld => exact Heard.held hheld ⟨[], by simp, by simp, rfl⟩
  | held fuel attempts delayMs before after result error now random hheld hleft hrest ih =>
      apply Heard.held hheld
      simpa using ih

theorem Attempts.heard {policy : LockPolicy}
    (hattempts : Attempts pause startedAt fuel before result after policy) :
    Heard 0 (answersIn before) result (answersIn after) := by
  cases policy with
  | fixed => exact FixedAttempts.heard hattempts
  | backoff => exact BackoffAttempts.heard hattempts

/-- Fuel is spent on attempts. -/
theorem FixedAttempts.waiting
    (hattempts : FixedAttempts pause maxAttempts retryMs fuel attempts before result after)
    (hresult : result = .error .waiting) : attemptsIn after = attemptsIn before + fuel := by
  induction hattempts with
  | outOfFuel => rfl
  | spent => cases hresult
  | taken => cases hresult
  | threw => cases hresult
  | held fuel attempts before after result error _ _ _ ih =>
      rw [ih hresult, attemptsIn, answersIn_between, answersIn_tried, List.length_cons, attemptsIn]
      omega

theorem BackoffAttempts.waiting
    (hattempts : BackoffAttempts pause startedAt budgetMs fuel attempts delayMs before result
      after)
    (hresult : result = .error .waiting) : attemptsIn after = attemptsIn before + fuel := by
  induction hattempts with
  | outOfFuel => rfl
  | taken => cases hresult
  | threw => cases hresult
  | spent => cases hresult
  | held fuel attempts delayMs before after result error now random _ _ _ ih =>
      rw [ih hresult, attemptsIn, answersIn_pauses, answersIn_drew, answersIn_told,
        answersIn_tried, List.length_cons, attemptsIn]
      omega

theorem Attempts.waiting {policy : LockPolicy}
    (hattempts : Attempts pause startedAt fuel before (.error .waiting) after policy) :
    attemptsIn after = attemptsIn before + fuel := by
  cases policy with
  | fixed => exact FixedAttempts.waiting hattempts rfl
  | backoff => exact BackoffAttempts.waiting hattempts rfl

/-- The fixed mode gives up when it has made its attempts. -/
theorem FixedAttempts.gaveUp {made : Nat}
    (hattempts : FixedAttempts pause maxAttempts retryMs fuel attempts before result after)
    (hresult : result = .ok (false, made)) : (JsNumber.ofNat made).lt maxAttempts = false := by
  induction hattempts with
  | outOfFuel => cases hresult
  | spent _ _ _ hspent =>
      cases hresult
      exact hspent
  | taken => cases hresult
  | threw => cases hresult
  | held _ _ _ _ _ _ _ _ _ ih => exact ih hresult

theorem BackoffAttempts.gaveUp {made : Nat}
    (hattempts : BackoffAttempts pause startedAt budgetMs fuel attempts delayMs before result
      after)
    (hresult : result = .ok (false, made)) : 1 ≤ made := by
  induction hattempts with
  | outOfFuel => cases hresult
  | taken => cases hresult
  | threw => cases hresult
  | spent =>
      cases hresult
      exact Nat.le_add_left 1 _
  | held _ _ _ _ _ _ _ _ _ _ _ _ ih => exact ih hresult

/-! ## What was freed -/

/-- The removals of the lock. -/
def freesIn (history : List FileEvent) : Nat := history.countP isFreeing

@[simp]
theorem freesIn_tried (answer : FsAnswer Unit) (history : List FileEvent) :
    freesIn (tried answer :: history) = freesIn history := rfl

@[simp]
theorem freesIn_told (now : Int) (history : List FileEvent) :
    freesIn (told now :: history) = freesIn history := rfl

@[simp]
theorem freesIn_drew (random : { value : ℚ // 0 ≤ value ∧ value < 1 })
    (history : List FileEvent) : freesIn (drew random :: history) = freesIn history := rfl

@[simp]
theorem freesIn_pauses (ms : JsNumber) (history : List FileEvent) :
    freesIn (pauses pause ms ++ history) = freesIn history := by
  rw [pauses]
  split_ifs <;> rfl

theorem FixedAttempts.frees
    (hattempts : FixedAttempts pause maxAttempts retryMs fuel attempts before result after) :
    freesIn after = freesIn before := by
  induction hattempts with
  | outOfFuel => rfl
  | spent => rfl
  | taken => rfl
  | threw => rfl
  | held fuel attempts before after result error hleft hheld hrest ih =>
      rw [ih]
      split_ifs
      · simp
      · rfl

theorem BackoffAttempts.frees
    (hattempts : BackoffAttempts pause startedAt budgetMs fuel attempts delayMs before result
      after) : freesIn after = freesIn before := by
  induction hattempts with
  | outOfFuel => rfl
  | taken => rfl
  | threw => rfl
  | spent => rfl
  | held fuel attempts delayMs before after result error now random hheld hleft hrest ih => simp [ih]

theorem Attempts.frees {policy : LockPolicy}
    (hattempts : Attempts pause startedAt fuel before result after policy) :
    freesIn after = freesIn before := by
  cases policy with
  | fixed => exact FixedAttempts.frees hattempts
  | backoff => exact BackoffAttempts.frees hattempts

/-! ## What an acquisition reports -/

variable {policy : LockPolicy} {outcome : Except Halt RegistryLockAcquisition}

theorem Acquires.frees (hacquires : Acquires pause policy fuel before outcome after) :
    freesIn after = freesIn before := by
  cases hacquires with
  | halted _ _ _ hattempts => simpa using hattempts.frees
  | decided _ _ _ _ _ hattempts => simpa using hattempts.frees

/-- The times that the lock was taken. -/
def takesIn (history : List FileEvent) : Nat := (answersIn history).count (.ok ())

@[simp]
theorem count_held (held : List FsError) :
    (held.map Except.error : List (FsAnswer Unit)).count (.ok ()) = 0 := by
  rw [List.count_eq_zero]
  simp

/-- The lock was taken once where it is reported, and not at all elsewhere. -/
theorem Acquires.takes (hacquires : Acquires pause policy fuel before outcome after) :
    takesIn after = takesIn before +
      (match outcome with
      | .ok acquisition => if acquisition.locked then 1 else 0
      | .error _ => 0) := by
  cases hacquires with
  | halted startedAt halt after hattempts =>
      obtain ⟨held, -, hanswers⟩ := hattempts.heard
      cases halt with
      | threw error =>
          rw [takesIn, hanswers.1]
          simp [takesIn]
      | waiting =>
          rw [takesIn, hanswers]
          simp [takesIn]
  | decided startedAt now locked made middle hattempts =>
      obtain ⟨held, -, hanswers⟩ := hattempts.heard
      cases locked with
      | true =>
          rw [takesIn, answersIn_told, hanswers.1]
          simp [takesIn]
      | false =>
          rw [takesIn, answersIn_told, hanswers.1]
          simp [takesIn]

end OdinSentinel.Registry
