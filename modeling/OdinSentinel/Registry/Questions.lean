import OdinSentinel.Registry.Verdicts

/-!
# The questions of a call

What a call asks of the files, whatever other callers do to them in between: an append
reads nothing and writes its own line, and a derivation tells of the text that it read
last.
-/

namespace OdinSentinel.Registry

open JsText Dialogue

variable {Value Next : Type} {may : FileAsk → Prop}

/-! ## Attempts -/

theorem asks_ask {question : FileAsk} (hmay : may question) :
    Asks may (ask question : Talk (FileAnswer question)).run :=
  ⟨hmay, fun _ _ _ => trivial⟩

theorem asks_pure (value : Value) : Asks may (pure value : Talk Value).run := trivial

theorem asks_throw (halt : Halt) : Asks may (throw halt : Talk Value).run := trivial

theorem asks_orThrow (answer : FsAnswer Value) : Asks may (orThrow answer).run := by
  cases answer with
  | ok value => exact asks_pure value
  | error error => exact asks_throw (.threw error)

theorem asks_bind {first : Talk Value} {next : Value → Talk Next} (hfirst : Asks may first.run)
    (hnext : ∀ value, Asks may (next value).run) : Asks may (first >>= next).run := by
  rw [run_bind]
  apply hfirst.bind
  intro outcome
  cases outcome with
  | ok value => exact hnext value
  | error halt => trivial

theorem asks_symlink {dir path eventClass : JsString} (hmay : may .findLink) :
    Asks may (registrySymlinkRejection dir path eventClass).run := by
  apply asks_bind (asks_ask hmay)
  intro answer
  apply asks_bind (asks_orThrow answer)
  intro found
  cases found with
  | none => exact asks_pure none
  | some link => exact asks_pure _

theorem asks_tryFinally {body : Talk Value} {final : Talk Unit} (hbody : Asks may body.run)
    (hfinal : Asks may final.run) : Asks may (tryFinally body final).run := by
  apply hbody.bind
  intro outcome
  cases outcome with
  | ok value => exact hfinal.bind fun finished => by cases finished <;> trivial
  | error halt =>
      cases halt with
      | threw error => exact hfinal.bind fun finished => by cases finished <;> trivial
      | waiting => trivial

/-! ## The lock -/

/-- Neither a read nor a write of the files. -/
def IsAside (question : FileAsk) : Prop := question ≠ .readLog ∧ isWrite question = false

/-- What an attempt at the lock asks. -/
inductive LockAsks : FileAsk → Prop
  | makeLock : LockAsks .makeLock
  | now : LockAsks .now
  | wait (pause : Pause) (ms : JsNumber) : LockAsks (.wait pause ms)
  | random : LockAsks .random

theorem LockAsks.isAside {question : FileAsk} (hlock : LockAsks question) : IsAside question := by
  cases hlock <;> exact ⟨(by rintro ⟨⟩), rfl⟩

variable {sleep : JsNumber → Talk Unit}

theorem sleepSync_asks (ms : JsNumber) : Asks LockAsks (sleepSync ms).run := by
  rw [sleepSync]
  split
  · exact asks_pure ()
  · exact asks_ask (.wait .blocking ms)

theorem fixedAttempts_asks (hsleep : ∀ ms, Asks LockAsks (sleep ms).run)
    (maxAttempts retryMs : JsNumber) (fuel attempts : Nat) :
    Asks LockAsks (fixedAttempts sleep maxAttempts retryMs fuel attempts).run := by
  induction fuel generalizing attempts with
  | zero => exact asks_throw .waiting
  | succ fuel ih =>
      rw [fixedAttempts]
      split
      · apply asks_bind (asks_ask .makeLock)
        intro answer
        cases answer with
        | ok made => exact asks_pure _
        | error error =>
            cases hexists : isEexists error with
            | false =>
                simp only [hexists]
                exact asks_throw (.threw error)
            | true =>
                simp only [hexists]
                change Asks LockAsks (ite _ (sleep retryMs >>= _) _ : Talk _).run
                split
                · exact asks_bind (hsleep retryMs) fun _ => ih (attempts + 1)
                · exact ih (attempts + 1)
      · exact asks_pure _

theorem backoffAttempts_asks (hsleep : ∀ ms, Asks LockAsks (sleep ms).run) (startedAt : Int)
    (budgetMs : JsNumber) (fuel attempts delayMs : Nat) :
    Asks LockAsks (backoffAttempts sleep startedAt budgetMs fuel attempts delayMs).run := by
  induction fuel generalizing attempts delayMs with
  | zero => exact asks_throw .waiting
  | succ fuel ih =>
      rw [backoffAttempts]
      apply asks_bind (asks_ask .makeLock)
      intro answer
      cases answer with
      | ok made => exact asks_pure _
      | error error =>
          cases hexists : isEexists error with
          | false =>
              simp only [hexists]
              exact asks_throw (.threw error)
          | true =>
              simp only [hexists]
              apply asks_bind (asks_ask .now)
              intro now
              split
              · exact asks_pure _
              · apply asks_bind (asks_ask .random)
                intro random
                exact asks_bind (hsleep _) fun _ => ih _ _

theorem acquireRegistryLockBy_asks (hsleep : ∀ ms, Asks LockAsks (sleep ms).run)
    (options : RegistryLockOptions) (fuel : Nat) :
    Asks LockAsks (acquireRegistryLockBy sleep options fuel).run := by
  apply asks_bind (asks_ask .now)
  intro startedAt
  have hfinish : ∀ attempts : Talk (Bool × Nat), Asks LockAsks attempts.run →
      Asks LockAsks (attempts >>= fun found => ask .now >>= fun now =>
        (pure { locked := found.1, attempts := found.2, elapsedMs := now - startedAt } :
          Talk RegistryLockAcquisition)).run := by
    intro attempts hattempts
    apply asks_bind hattempts
    intro found
    apply asks_bind (asks_ask .now)
    exact fun now => asks_pure _
  cases lockPolicy options with
  | fixed maxAttempts retryMs => exact hfinish _ (fixedAttempts_asks hsleep _ _ _ _)
  | backoff budgetMs => exact hfinish _ (backoffAttempts_asks hsleep _ _ _ _ _)

/-! ## An append -/

variable {runtime : Runtime} {scope base : JsString} {value : JsValue}
variable {options : RegistryAppendOptions} {fuel : Nat}

/-- What an append asks: nothing of the files but to write its line. -/
def AppendAsks (runtime : Runtime) (scope : JsString) (value : JsValue) (base : JsString)
    (options : RegistryAppendOptions) (question : FileAsk) : Prop :=
  IsAside question ∨ ∃ prepared, prepareAppend runtime scope value base options = .ok prepared ∧
    question = .appendLog prepared.line

theorem appendRegistryEvent_asks :
    Asks (AppendAsks runtime scope value base options)
      (appendRegistryEvent runtime scope value base options fuel).run := by
  have hlock : ∀ question, LockAsks question → AppendAsks runtime scope value base options question :=
    fun question hlock => .inl hlock.isAside
  unfold appendRegistryEvent appendRegistryEventBy
  cases hprepared : prepareAppend runtime scope value base options with
  | error rejections => exact asks_pure _
  | ok prepared =>
      have hlink : AppendAsks runtime scope value base options .findLink :=
        .inl ⟨(by rintro ⟨⟩), rfl⟩
      apply asks_bind (asks_symlink hlink)
      intro linked
      cases linked with
      | some linked => exact asks_pure _
      | none =>
          apply asks_bind (asks_ask (.inl ⟨(by rintro ⟨⟩), rfl⟩))
          intro made
          apply asks_bind (asks_orThrow made)
          intro _
          apply asks_bind (Asks.mono (acquireRegistryLockBy_asks sleepSync_asks _ _) hlock)
          intro acquisition
          cases hlocked : acquisition.locked with
          | false =>
              simp only [Bool.not_false, if_true]
              exact asks_pure _
          | true =>
              simp only [Bool.not_true, Bool.false_eq_true, if_false]
              apply asks_tryFinally
              · apply asks_bind (asks_symlink hlink)
                intro raced
                cases raced with
                | some raced => exact asks_pure _
                | none =>
                    apply asks_bind (asks_ask (.inr ⟨prepared, hprepared, rfl⟩))
                    intro answer
                    exact asks_bind (asks_orThrow answer) fun _ => asks_pure _
              · apply asks_bind (asks_ask (.inl ⟨(by rintro ⟨⟩), rfl⟩))
                exact fun answer => asks_orThrow answer

/-! ## A derivation -/

/-- A read of the log. -/
def isRead : FileEvent → Bool
  | ⟨.readLog, _⟩ => true
  | _ => false

/-- The text that was read last. -/
def LastRead (past : List FileEvent) (text : JsString) : Prop :=
  ∃ later earlier, past = later ++ ⟨.readLog, .ok text⟩ :: earlier ∧
    ∀ event ∈ later, isRead event = false

theorem LastRead.cons {past : List FileEvent} {text : JsString} (hread : LastRead past text)
    {question : FileAsk} (haside : question ≠ .readLog) (answer : FileAnswer question) :
    LastRead (⟨question, answer⟩ :: past) text := by
  obtain ⟨later, earlier, rfl, hlater⟩ := hread
  refine ⟨⟨question, answer⟩ :: later, earlier, rfl, fun event hevent => ?_⟩
  rcases List.mem_cons.mp hevent with rfl | hevent
  · cases question with
    | readLog => exact absurd rfl haside
    | _ => rfl
  · exact hlater event hevent

/-- What a value is told from: the text read last, or an absent log. -/
def ToldBy (view : JsString → Judged Value) (past : List FileEvent)
    (outcome : Except Halt (Judged Value)) : Prop :=
  ∀ value, outcome = .ok (.ok value) → ∃ text, (LastRead past text ∨ text = []) ∧
    view text = .ok value

theorem toldBy_of_unreported {view : JsString → Judged Value} {past : List FileEvent}
    {outcome : Except Halt (Judged Value)} (hidle : Unreported outcome) :
    ToldBy view past outcome :=
  fun value hvalue => absurd hvalue (hidle value)

/-- A call that follows any rule on what moves nothing, and whose value is told by what it
read. -/
def Discloses (program : Talk (Judged Value)) (view : JsString → Judged Value) : Prop :=
  ∀ (rule : List FileEvent → FileAsk → Prop),
    (∀ past question, isPassive question = true → rule past question) →
      ∀ past, Follows rule (ToldBy view) past program.run

theorem Discloses.map {program : Talk (Judged Value)} {view : JsString → Judged Value}
    (hdiscloses : Discloses program view) (compute : Value → Next) :
    Discloses (program >>= fun found => pure (found.map compute))
      (fun text => (view text).map compute) := by
  intro rule hrule past
  rw [run_bind, follows_bind]
  apply (hdiscloses rule hrule past).mono
  intro past outcome htold
  cases outcome with
  | error halt => exact toldBy_of_unreported (unreported_error halt)
  | ok judged =>
      cases judged with
      | error rejections => exact toldBy_of_unreported (unreported_refused rejections)
      | ok value =>
          obtain ⟨text, hread, hview⟩ := htold value rfl
          rintro _ ⟨⟩
          exact ⟨text, hread, congrArg (Except.map compute) hview⟩

theorem discloses_error (rejections : List EventRejection) (view : JsString → Judged Value) :
    Discloses (pure (.error rejections) : Talk (Judged Value)) view :=
  fun _ _ _ => toldBy_of_unreported (unreported_refused rejections)

theorem readRegistryEvents_discloses :
    Discloses (readRegistryEvents runtime scope base) (eventsOf runtime scope) := by
  rw [readRegistryEvents]
  cases hsafe : isSafeRegistryScope scope with
  | false => exact discloses_error _ _
  | true =>
      intro rule hrule past
      refine ⟨hrule _ _ rfl, fun answer => ?_⟩
      cases answer with
      | error error => exact toldBy_of_unreported (unreported_error (.threw error))
      | ok found =>
          cases found with
          | some link => exact toldBy_of_unreported (unreported_refused _)
          | none =>
              refine ⟨hrule _ _ rfl, fun exist => ?_⟩
              cases exist with
              | false =>
                  rintro _ ⟨⟩
                  exact ⟨[], .inr rfl, by rw [eventsOf, hsafe]; rfl⟩
              | true =>
                  refine ⟨hrule _ _ rfl, fun answer => ?_⟩
                  cases answer with
                  | error error => exact toldBy_of_unreported (unreported_error (.threw error))
                  | ok text =>
                      intro value hvalue
                      refine ⟨text, .inl ⟨[], _, rfl, by simp⟩, ?_⟩
                      rw [eventsOf, hsafe]
                      exact Except.ok.inj hvalue

theorem derive_discloses {Accounting : Type} (objective : JsString) (query : JsValue)
    (account : List GovdispEvent → Accounting) :
    Discloses (derive runtime scope objective query base account)
      (deriveOf runtime scope objective query account) := by
  unfold derive deriveOf
  cases argumentFault scope objective with
  | some fault => exact discloses_error _ _
  | none =>
      apply Discloses.map
      unfold queryRegistryEvents queryOf
      cases validateRegistryEventQuery query with
      | nil => exact readRegistryEvents_discloses.map _
      | cons rejection rejections => exact discloses_error _ _

end OdinSentinel.Registry
