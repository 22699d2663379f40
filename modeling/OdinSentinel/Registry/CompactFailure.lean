import OdinSentinel.Core.Recording
import OdinSentinel.Registry.DryRun

/-!
# Failed compactions

A compaction fails where an argument, the lock or the plan is refused, or where an
operation on the files throws.  Its exchanges tell which, and whatever they were the log
and the lock are as they were before.
-/

namespace OdinSentinel.Registry

open JsText Dialogue

variable {runtime : Runtime} {scope path now : JsString} {nowMs : Int} {policy : TtlPolicy}
variable {fails : FileAsk → Prop} {Value Next : Type}

/-! ## What an exchange throws -/

/-- The error that an operation throws on.  A lock that is held is tried again, and the
failure of a clean-up is dropped. -/
def thrownAt : FileEvent → Option FsError
  | ⟨.makeDir, .error error⟩ => some error
  | ⟨.makeLock, .error error⟩ => if isEexists error then none else some error
  | ⟨.readLog, .error error⟩ => some error
  | ⟨.writeTemp _, .error error⟩ => some error
  | ⟨.renameTemp, .error error⟩ => some error
  | _ => none

/-- The errors that a run was thrown by its operations, newest first. -/
def thrownIn (history : List FileEvent) : List FsError := history.filterMap thrownAt

/-- The error that an outcome ends with. -/
def thrownBy : Except Halt Value → List FsError
  | .error (.threw error) => [error]
  | _ => []

/-- A reading of the clock behind which an attempt at the lock is followed by another. -/
def isWithin (startedAt : Int) (budgetMs : JsNumber) : FileEvent → Bool
  | ⟨.now, ms⟩ => !budgetMs.le (.ofInt (ms - startedAt))
  | _ => false

/-- The run has spent its fuel on attempts at the lock, each of them within the limits of
the policy and each of them without success.  The budget runs from the reading of the clock
behind the directory. -/
def StillWaiting (policy : LockPolicy) (fuel : Nat) (history : List FileEvent) : Prop :=
  match policy with
  | .fixed maxAttempts _ => ∀ attempt < fuel, (JsNumber.ofNat attempt).lt maxAttempts = true
  | .backoff budgetMs => ∃ startedAt later earlier,
      history = later ++ ⟨.now, startedAt⟩ :: ⟨.makeDir, .ok ()⟩ :: earlier ∧
      fuel ≤ later.countP (isWithin startedAt budgetMs)

/-- What the exchanges of a part of a run tell of its outcome. -/
structure Accounted (fine : Value → Prop) (waits : List FileEvent → Prop)
    (before : List FileEvent) (outcome : Except Halt Value) (after : Disk × List FileEvent) :
    Prop where
  thrown : thrownIn after.2 = thrownBy outcome ++ thrownIn before
  value : ∀ value, outcome = .ok value → fine value
  waiting : outcome = .error .waiting → waits after.2

/-- Every run of a part is accounted for. -/
def Accounts (fails : FileAsk → Prop) (fine : Value → Prop) (waits : List FileEvent → Prop)
    (attempt : Talk Value) (world : Disk × List FileEvent) : Prop :=
  Attains (Recording (Responds fails)) (fun _ => True) (Accounted fine waits world.2) attempt world

variable {fine : Value → Prop} {fineNext : Next → Prop} {waits : List FileEvent → Prop}
variable {world : Disk × List FileEvent}

theorem accounts_pure {value : Value} (hfine : fine value) :
    Accounts fails fine waits (pure value) world :=
  ⟨rfl, by rintro _ ⟨⟩; exact hfine, by rintro ⟨⟩⟩

theorem Accounts.bind {first : Talk Value} {next : Value → Talk Next}
    (hfirst : Accounts fails fine waits first world)
    (hnext : ∀ value after, fine value →
      Accounts fails fineNext waits (next value) after) :
    Accounts fails fineNext waits (first >>= next) world := by
  apply attains_bind.mpr
  apply hfirst.mono
  intro outcome after haccounted
  cases outcome with
  | ok value =>
      apply (hnext value after (haccounted.value value rfl)).mono
      intro last final hlast
      refine ⟨?_, hlast.value, hlast.waiting⟩
      rw [hlast.thrown, haccounted.thrown]
      rfl
  | error halt =>
      refine ⟨?_, by rintro _ ⟨⟩, ?_⟩
      · rw [haccounted.thrown]
        cases halt <;> rfl
      · intro hwaiting
        cases hwaiting
        exact haccounted.waiting rfl

/-- What is accounted for behind an exchange that is not thrown on. -/
theorem Accounts.behind {attempt : Talk Value} {history : List FileEvent} {event : FileEvent}
    {disk : Disk} (haccounts : Accounts fails fine waits attempt (disk, event :: history))
    (hquiet : thrownAt event = none) :
    Attains (Recording (Responds fails)) (fun _ => True) (Accounted fine waits history) attempt
      (disk, event :: history) := by
  apply Ensures.mono haccounts
  intro outcome after haccounted
  refine ⟨?_, haccounted.value, haccounted.waiting⟩
  rw [haccounted.thrown, thrownIn, List.filterMap_cons_none hquiet, thrownIn]

/-- A question that is never thrown on. -/
theorem accounts_ask {question : FileAsk} {next : FileAnswer question → Talk Next}
    (hquiet : ∀ answer, thrownAt ⟨question, answer⟩ = none)
    (hnext : ∀ answer after, Accounts fails fineNext waits (next answer)
      (after, ⟨question, answer⟩ :: world.2)) :
    Accounts fails fineNext waits (ask question >>= next) world := by
  apply attains_request_bind.mpr
  refine ⟨trivial, fun answer after hanswer => ?_⟩
  obtain ⟨disk, history⟩ := after
  obtain ⟨-, rfl⟩ := hanswer
  exact (hnext answer disk).behind (hquiet answer)

theorem Accounts.mono {weaker : List FileEvent → Prop} {attempt : Talk Value}
    (haccounts : Accounts fails fine waits attempt world)
    (hweaker : ∀ history, waits history → weaker history) :
    Accounts fails fine weaker attempt world := by
  apply Ensures.mono haccounts
  intro outcome after haccounted
  exact ⟨haccounted.thrown, haccounted.value,
    fun hwaiting => hweaker after.2 (haccounted.waiting hwaiting)⟩

/-- The error of an answer. -/
def errorOf : FsAnswer Value → Option FsError
  | .ok _ => none
  | .error error => some error

/-- An operation whose error is thrown on. -/
theorem accounts_orThrow (question : FileAsk) (settle : FileAnswer question → FsAnswer Value)
    {next : Value → Talk Next}
    (hthrown : ∀ answer, thrownAt ⟨question, answer⟩ = errorOf (settle answer))
    (hnext : ∀ answer value after, settle answer = .ok value →
      Accounts fails fineNext waits (next value) (after, ⟨question, answer⟩ :: world.2)) :
    Accounts fails fineNext waits
      (ask question >>= fun answer => orThrow (settle answer) >>= next) world := by
  apply attains_request_bind.mpr
  refine ⟨trivial, fun answer after hanswer => ?_⟩
  obtain ⟨disk, history⟩ := after
  obtain ⟨-, rfl⟩ := hanswer
  have hevent := hthrown answer
  cases hsettle : settle answer with
  | ok value =>
      rw [hsettle] at hevent
      exact (hnext answer value disk hsettle).behind hevent
  | error error =>
      rw [hsettle] at hevent
      refine ⟨?_, by rintro _ ⟨⟩, by rintro ⟨⟩⟩
      exact List.filterMap_cons_some hevent

/-! ## The parts of a run -/

theorem instantOf_accounts (given : Option JsString) {next : JsString → Talk Next}
    (hnext : ∀ now after, Accounts fails fineNext waits (next now) after) :
    Accounts fails fineNext waits (instantOf runtime given >>= next) world := by
  cases given with
  | some given => exact hnext given world
  | none => exact accounts_ask (fun _ => rfl) fun _ _ => hnext _ _

/-- A sleep only adds to what is remembered. -/
theorem sleepSync_accounts (ms : JsNumber) {next : Unit → Talk Next}
    (hnext : ∀ after : Disk × List FileEvent, world.2 <:+ after.2 →
      Accounts fails fineNext waits (next ()) after) :
    Accounts fails fineNext waits (sleepSync ms >>= next) world := by
  rw [sleepSync]
  split
  · exact hnext world List.suffix_rfl
  · exact accounts_ask (fun _ => rfl) fun _ _ => hnext _ (List.suffix_cons _ _)

/-- An attempt at the lock: it is taken, it is held, or the attempt throws. -/
theorem makeLock_accounts {next : FileAnswer .makeLock → Talk Next}
    (hok : ∀ after, Accounts fails fineNext waits (next (.ok ()))
      (after, ⟨.makeLock, .ok ()⟩ :: world.2))
    (hheld : ∀ error after, isEexists error = true →
      Accounts fails fineNext waits (next (.error error))
        (after, ⟨.makeLock, .error error⟩ :: world.2))
    (hthrows : ∀ error, isEexists error = false →
      next (.error error) = throw (.threw error)) :
    Accounts fails fineNext waits (ask .makeLock >>= next) world := by
  apply attains_request_bind.mpr
  refine ⟨trivial, fun answer after hanswer => ?_⟩
  obtain ⟨disk, history⟩ := after
  obtain ⟨-, rfl⟩ := hanswer
  cases answer with
  | ok value => exact (hok disk).behind rfl
  | error error =>
      cases hexists : isEexists error with
      | true =>
          apply (hheld error disk hexists).behind
          rw [thrownAt, hexists]
          rfl
      | false =>
          rw [hthrows error hexists]
          refine ⟨?_, by rintro _ ⟨⟩, by rintro ⟨⟩⟩
          simp [thrownIn, thrownAt, thrownBy, hexists]

/-- The attempts of the fixed mode are each within the number that is allowed. -/
theorem fixedAttempts_accounts (maxAttempts retryMs : JsNumber) (fuel attempts : Nat)
    (world : Disk × List FileEvent) :
    Accounts fails (fun _ => True)
      (fun _ => ∀ attempt, attempts ≤ attempt → attempt < attempts + fuel →
        (JsNumber.ofNat attempt).lt maxAttempts = true)
      (fixedAttempts sleepSync maxAttempts retryMs fuel attempts) world := by
  induction fuel generalizing attempts world with
  | zero => exact ⟨rfl, by rintro _ ⟨⟩, fun _ attempt hfrom hto => absurd hto (by omega)⟩
  | succ fuel ih =>
      rw [fixedAttempts]
      split
      · rename_i hallowed
        have hagain : ∀ after, Accounts fails (fun _ => True)
            (fun _ => ∀ attempt, attempts ≤ attempt → attempt < attempts + (fuel + 1) →
              (JsNumber.ofNat attempt).lt maxAttempts = true)
            (fixedAttempts sleepSync maxAttempts retryMs fuel (attempts + 1)) after := by
          intro after
          apply (ih (attempts + 1) after).mono
          intro _ hlater attempt hfrom hto
          rcases Nat.eq_or_lt_of_le hfrom with rfl | hlt
          · exact hallowed
          · exact hlater attempt hlt (by omega)
        apply makeLock_accounts
        · exact fun _ => accounts_pure trivial
        · intro error disk hexists
          simp only [hexists, Bool.not_true, Bool.false_eq_true, if_false]
          split
          · exact sleepSync_accounts retryMs fun after _ => hagain after
          · exact hagain _
        · intro error hexists
          simp only [hexists, Bool.not_false, if_true]
      · exact accounts_pure trivial

/-- What was asked since the wait for the lock began holds this many readings within the
budget. -/
def WaitedSince (startedAt : Int) (budgetMs : JsNumber) (began : List FileEvent) (count : Nat)
    (history : List FileEvent) : Prop :=
  ∃ later, history = later ++ began ∧ count ≤ later.countP (isWithin startedAt budgetMs)

/-- The attempts of the backoff mode are each within the budget. -/
theorem backoffAttempts_accounts (startedAt : Int) (budgetMs : JsNumber)
    (began : List FileEvent) (fuel attempts delayMs count : Nat) (world : Disk × List FileEvent)
    (hcount : WaitedSince startedAt budgetMs began count world.2) :
    Accounts fails (fun _ => True) (WaitedSince startedAt budgetMs began (fuel + count))
      (backoffAttempts sleepSync startedAt budgetMs fuel attempts delayMs) world := by
  induction fuel generalizing attempts delayMs count world with
  | zero =>
      refine ⟨rfl, by rintro _ ⟨⟩, fun _ => ?_⟩
      rw [Nat.zero_add]
      exact hcount
  | succ fuel ih =>
      rw [backoffAttempts]
      apply makeLock_accounts
      · exact fun _ => accounts_pure trivial
      · intro error disk hexists
        simp only [hexists, Bool.not_true, Bool.false_eq_true, if_false]
        apply accounts_ask fun _ => rfl
        intro now disk
        split
        · exact accounts_pure trivial
        · rename_i hwithin
          apply accounts_ask fun _ => rfl
          intro random disk
          apply sleepSync_accounts
          rintro after ⟨slept, hslept⟩
          -- The reading of this attempt is one more within the budget.
          have hreading : isWithin startedAt budgetMs ⟨.now, now⟩ = true := by
            rw [isWithin]
            simpa using hwithin
          have hmore : WaitedSince startedAt budgetMs began (count + 1) after.2 := by
            obtain ⟨later, hlater, hall⟩ := hcount
            refine ⟨slept ++ ⟨.random, random⟩ :: ⟨.now, now⟩ :: ⟨.makeLock, .error error⟩ :: later,
              ?_, ?_⟩
            · rw [← hslept, hlater]
              simp only [List.append_assoc, List.cons_append]
            · rw [List.countP_append, List.countP_cons_of_neg (by simp [isWithin]),
                List.countP_cons_of_pos hreading, List.countP_cons_of_neg (by simp [isWithin])]
              exact Nat.le_add_left_of_le (Nat.succ_le_succ hall)
          have hagain := ih (attempts + 1) (min defaultLockBackoffMaxMs (delayMs * 2)) (count + 1)
            after hmore
          rw [show fuel + 1 + count = fuel + (count + 1) by omega]
          exact hagain
      · intro error hexists
        simp only [hexists, Bool.not_false, if_true]

/-- The wait for the lock that follows the making of the directory. -/
theorem acquireRegistryLock_accounts (options : RegistryLockOptions) (fuel : Nat)
    (disk : Disk) (earlier : List FileEvent) :
    Accounts fails (fun _ => True) (StillWaiting (lockPolicy options) fuel)
      (acquireRegistryLock options fuel) (disk, ⟨.makeDir, .ok ()⟩ :: earlier) := by
  have hfinish : ∀ (startedAt : Int) (attempts : Talk (Bool × Nat)) (world : Disk × List FileEvent),
      Accounts fails (fun _ => True) (StillWaiting (lockPolicy options) fuel) attempts world →
      Accounts fails (fun _ => True) (StillWaiting (lockPolicy options) fuel)
        (attempts >>= fun found => ask .now >>= fun now =>
          (pure { locked := found.1, attempts := found.2, elapsedMs := now - startedAt } :
            Talk RegistryLockAcquisition)) world := by
    intro startedAt attempts world hattempts
    apply hattempts.bind
    intro found after _
    exact accounts_ask (fun _ => rfl) fun _ _ => accounts_pure trivial
  apply accounts_ask fun _ => rfl
  intro startedAt disk
  dsimp only
  cases hpolicy : lockPolicy options with
  | fixed maxAttempts retryMs =>
      rw [hpolicy] at hfinish
      apply hfinish
      apply (fixedAttempts_accounts maxAttempts retryMs fuel 0 _).mono
      intro _ hwithin attempt hlt
      exact hwithin attempt (Nat.zero_le attempt) (by omega)
  | backoff budgetMs =>
      rw [hpolicy] at hfinish
      apply hfinish
      apply (backoffAttempts_accounts startedAt budgetMs _ fuel 0 defaultLockBackoffInitialMs 0 _
        ⟨[], rfl, Nat.zero_le _⟩).mono
      rintro history ⟨later, hlater, hwithin⟩
      exact ⟨startedAt, later, earlier, hlater, hwithin⟩

/-- The clean-up of a rewrite throws on what the rewrite threw. -/
theorem replaceLog_accounts (newText : JsString) (world : Disk × List FileEvent) :
    Accounts fails (fun _ => True) (fun _ => False) (replaceLog newText) world := by
  have hrewrite : Accounts fails (fun _ => True) (fun _ => False)
      (do
        orThrow (← ask (.writeTemp newText))
        orThrow (← ask .renameTemp) : Talk Unit) world := by
    apply accounts_orThrow (.writeTemp newText) (fun answer => answer)
    · rintro (_ | _) <;> rfl
    · intro written _ disk _
      apply attains_request_bind.mpr
      refine ⟨trivial, fun answer after hanswer => ?_⟩
      have hthrown := congrArg thrownIn hanswer.2
      cases answer with
      | ok value => exact ⟨hthrown.trans rfl, fun _ _ => trivial, by rintro ⟨⟩⟩
      | error error => exact ⟨hthrown.trans rfl, fun _ _ => trivial, by rintro ⟨⟩⟩
  apply ensures_bind.mpr
  apply Ensures.mono hrewrite
  intro outcome after haccounted
  cases outcome with
  | ok value => exact ⟨haccounted.thrown, fun _ _ => trivial, by rintro ⟨⟩⟩
  | error halt =>
      refine ⟨trivial, fun answer final hanswer => ?_⟩
      refine ⟨?_, by rintro _ ⟨⟩, ?_⟩
      · rw [hanswer.2, ← haccounted.thrown]
        rfl
      · intro hwaiting
        cases hwaiting
        exact haccounted.waiting rfl

/-- The removal of one's own lock succeeds, so a body ends as it would without it. -/
theorem tryFinally_accounts {body : Talk Value}
    (hbody : Accounts fails fine (fun _ => False) body world) :
    Accounts fails fine waits (tryFinally body (do orThrow (← ask .removeLock))) world := by
  apply ensures_bind.mpr
  apply Ensures.mono hbody
  intro outcome after haccounted
  have hremoved : ∀ next : Except Halt Unit → Program FileAsk FileAnswer (Except Halt Value),
      next (.ok ()) = .done outcome → outcome ≠ .error .waiting →
        Ensures (Recording (Responds fails)) (fun _ => True) (Accounted fine waits world.2)
          ((do orThrow (← ask .removeLock) : Talk Unit).run.bind next) after := by
    intro next hnext hends
    refine ⟨trivial, fun answer final hanswer => ?_⟩
    obtain ⟨⟨rfl, -⟩, hmemory⟩ := hanswer
    change Ensures _ _ _ (next (.ok ())) final
    rw [hnext]
    refine ⟨?_, haccounted.value, fun hwaiting => absurd hwaiting hends⟩
    rw [hmemory, ← haccounted.thrown]
    rfl
  cases outcome with
  | ok value => exact hremoved _ rfl (by rintro ⟨⟩)
  | error halt =>
      cases halt with
      | threw error => exact hremoved _ rfl (by rintro ⟨⟩)
      | waiting => exact (haccounted.waiting rfl).elim

/-! ## The whole run -/

/-- The named rejections that a compaction ends with. -/
inductive Refuses (runtime : Runtime) (scope : JsString) (policy : TtlPolicy) :
    List EventRejection → Prop
  | scope (hrefused : isSafeRegistryScope scope = false) :
      Refuses runtime scope policy [unsafeCompactScope scope]
  | now (now : JsString) (hnow : runtime.dateParse now = none) :
      Refuses runtime scope policy [invalidNow now]
  | ttl (hpolicy : validateTtlPolicy runtime policy ≠ []) :
      Refuses runtime scope policy (validateTtlPolicy runtime policy)
  | lock (lockDir : JsString) (acquisition : RegistryLockAcquisition)
      (hunlocked : acquisition.locked = false) :
      Refuses runtime scope policy [compactLockUnavailable runtime lockDir acquisition]
  | plan (text now : JsString) (nowMs : Int) (rejections : List EventRejection)
      (hscope : isSafeRegistryScope scope = true) (hnow : runtime.dateParse now = some nowMs)
      (hplan : planCompaction runtime scope text now nowMs policy = .error rejections) :
      Refuses runtime scope policy rejections

/-- A result that is a report or is refused by name. -/
def IsNamed (runtime : Runtime) (scope : JsString) (policy : TtlPolicy)
    (judged : Judged RegistryCompactionReport) : Prop :=
  ∀ rejections, judged = .error rejections → Refuses runtime scope policy rejections

theorem isNamed_report (report : RegistryCompactionReport) :
    IsNamed runtime scope policy (.ok report) := by
  rintro _ ⟨⟩

theorem isNamed_refused {rejections : List EventRejection}
    (hrefuses : Refuses runtime scope policy rejections) :
    IsNamed runtime scope policy (.error rejections) := by
  rintro _ ⟨⟩
  exact hrefuses

section Planning

variable (hscope : isSafeRegistryScope scope = true) (hnow : runtime.dateParse now = some nowMs)
include hscope hnow

theorem compactLocked_accounts (world : Disk × List FileEvent) :
    Accounts fails (IsNamed runtime scope policy) (fun _ => False)
      (compactLocked runtime scope path now nowMs policy) world := by
  apply accounts_ask fun _ => rfl
  intro exist disk
  split
  · exact accounts_pure (isNamed_report _)
  · apply accounts_orThrow .readLog (fun answer => answer)
    · rintro (_ | _) <;> rfl
    · intro read text disk _
      cases hplan : planCompaction runtime scope text now nowMs policy with
      | error rejections =>
          exact accounts_pure (isNamed_refused (.plan text now nowMs rejections hscope hnow hplan))
      | ok plan =>
          simp only
          cases plan.newText with
          | none => exact accounts_pure (isNamed_report _)
          | some newText =>
              apply (replaceLog_accounts newText _).bind
              exact fun _ _ _ => accounts_pure (isNamed_report _)

theorem compactDry_accounts (world : Disk × List FileEvent) :
    Accounts fails (IsNamed runtime scope policy) (fun _ => False)
      (compactDry runtime scope path now nowMs policy) world := by
  apply accounts_ask fun _ => rfl
  intro exist disk
  split
  · exact accounts_pure (isNamed_report _)
  · apply accounts_orThrow .readLog (fun answer => answer)
    · rintro (_ | _) <;> rfl
    · intro read text disk _
      cases hplan : planCompaction runtime scope text now nowMs policy with
      | error rejections =>
          exact accounts_pure (isNamed_refused (.plan text now nowMs rejections hscope hnow hplan))
      | ok plan => exact accounts_pure (isNamed_report _)

end Planning

theorem compactRegistryEvents_accounts (options : CompactRegistryEventsOptions) (fuel : Nat)
    (world : Disk × List FileEvent) :
    Accounts fails (IsNamed runtime scope options.policy)
      (StillWaiting (lockPolicy options.toRegistryLockOptions) fuel)
      (compactRegistryEvents runtime scope options fuel) world := by
  rw [compactRegistryEvents]
  cases hscope : isSafeRegistryScope scope with
  | false => exact accounts_pure (isNamed_refused (.scope hscope))
  | true =>
      apply instantOf_accounts
      intro now world
      cases hnow : runtime.dateParse now with
      | none => exact accounts_pure (isNamed_refused (.now now hnow))
      | some nowMs =>
          cases hpolicy : validateTtlPolicy runtime options.policy with
          | cons rejection rejections =>
              apply accounts_pure
              apply isNamed_refused
              rw [← hpolicy]
              apply Refuses.ttl
              rw [hpolicy]
              exact List.cons_ne_nil rejection rejections
          | nil =>
              simp only
              split
              · exact (compactDry_accounts hscope hnow world).mono fun _ => False.elim
              · apply accounts_orThrow .makeDir (fun answer => answer)
                · rintro (_ | _) <;> rfl
                · rintro made _ disk rfl
                  apply (acquireRegistryLock_accounts _ fuel disk world.2).bind
                  intro acquisition after _
                  cases hlocked : acquisition.locked with
                  | false => exact accounts_pure (isNamed_refused (.lock _ acquisition hlocked))
                  | true => exact tryFinally_accounts (compactLocked_accounts hscope hnow after)

theorem collect_error_ne_nil {read : Nat → JsString → Judged Value}
    (hread : ∀ {lineNo line rejections}, read lineNo line = .error rejections → rejections ≠ [])
    {lineNo : Nat} {lines : List JsString} {rejections : List EventRejection}
    (hcollect : collect read lineNo lines = .error rejections) : rejections ≠ [] := by
  induction lines generalizing lineNo rejections with
  | nil => cases hcollect
  | cons line rest ih =>
      rw [collect] at hcollect
      cases hline : read lineNo line with
      | ok value =>
          cases hrest : collect read (lineNo + 1) rest with
          | ok values =>
              rw [hline, hrest] at hcollect
              cases hcollect
          | error others =>
              rw [hline, hrest] at hcollect
              cases hcollect
              exact ih hrest
      | error first =>
          cases hrest : collect read (lineNo + 1) rest with
          | ok values =>
              rw [hline, hrest] at hcollect
              cases hcollect
              exact hread hline
          | error others =>
              rw [hline, hrest] at hcollect
              cases hcollect
              exact List.append_ne_nil_of_left_ne_nil (hread hline) others

theorem validateGovdispEvent_error_ne_nil {value : JsValue} {rejections : List EventRejection}
    (hinvalid : validateGovdispEvent runtime value = .error rejections) : rejections ≠ [] := by
  rw [validateGovdispEvent] at hinvalid
  split at hinvalid
  · cases hinvalid
    exact List.cons_ne_nil _ _
  · split at hinvalid
    · cases hinvalid
    · cases hinvalid
      exact List.cons_ne_nil _ _

theorem parseRegistryLine_error_ne_nil {lineNo : Nat} {line : JsString}
    {rejections : List EventRejection}
    (hline : parseRegistryLine runtime lineNo line = .error rejections) : rejections ≠ [] := by
  rw [parseRegistryLine] at hline
  split at hline
  · cases hline
    exact List.cons_ne_nil _ _
  · split at hline
    · rename_i hinvalid
      cases hline
      exact mt List.map_eq_nil_iff.mp (validateGovdispEvent_error_ne_nil hinvalid)
    · split at hline
      · cases hline
        exact List.cons_ne_nil _ _
      · cases hline

/-- A plan is rejected for something. -/
theorem planCompaction_error_ne_nil {text : JsString} {rejections : List EventRejection}
    (hscope : isSafeRegistryScope scope = true) (hnow : runtime.dateParse now = some nowMs)
    (hplan : planCompaction runtime scope text now nowMs policy = .error rejections) :
    rejections ≠ [] := by
  cases hcollect : collect (parseRegistryLine runtime) 1 (splitLogLines text) with
  | ok parsed =>
      obtain ⟨plan, hok, -⟩ := @planCompaction_ok runtime scope text now nowMs policy parsed
        (parseLines_ok_iff.mp hcollect) hscope hnow
      rw [hplan] at hok
      cases hok
  | error found =>
      rw [planCompaction, hcollect] at hplan
      cases hplan
      exact collect_error_ne_nil parseRegistryLine_error_ne_nil hcollect

theorem Refuses.ne_nil {rejections : List EventRejection}
    (hrefuses : Refuses runtime scope policy rejections) : rejections ≠ [] := by
  cases hrefuses with
  | scope hrefused => exact List.cons_ne_nil _ _
  | now now hnow => exact List.cons_ne_nil _ _
  | ttl hpolicy => exact hpolicy
  | lock lockDir acquisition hunlocked => exact List.cons_ne_nil _ _
  | plan text now nowMs rejections hscope hnow hplan =>
      exact planCompaction_error_ne_nil hscope hnow hplan

/-- How a compaction without a report ends: with named rejections, with the error of the one
operation that threw, or, not ended yet, in the wait for the lock. -/
inductive FailsWith (runtime : Runtime) (scope : JsString)
    (options : CompactRegistryEventsOptions) (fuel : Nat) (history : List FileEvent) :
    Except Halt (Judged RegistryCompactionReport) → Prop
  | refused {rejections : List EventRejection}
      (hnamed : Refuses runtime scope options.policy rejections) (hne : rejections ≠ [])
      (hnone : thrownIn history = []) :
      FailsWith runtime scope options fuel history (.ok (.error rejections))
  | threw {error : FsError} (horiginal : thrownIn history = [error]) :
      FailsWith runtime scope options fuel history (.error (.threw error))
  | waiting
      (hwaits : StillWaiting (lockPolicy options.toRegistryLockOptions) fuel history)
      (hnone : thrownIn history = []) :
      FailsWith runtime scope options fuel history (.error .waiting)

/-- A compaction that reports nothing leaves the log as it was, ends with a named rejection
or with the error that an operation threw, and leaves the lock free exactly where it had
taken it or it was free before. -/
theorem compactRegistryEvents_failure {options : CompactRegistryEventsOptions} {fuel : Nat}
    {before after : Disk} {history : List FileEvent}
    {outcome : Except Halt (Judged RegistryCompactionReport)}
    (hplays : Plays (Recording (Responds fails))
      (compactRegistryEvents runtime scope options fuel).run (before, []) outcome (after, history))
    (hfailed : ∀ report, outcome ≠ .ok (.ok report)) :
    after.shared.log = before.shared.log ∧
    (after.locked = false ↔ (diskRules fails).HasTaken history ∨ before.locked = false) ∧
    FailsWith runtime scope options fuel history outcome := by
  have happroaches := @compactRegistryEvents_approaches fails runtime scope fuel options
  have hclosed := (happroaches.ensures before).sound hplays.forget
  have htaken := happroaches.free_of_hasTaken hplays
  obtain ⟨hthrown, hvalue, hwaiting⟩ := Ensures.sound
    (compactRegistryEvents_accounts options fuel (before, [])) hplays
  refine ⟨?_, ?_, ?_⟩
  · rcases hclosed.2 with ⟨-, hsame⟩ | ⟨path, now, nowMs, -, -, -, heffect⟩
    · exact congrArg Files.log hsame
    · dsimp only at heffect
      generalize after.shared = files at heffect
      cases heffect with
      | rewrote hplan hnew => exact absurd rfl (hfailed _)
      | kept hplan hnew => exact absurd rfl (hfailed _)
      | refused rejections => rfl
      | halted halt temp => rfl
  · rw [hclosed.1]
    constructor
    · exact .inr
    · rintro (hhas | hfree)
      · rcases htaken hhas with ⟨_, ⟨⟩, _⟩ | hfree
        exact hfree
      · exact hfree
  · cases outcome with
    | ok judged =>
        cases judged with
        | ok report => exact absurd rfl (hfailed report)
        | error rejections =>
            have hnamed := hvalue _ rfl rejections rfl
            exact .refused hnamed hnamed.ne_nil hthrown
    | error halt =>
        cases halt with
        | threw error => exact .threw hthrown
        | waiting => exact .waiting (hwaiting rfl) hthrown

/-! ### A temporary file that cannot be written -/

/-- The disk can neither write the temporary file nor remove it. -/
def Spoilt : FileAsk → Prop
  | .writeTemp _ => True
  | .removeTemp => True
  | _ => False

def spoiltError : FsError where
  code := js "EIO"

/-- The three attempts beside a temporary file that was opened and got no text. -/
def spoiltDisk : Disk where
  locked := false
  shared := { threeAttemptsDisk.shared with temp := some [] }

/-- A compaction that finds the lock free, makes a plan and can neither write the new log nor
remove what it wrote of it. -/
theorem compact_spoilt {options : CompactRegistryEventsOptions} {disk : Disk}
    {text newText : JsString} {plan : CompactionPlan} {error : FsError}
    (hscope : isSafeRegistryScope scope = true) (hinstant : options.now = some now)
    (hnow : runtime.dateParse now = some nowMs)
    (hpolicy : validateTtlPolicy runtime options.policy = []) (hreal : options.dryRun = false)
    (hwaits : options.maxLockAttempts = none ∧ options.lockRetryMs = none)
    (hfree : disk.locked = false) (hlog : disk.shared.log = some text)
    (hplan : planCompaction runtime scope text now nowMs options.policy = .ok plan)
    (hnew : plan.newText = some newText) (written : Option JsString) :
    Plays (Responds Spoilt) (compactRegistryEvents runtime scope options 1).run disk
      (.error (.threw error)) { disk with shared := { disk.shared with temp := written } } := by
  have hdisk : disk = { locked := false, shared := disk.shared } := by
    cases disk
    cases hfree
    rfl
  rw [compactRegistryEvents]
  simp only [hscope, hinstant, instantOf, talk_pure_bind, hnow, hpolicy, hreal, Bool.not_true,
    Bool.false_eq_true, if_false]
  refine .ask (.ok ()) ⟨rfl, .inl rfl⟩ ?_
  refine .ask (0 : Int) rfl ?_
  simp only [lockPolicy, hwaits.1, hwaits.2, Option.isSome_none, Bool.or_self, Bool.false_eq_true,
    if_false]
  refine .ask (.ok ()) (.inl ⟨rfl, hfree, rfl⟩) ?_
  refine .ask (0 : Int) rfl ?_
  refine .ask true ⟨rfl, by rw [hlog]; rfl⟩ ?_
  refine .ask (.ok text) ⟨rfl, .inl ⟨text, hlog, rfl⟩⟩ ?_
  simp only [Program.bind, Function.comp_apply, ExceptT.bindCont, orThrow_ok_bind, hplan, hnew]
  refine .ask (.error error) (.inr ⟨error, written, rfl, trivial, rfl⟩) ?_
  refine .ask (.error error) (.inr ⟨error, rfl, rfl, trivial⟩) ?_
  refine .ask (.ok ()) ⟨rfl, rfl⟩ ?_
  rw [hdisk]
  exact .done _ _

/-- The compaction of March on such a disk. -/
theorem march_spoilt : Plays (Responds Spoilt)
    (compactRegistryEvents marchRuntime (js "wave") marchOptions 1).run threeAttemptsDisk
    (.error (.threw spoiltError)) spoiltDisk := by
  obtain ⟨plan, hplan, -, hnew⟩ := @march_plan marchRuntime rfl 2
  exact compact_spoilt (by decide) rfl march_date rfl rfl ⟨rfl, rfl⟩ rfl rfl hplan hnew (some [])

theorem compactRegistryEvents_failure_march : spoiltDisk ≠ threeAttemptsDisk ∧ ∃ history,
    spoiltDisk.shared.log = threeAttemptsDisk.shared.log ∧
    (spoiltDisk.locked = false ↔
      (diskRules Spoilt).HasTaken history ∨ threeAttemptsDisk.locked = false) ∧
    FailsWith marchRuntime (js "wave") marchOptions 1 history (.error (.threw spoiltError)) := by
  constructor
  · intro hsame
    exact absurd (congrArg (fun disk => disk.shared.temp) hsame) (Option.some_ne_none [])
  · obtain ⟨history, hplays⟩ := march_spoilt.remember []
    exact ⟨history, compactRegistryEvents_failure hplays (by rintro _ ⟨⟩)⟩

end OdinSentinel.Registry
