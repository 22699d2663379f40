import OdinSentinel.Registry.Disk

/-!
# Calls under the lock

An append and a compaction as critical sections of the disk: before they hold the
lock they write nothing, and what they leave behind is told by their result.
-/

namespace OdinSentinel.Registry

open JsText Dialogue

variable {fails : FileAsk → Prop} {Value Next : Type}

theorem run_ask_bind (question : FileAsk) (next : FileAnswer question → Talk Next) :
    (ask question >>= next).run = .ask question fun answer => (next answer).run := rfl

theorem run_bind (first : Talk Value) (next : Value → Talk Next) :
    (first >>= next).run = first.run >>= ExceptT.bindCont next := rfl

theorem talk_pure_bind (value : Value) (next : Value → Talk Next) :
    pure value >>= next = next value := rfl

theorem orThrow_ok_bind (value : Value) (next : Value → Talk Next) :
    orThrow (.ok value) >>= next = next value := rfl

/-- A question that neither moves the lock nor writes. -/
def isPassive : FileAsk → Bool
  | .makeLock => false
  | .removeLock => false
  | question => !isWrite question

theorem stays_of_passive {question : FileAsk} (hpassive : isPassive question = true) :
    (diskRules fails).Stays question := by
  constructor
  · rintro rfl
    cases hpassive
  · intro answer
    cases question with
    | makeLock => cases hpassive
    | _ => rfl

theorem unwriting_of_passive {question : FileAsk} (hpassive : isPassive question = true) :
    ¬(diskRules fails).writes question := by
  intro hwrites
  cases question with
  | appendLog => cases hpassive
  | writeTemp => cases hpassive
  | renameTemp => cases hpassive
  | removeTemp => cases hpassive
  | _ => cases hwrites

/-- A call that stopped did so at an error, not while it was waiting. -/
def Returns (outcome : Except Halt Value) : Prop := outcome ≠ .error .waiting

theorem quiet_ask {question : FileAsk} (hpassive : isPassive question = true) :
    (diskRules fails).Quiet Returns (ask question : Talk (FileAnswer question)).run :=
  ⟨stays_of_passive hpassive, unwriting_of_passive hpassive, fun _ => (by rintro ⟨⟩)⟩

theorem quiet_orThrow (answer : FsAnswer Value) :
    (diskRules fails).Quiet Returns (orThrow answer).run := by
  cases answer with
  | ok value => rintro ⟨⟩
  | error error => rintro ⟨⟩

theorem quiet_bind {post : Except Halt Value → Prop} {final : Except Halt Next → Prop}
    {first : Talk Value} {next : Value → Talk Next}
    (hfirst : (diskRules fails).Quiet post first.run)
    (hnext : ∀ value, post (.ok value) → (diskRules fails).Quiet final (next value).run)
    (hstop : ∀ halt, post (.error halt) → final (.error halt)) :
    (diskRules fails).Quiet final (first >>= next).run := by
  rw [run_bind]
  apply hfirst.bind
  intro outcome hpost
  cases outcome with
  | ok value => exact hnext value hpost
  | error halt => exact hstop halt hpost

theorem returns_error {halt : Halt} (hreturns : Returns (.error halt : Except Halt Value)) :
    Returns (.error halt : Except Halt Next) := by
  rintro ⟨⟩
  exact hreturns rfl

/-- The check for links asks and answers. -/
theorem quiet_symlink (dir path eventClass : JsString) :
    (diskRules fails).Quiet Returns (registrySymlinkRejection dir path eventClass).run := by
  apply quiet_bind (quiet_ask rfl) _ fun _ => returns_error
  intro answer _
  apply quiet_bind (quiet_orThrow answer) _ fun _ => returns_error
  intro found _
  cases found with
  | none => rintro ⟨⟩
  | some link => rintro ⟨⟩

theorem acquires_of_quiet {inside : Disk → Except Halt Next → Disk → Prop}
    {outside : Except Halt Next → Prop} {post : Except Halt Value → Prop} {first : Talk Value}
    {next : Value → Talk Next} (hfirst : (diskRules fails).Quiet post first.run)
    (hnext : ∀ value, (diskRules fails).Acquires inside outside (next value).run)
    (hstop : ∀ halt, outside (.error halt)) :
    (diskRules fails).Acquires inside outside (first >>= next).run := by
  rw [run_bind]
  apply hfirst.acquires
  intro outcome _
  cases outcome with
  | ok value => exact hnext value
  | error halt => exact hstop halt

/-! ## Taking the lock -/

/-- The lock was taken, as the result says. -/
def Took (locked : Value → Bool) (before : Disk) (outcome : Except Halt Value) (after : Disk) :
    Prop :=
  ∃ value, outcome = .ok value ∧ locked value = true ∧ after = { before with locked := true }

/-- The lock was not taken, as the result says. -/
def Missed (locked : Value → Bool) (outcome : Except Halt Value) : Prop :=
  ∀ value, outcome = .ok value → locked value = false

theorem missed_error {locked : Value → Bool} (halt : Halt) : Missed locked (.error halt) := by
  rintro _ ⟨⟩

/-- One attempt at the lock, and what follows where it fails. -/
theorem attempt_acquires {locked : Value → Bool} {next : FileAnswer .makeLock → Talk Value}
    (hok : ∃ taken, next (.ok ()) = pure taken ∧ locked taken = true)
    (herror : ∀ error, (diskRules fails).Acquires (Took locked) (Missed locked)
      (next (.error error)).run) :
    (diskRules fails).Acquires (Took locked) (Missed locked) (ask .makeLock >>= next).run := by
  rw [run_ask_bind]
  refine ⟨(by rintro ⟨⟩), (by rintro ⟨⟩), fun answer => ⟨?_, ?_⟩⟩
  · intro htakes before after hanswer
    rcases hanswer with ⟨rfl, -, rfl⟩ | ⟨error, rfl, -⟩
    · obtain ⟨taken, hnext, htaken⟩ := hok
      simp only [hnext]
      exact ⟨taken, rfl, htaken, rfl⟩
    · cases htakes
  · intro hmissed
    cases answer with
    | ok value => cases hmissed
    | error error => exact herror error

variable {sleep : JsNumber → Talk Unit}

theorem fixedAttempts_acquires
    (hsleep : ∀ ms, (diskRules fails).Quiet Returns (sleep ms).run)
    (maxAttempts retryMs : JsNumber) (fuel attempts : Nat) :
    (diskRules fails).Acquires (Took Prod.fst) (Missed Prod.fst)
      (fixedAttempts sleep maxAttempts retryMs fuel attempts).run := by
  induction fuel generalizing attempts with
  | zero => exact missed_error .waiting
  | succ fuel ih =>
      rw [fixedAttempts]
      split
      · refine attempt_acquires ⟨(true, attempts + 1), rfl, rfl⟩ fun error => ?_
        cases hexists : isEexists error with
        | false =>
            simp only [hexists]
            exact missed_error (.threw error)
        | true =>
            simp only [hexists]
            change (diskRules fails).Acquires _ _ (ite _ (sleep retryMs >>= _) _ : Talk _).run
            split
            · exact acquires_of_quiet (hsleep retryMs) (fun _ => ih (attempts + 1)) missed_error
            · exact ih (attempts + 1)
      · rintro _ ⟨⟩
        rfl

theorem backoffAttempts_acquires
    (hsleep : ∀ ms, (diskRules fails).Quiet Returns (sleep ms).run)
    (startedAt : Int) (budgetMs : JsNumber) (fuel attempts delayMs : Nat) :
    (diskRules fails).Acquires (Took Prod.fst) (Missed Prod.fst)
      (backoffAttempts sleep startedAt budgetMs fuel attempts delayMs).run := by
  induction fuel generalizing attempts delayMs with
  | zero => exact missed_error .waiting
  | succ fuel ih =>
      rw [backoffAttempts]
      refine attempt_acquires ⟨(true, attempts + 1), rfl, rfl⟩ fun error => ?_
      cases hexists : isEexists error with
      | false =>
          simp only [hexists]
          exact missed_error (.threw error)
      | true =>
          simp only [hexists]
          apply acquires_of_quiet (quiet_ask (show isPassive .now = true from rfl)) _ missed_error
          intro now
          split
          · rintro _ ⟨⟩
            rfl
          · apply acquires_of_quiet (quiet_ask (show isPassive .random = true from rfl)) _
              missed_error
            intro random
            exact acquires_of_quiet (hsleep _) (fun _ => ih _ _) missed_error

/-- An acquisition tells truly whether it has the lock. -/
theorem acquireRegistryLockBy_acquires
    (hsleep : ∀ ms, (diskRules fails).Quiet Returns (sleep ms).run)
    (options : RegistryLockOptions) (fuel : Nat) :
    (diskRules fails).Acquires (Took RegistryLockAcquisition.locked)
      (Missed RegistryLockAcquisition.locked) (acquireRegistryLockBy sleep options fuel).run := by
  apply acquires_of_quiet (quiet_ask rfl) _ missed_error
  intro startedAt
  have hfinish : ∀ attempts : Talk (Bool × Nat),
      (diskRules fails).Acquires (Took Prod.fst) (Missed Prod.fst) attempts.run →
      (diskRules fails).Acquires (Took RegistryLockAcquisition.locked)
        (Missed RegistryLockAcquisition.locked)
        (attempts >>= fun found => ask .now >>= fun now =>
          (pure { locked := found.1, attempts := found.2, elapsedMs := now - startedAt } :
            Talk RegistryLockAcquisition)).run := by
    intro attempts hattempts
    rw [run_bind]
    apply hattempts.bind
    · rintro before _ after ⟨found, rfl, hlocked, rfl⟩
      refine ⟨stays_of_passive rfl, fun now after hanswer => ?_⟩
      obtain rfl := hanswer
      exact ⟨_, rfl, hlocked, rfl⟩
    · intro outcome hmissed
      cases outcome with
      | error halt => exact missed_error halt
      | ok found =>
          refine ⟨(by rintro ⟨⟩), (by rintro ⟨⟩), fun now => ⟨(by rintro ⟨⟩), fun _ => ?_⟩⟩
          rintro _ ⟨⟩
          exact hmissed found rfl
  dsimp only
  split
  · exact hfinish _ (fixedAttempts_acquires hsleep _ _ _ _)
  · exact hfinish _ (backoffAttempts_acquires hsleep _ _ _ _ _)

theorem sleepSync_quiet (ms : JsNumber) : (diskRules fails).Quiet Returns (sleepSync ms).run := by
  unfold sleepSync
  split
  · rintro ⟨⟩
  · exact quiet_ask rfl

theorem sleepAsync_quiet (ms : JsNumber) :
    (diskRules fails).Quiet Returns (sleepAsync ms).run := by
  unfold sleepAsync
  split
  · rintro ⟨⟩
  · exact quiet_ask rfl

/-! ## Sections -/

/-- `finally` frees the lock behind a body that ends. -/
theorem settles_tryFinally {post : Except Halt Value → Files → Prop} {body : Talk Value}
    {disk : Disk}
    (hbody : Ensures (Responds fails) (diskRules fails).Stays
      (fun outcome after => Returns outcome ∧ post outcome after.shared) body.run disk) :
    (diskRules fails).Settles post
      (tryFinally body (do orThrow (← ask .removeLock))).run disk := by
  apply LockRules.settles_bind
  refine hbody.mono fun outcome after hafter => ?_
  have hfrees : ∀ next : Except Halt Unit → Program FileAsk FileAnswer (Except Halt Value),
      next (.ok ()) = .done outcome →
        (diskRules fails).Settles post
          ((do orThrow (← ask .removeLock) : Talk Unit).run.bind next) after := by
    refine fun next hnext => .inl ⟨rfl, fun answer final hanswer => ?_⟩
    obtain ⟨rfl, rfl⟩ := hanswer
    exact ⟨outcome, hnext, hafter.2⟩
  cases outcome with
  | ok value => exact hfrees _ rfl
  | error halt =>
      cases halt with
      | threw error => exact hfrees _ rfl
      | waiting => exact absurd rfl hafter.1

/-- What follows where the lock was taken, and where it was not. -/
theorem approaches_of_acquires {span : Files → Except Halt Next → Files → Prop}
    {idle : Except Halt Next → Prop} {acquire : Talk RegistryLockAcquisition}
    {next : RegistryLockAcquisition → Talk Next}
    (hacquire : (diskRules fails).Acquires (Took RegistryLockAcquisition.locked)
      (Missed RegistryLockAcquisition.locked) acquire.run)
    (hlocked : ∀ acquisition (before : Disk), acquisition.locked = true →
      (diskRules fails).Settles (span before.shared) (next acquisition).run
        { before with locked := true })
    (hmissed : ∀ acquisition, acquisition.locked = false →
      (diskRules fails).Approaches span idle (next acquisition).run)
    (hstop : ∀ halt, idle (.error halt)) :
    (diskRules fails).Approaches span idle (acquire >>= next).run := by
  rw [run_bind]
  apply hacquire.approaches
  · rintro before _ after ⟨acquisition, rfl, htaken, rfl⟩
    exact hlocked acquisition before htaken
  · intro outcome houtcome
    cases outcome with
    | ok acquisition => exact hmissed acquisition (houtcome acquisition rfl)
    | error halt => exact hstop halt

theorem approaches_of_quiet {span : Files → Except Halt Next → Files → Prop}
    {idle : Except Halt Next → Prop} {post : Except Halt Value → Prop} {first : Talk Value}
    {next : Value → Talk Next} (hfirst : (diskRules fails).Quiet post first.run)
    (hnext : ∀ value, (diskRules fails).Approaches span idle (next value).run)
    (hstop : ∀ halt, idle (.error halt)) :
    (diskRules fails).Approaches span idle (first >>= next).run := by
  rw [run_bind]
  apply hfirst.approaches
  intro outcome _
  cases outcome with
  | ok value => exact hnext value
  | error halt => exact hstop halt

/-! ## Appending -/

/-- What an append does to the files: its line behind the log where it reports success,
nothing where it does not. -/
inductive AppendEffect (prepared : PreparedAppend) (before : Files) :
    Except Halt (Judged Appended) → Files → Prop
  | appended : AppendEffect prepared before
      (.ok (.ok { path := prepared.path, event := prepared.event }))
      (before.append prepared.line)
  | refused (rejections : List EventRejection) :
      AppendEffect prepared before (.ok (.error rejections)) before
  | halted (halt : Halt) : AppendEffect prepared before (.error halt) before

/-- No success reported. -/
def Unreported (outcome : Except Halt (Judged Value)) : Prop :=
  ∀ value, outcome ≠ .ok (.ok value)

theorem unreported_error (halt : Halt) : Unreported (.error halt : Except Halt (Judged Value)) := by
  rintro _ ⟨⟩

theorem unreported_refused (rejections : List EventRejection) :
    Unreported (.ok (.error rejections) : Except Halt (Judged Value)) := by
  rintro _ ⟨⟩

/-- The write of an append under the lock. -/
theorem appendBody_effect {prepared : PreparedAppend} {eventClass : JsString}
    {next : Option EventRejection → Talk (Judged Appended)}
    (hraced : ∀ raced, next (some raced) = pure (.error [raced]))
    (hclear : next none = do
      orThrow (← ask (.appendLog prepared.line))
      pure (.ok { path := prepared.path, event := prepared.event }))
    (disk : Disk) :
    Ensures (Responds fails) (diskRules fails).Stays
      (fun outcome after => Returns outcome ∧ AppendEffect prepared disk.shared outcome after.shared)
      (registrySymlinkRejection prepared.dir prepared.path eventClass >>= next).run disk := by
  rw [run_bind, ensures_bind]
  apply ((quiet_symlink prepared.dir prepared.path eventClass).ensures disk).mono
  rintro outcome after ⟨hreturns, rfl⟩
  cases outcome with
  | error halt => exact ⟨returns_error hreturns, .halted halt⟩
  | ok raced =>
      cases raced with
      | some raced =>
          change Ensures _ _ _ (next (some raced)).run after
          rw [hraced]
          exact ⟨(by rintro ⟨⟩), .refused [raced]⟩
      | none =>
          change Ensures _ _ _ (next none).run after
          rw [hclear]
          refine ⟨⟨(by rintro ⟨⟩), fun _ => rfl⟩, fun answer final hanswer => ?_⟩
          rcases hanswer with ⟨rfl, rfl⟩ | ⟨error, rfl, rfl, -⟩
          · exact ⟨(by rintro ⟨⟩), .appended⟩
          · exact ⟨(by rintro ⟨⟩), .halted (.threw error)⟩

variable {runtime : Runtime} {scope base : JsString} {event : JsValue}
variable {options : RegistryAppendOptions} {fuel : Nat}
variable {acquire : RegistryLockOptions → Nat → Talk RegistryLockAcquisition}

/-- What an append may do to the files. -/
def AppendSpan (runtime : Runtime) (scope : JsString) (event : JsValue) (base : JsString)
    (options : RegistryAppendOptions) (before : Files) (outcome : Except Halt (Judged Appended))
    (after : Files) : Prop :=
  ∃ prepared, prepareAppend runtime scope event base options = .ok prepared ∧
    AppendEffect prepared before outcome after

theorem appendRegistryEventBy_approaches
    (hacquire : ∀ options fuel, (diskRules fails).Acquires (Took RegistryLockAcquisition.locked)
      (Missed RegistryLockAcquisition.locked) (acquire options fuel).run) :
    (diskRules fails).Approaches (AppendSpan runtime scope event base options) Unreported
      (appendRegistryEventBy acquire runtime scope event base options fuel).run := by
  unfold appendRegistryEventBy
  cases hprepared : prepareAppend runtime scope event base options with
  | error rejections => exact unreported_refused rejections
  | ok prepared =>
      apply approaches_of_quiet (quiet_symlink _ _ _) _ unreported_error
      intro linked
      cases linked with
      | some linked => exact unreported_refused [linked]
      | none =>
          apply approaches_of_quiet (quiet_ask rfl) _ unreported_error
          intro made
          apply approaches_of_quiet (quiet_orThrow made) _ unreported_error
          intro _
          apply approaches_of_acquires (hacquire _ _) _ _ unreported_error
          · intro acquisition before hlocked
            simp only [hlocked, Bool.not_true, Bool.false_eq_true, if_false]
            apply settles_tryFinally
            apply (appendBody_effect (fun _ => rfl) rfl _).mono
            exact fun outcome after hafter => ⟨hafter.1, prepared, hprepared, hafter.2⟩
          · intro acquisition hmissed
            simp only [hmissed, Bool.not_false, if_true]
            exact unreported_refused _

/-- Both appends are one critical section. -/
theorem appendRegistryEvent_approaches :
    (diskRules fails).Approaches (AppendSpan runtime scope event base options) Unreported
      (appendRegistryEvent runtime scope event base options fuel).run :=
  appendRegistryEventBy_approaches fun options fuel =>
    acquireRegistryLockBy_acquires sleepSync_quiet options fuel

theorem appendRegistryEventAsync_approaches :
    (diskRules fails).Approaches (AppendSpan runtime scope event base options) Unreported
      (appendRegistryEventAsync runtime scope event base options fuel).run :=
  appendRegistryEventBy_approaches fun options fuel =>
    acquireRegistryLockBy_acquires sleepAsync_quiet options fuel

/-! ## Compacting -/

/-- What a real compaction does to the files: the text of its plan in the log's place
where it reports one, else the log is as it was. -/
inductive CompactEffect (runtime : Runtime) (scope path now : JsString) (nowMs : Int)
    (policy : TtlPolicy) (before : Files) :
    Except Halt (Judged RegistryCompactionReport) → Files → Prop
  | rewrote {plan : CompactionPlan} {newText : JsString}
      (hplan : planCompaction runtime scope before.text now nowMs policy = .ok plan)
      (hnew : plan.newText = some newText) :
      CompactEffect runtime scope path now nowMs policy before
        (.ok (.ok (buildReport scope path false now policy plan)))
        { log := some newText, temp := none }
  | kept {plan : CompactionPlan}
      (hplan : planCompaction runtime scope before.text now nowMs policy = .ok plan ∨
        before.log = none ∧ plan = emptyPlan)
      (hnew : plan.newText = none) :
      CompactEffect runtime scope path now nowMs policy before
        (.ok (.ok (buildReport scope path false now policy plan))) before
  | refused (rejections : List EventRejection) :
      CompactEffect runtime scope path now nowMs policy before (.ok (.error rejections)) before
  | halted (halt : Halt) (temp : Option JsString) :
      CompactEffect runtime scope path now nowMs policy before (.error halt)
        { before with temp }

/-- The rewrite: the new text stands in the log's place, or the log is as it was. -/
theorem replaceLog_effect (newText : JsString) (disk : Disk) :
    Ensures (Responds fails) (diskRules fails).Stays
      (fun outcome after =>
        (outcome = .ok () ∧ after.shared = { log := some newText, temp := none }) ∨
        (∃ error temp, outcome = .error (.threw error) ∧
          after.shared = { disk.shared with temp }))
      (replaceLog newText).run disk := by
  refine ⟨⟨(by rintro ⟨⟩), fun _ => rfl⟩, fun answer written hanswer => ?_⟩
  rcases hanswer with ⟨rfl, rfl⟩ | ⟨error, temp, rfl, -, rfl⟩
  · refine ⟨⟨(by rintro ⟨⟩), fun _ => rfl⟩, fun answer renamed hanswer => ?_⟩
    rcases hanswer with ⟨text, htemp, rfl, rfl⟩ | ⟨error, rfl, rfl, -⟩
    · cases htemp
      exact .inl ⟨rfl, rfl⟩
    · refine ⟨⟨(by rintro ⟨⟩), fun _ => rfl⟩, fun answer removed hanswer => ?_⟩
      rcases hanswer with ⟨-, rfl⟩ | ⟨error', -, rfl, -⟩
      · exact .inr ⟨error, none, rfl, rfl⟩
      · exact .inr ⟨error, some newText, rfl, rfl⟩
  · refine ⟨⟨(by rintro ⟨⟩), fun _ => rfl⟩, fun answer removed hanswer => ?_⟩
    rcases hanswer with ⟨-, rfl⟩ | ⟨error', -, rfl, -⟩
    · exact .inr ⟨error, none, rfl, rfl⟩
    · exact .inr ⟨error, temp, rfl, rfl⟩

/-- What is done once the log is read. -/
theorem compactPlanned_effect {path now : JsString} {nowMs : Int} {policy : TtlPolicy}
    {disk : Disk} {judged : Judged CompactionPlan}
    (hplan : planCompaction runtime scope disk.shared.text now nowMs policy = judged)
    {next : Judged CompactionPlan → Talk (Judged RegistryCompactionReport)}
    (herror : ∀ rejections, next (.error rejections) = pure (.error rejections))
    (hkeep : ∀ plan, plan.newText = none →
      next (.ok plan) = pure (.ok (buildReport scope path false now policy plan)))
    (hwrite : ∀ plan newText, plan.newText = some newText →
      next (.ok plan) = replaceLog newText >>= fun _ =>
        pure (.ok (buildReport scope path false now policy plan))) :
    Ensures (Responds fails) (diskRules fails).Stays
      (fun outcome after => Returns outcome ∧
        CompactEffect runtime scope path now nowMs policy disk.shared outcome after.shared)
      (next judged).run disk := by
  cases judged with
  | error rejections =>
      rw [herror]
      exact ⟨(by rintro ⟨⟩), .refused rejections⟩
  | ok plan =>
      cases hnew : plan.newText with
      | none =>
          rw [hkeep plan hnew]
          exact ⟨(by rintro ⟨⟩), .kept (.inl hplan) hnew⟩
      | some newText =>
          rw [hwrite plan newText hnew, run_bind, ensures_bind]
          apply (replaceLog_effect newText disk).mono
          rintro outcome after (⟨rfl, hafter⟩ | ⟨error, temp, rfl, hafter⟩)
          · refine ⟨(by rintro ⟨⟩), ?_⟩
            rw [hafter]
            exact .rewrote hplan hnew
          · refine ⟨(by rintro ⟨⟩), ?_⟩
            rw [hafter]
            exact .halted (.threw error) temp

theorem compactLocked_effect (path now : JsString) (nowMs : Int) (policy : TtlPolicy)
    (disk : Disk) :
    Ensures (Responds fails) (diskRules fails).Stays
      (fun outcome after => Returns outcome ∧
        CompactEffect runtime scope path now nowMs policy disk.shared outcome after.shared)
      (compactLocked runtime scope path now nowMs policy).run disk := by
  unfold compactLocked
  rw [run_ask_bind]
  refine ⟨stays_of_passive rfl, fun exist after hanswer => ?_⟩
  obtain ⟨rfl, rfl⟩ := hanswer
  cases hlog : after.shared.log with
  | none => exact ⟨(by rintro ⟨⟩), .kept (.inr ⟨hlog, rfl⟩) rfl⟩
  | some text =>
      change Ensures _ _ _ (ask .readLog >>= _ : Talk (Judged RegistryCompactionReport)).run after
      rw [run_ask_bind]
      refine ⟨stays_of_passive rfl, fun answer read hanswer => ?_⟩
      obtain ⟨rfl, ⟨text', htext, rfl⟩ | ⟨error, rfl, -⟩⟩ := hanswer
      · obtain rfl : read.shared.text = text' := by
          rw [Files.text, htext]
          rfl
        simp only [orThrow_ok_bind]
        generalize hplan : planCompaction runtime scope read.shared.text now nowMs policy = judged
        apply compactPlanned_effect hplan (fun _ => rfl)
        · intro plan hnew
          simp only [hnew]
        · intro plan newText hnew
          simp only [hnew]
      · exact ⟨(by rintro ⟨⟩), .halted (.threw error) read.shared.temp⟩

/-- No report of a real run. -/
def Uncommitted (outcome : Except Halt (Judged RegistryCompactionReport)) : Prop :=
  ∀ report, outcome = .ok (.ok report) → report.dryRun = true

theorem uncommitted_error (halt : Halt) : Uncommitted (.error halt) := by
  rintro _ ⟨⟩

theorem uncommitted_refused (rejections : List EventRejection) :
    Uncommitted (.ok (.error rejections)) := by
  rintro _ ⟨⟩

/-- What a compaction may do to the files. -/
def CompactSpan (runtime : Runtime) (scope : JsString) (options : CompactRegistryEventsOptions)
    (before : Files) (outcome : Except Halt (Judged RegistryCompactionReport)) (after : Files) :
    Prop :=
  ∃ path now nowMs, isSafeRegistryScope scope = true ∧ runtime.dateParse now = some nowMs ∧
    validateTtlPolicy runtime options.policy = [] ∧
    CompactEffect runtime scope path now nowMs options.policy before outcome after

theorem quiet_instantOf (now : Option JsString) :
    (diskRules fails).Quiet Returns (instantOf runtime now).run := by
  cases now with
  | none => exact quiet_bind (quiet_ask rfl) (fun _ _ => (by rintro ⟨⟩)) fun _ => returns_error
  | some now => rintro ⟨⟩

/-- A dry run writes nothing. -/
theorem quiet_compactDry (path now : JsString) (nowMs : Int) (policy : TtlPolicy) :
    (diskRules fails).Quiet Uncommitted (compactDry runtime scope path now nowMs policy).run := by
  apply quiet_bind (quiet_ask rfl) _ fun halt _ => uncommitted_error halt
  intro exist _
  split
  · rintro _ ⟨⟩
    rfl
  · apply quiet_bind (quiet_ask (show isPassive .readLog = true from rfl)) _
      fun halt _ => uncommitted_error halt
    intro answer _
    apply quiet_bind (quiet_orThrow answer) _ fun halt _ => uncommitted_error halt
    intro text _
    split
    · exact uncommitted_refused _
    · rintro _ ⟨⟩
      rfl

/-- A compaction is one critical section. -/
theorem compactRegistryEvents_approaches {options : CompactRegistryEventsOptions} :
    (diskRules fails).Approaches (CompactSpan runtime scope options) Uncommitted
      (compactRegistryEvents runtime scope options fuel).run := by
  unfold compactRegistryEvents
  split
  · exact uncommitted_refused _
  · rename_i hscope
    apply approaches_of_quiet (quiet_instantOf options.now) _ uncommitted_error
    intro now
    cases hnow : runtime.dateParse now with
    | none => exact uncommitted_refused _
    | some nowMs =>
        cases hpolicy : validateTtlPolicy runtime options.policy with
        | cons rejection rejections => exact uncommitted_refused _
        | nil =>
            simp only
            split
            · exact (quiet_compactDry _ now nowMs options.policy).idle
            · apply approaches_of_quiet (quiet_ask rfl) _ uncommitted_error
              intro made
              apply approaches_of_quiet (quiet_orThrow made) _ uncommitted_error
              intro _
              apply approaches_of_acquires
                (acquireRegistryLockBy_acquires sleepSync_quiet _ _) _ _ uncommitted_error
              · intro acquisition before hlocked
                simp only [hlocked, Bool.not_true, Bool.false_eq_true, if_false]
                apply settles_tryFinally
                apply (compactLocked_effect _ now nowMs options.policy _).mono
                exact fun outcome after hafter =>
                  ⟨hafter.1, _, now, nowMs, by simpa using hscope, hnow, hpolicy, hafter.2⟩
              · intro acquisition hmissed
                simp only [hmissed, Bool.not_false, if_true]
                exact uncommitted_refused _

end OdinSentinel.Registry
