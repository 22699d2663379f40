import OdinSentinel.Registry.Laundering
import OdinSentinel.Registry.Retention

/-!
# Dry runs

A dry run and a real run of one compaction share the checks of the arguments and the plan.
The real run alone has to take the lock, and the number of attempts that it is given may
leave it none.
-/

namespace OdinSentinel.Registry

open JsText Dialogue

variable {runtime : Runtime} {scope path now : JsString} {nowMs : Int} {policy : TtlPolicy}
variable {may : FileAsk → Prop}

/-! ## The instant and the arguments -/

/-- The options with the clock read. -/
def CompactRegistryEventsOptions.at (options : CompactRegistryEventsOptions) (runtime : Runtime)
    (ms : Int) (dryRun : Bool) : CompactRegistryEventsOptions :=
  { options with
    now := some (options.now.getD ((runtime.toISOString (.ofInt ms)).getD []))
    dryRun := dryRun }

/-- The instant of a run that reads the clock at `ms`. -/
def CompactRegistryEventsOptions.instant (options : CompactRegistryEventsOptions)
    (runtime : Runtime) (ms : Int) : JsString :=
  options.now.getD ((runtime.toISOString (.ofInt ms)).getD [])

/-- The instant of a run with valid arguments, or what is wrong with them. -/
def compactArguments (runtime : Runtime) (scope now : JsString) (policy : TtlPolicy) :
    Judged Int :=
  if !isSafeRegistryScope scope then .error [unsafeCompactScope scope]
  else match runtime.dateParse now with
    | none => .error [invalidNow now]
    | some nowMs =>
        match validateTtlPolicy runtime policy with
        | rejection :: rejections => .error (rejection :: rejections)
        | [] => .ok nowMs

theorem compactArguments_ok_iff :
    compactArguments runtime scope now policy = .ok nowMs ↔
      isSafeRegistryScope scope = true ∧ runtime.dateParse now = some nowMs ∧
        validateTtlPolicy runtime policy = [] := by
  rw [compactArguments]
  cases isSafeRegistryScope scope with
  | false => simp
  | true =>
      cases runtime.dateParse now with
      | none => simp
      | some found =>
          cases validateTtlPolicy runtime policy with
          | nil => simp
          | cons rejection rejections => simp

/-- What a real run with valid arguments does. -/
def compactReal (runtime : Runtime) (scope dir now : JsString) (nowMs : Int)
    (options : CompactRegistryEventsOptions) (fuel : Nat) :
    Talk (Judged RegistryCompactionReport) := do
  orThrow (← ask .makeDir)
  let acquisition ← acquireRegistryLock options.toRegistryLockOptions fuel
  if !acquisition.locked then
    pure (.error [compactLockUnavailable runtime (runtime.joinPath dir registryLockDirname)
      acquisition])
  else
    tryFinally
      (compactLocked runtime scope (runtime.joinPath dir registryEventsFilename) now nowMs
        options.policy)
      (do orThrow (← ask .removeLock))

/-- A run with its clock read. -/
theorem compactRegistryEvents_at (options : CompactRegistryEventsOptions) (ms : Int)
    (dryRun : Bool) (fuel : Nat) :
    compactRegistryEvents runtime scope (options.at runtime ms dryRun) fuel =
      match compactArguments runtime scope (options.instant runtime ms) options.policy with
      | .error rejections => pure (.error rejections)
      | .ok nowMs =>
          let dir := runtime.joinPath (options.base.getD localRegistryBase) scope
          if dryRun then
            compactDry runtime scope (runtime.joinPath dir registryEventsFilename)
              (options.instant runtime ms) nowMs options.policy
          else compactReal runtime scope dir (options.instant runtime ms) nowMs
            (options.at runtime ms dryRun) fuel := by
  have hpolicy : (options.at runtime ms dryRun).policy = options.policy := rfl
  have hnow : (options.at runtime ms dryRun).now = some (options.instant runtime ms) := rfl
  have hdry : (options.at runtime ms dryRun).dryRun = dryRun := rfl
  have hbase : (options.at runtime ms dryRun).base = options.base := rfl
  unfold compactRegistryEvents compactArguments
  rw [hpolicy, hnow, hdry, hbase]
  cases isSafeRegistryScope scope with
  | false => rfl
  | true =>
      simp only [Bool.not_true, Bool.false_eq_true, if_false, instantOf, talk_pure_bind]
      cases runtime.dateParse (options.instant runtime ms) with
      | none => rfl
      | some found =>
          cases validateTtlPolicy runtime options.policy with
          | cons rejection rejections => rfl
          | nil => rfl

/-! ## Runs on a sound disk -/

/-- The plan for the log of a scope, which may be absent. -/
def planFor (runtime : Runtime) (scope now : JsString) (nowMs : Int) (policy : TtlPolicy)
    (files : Files) : Judged CompactionPlan :=
  match files.log with
  | none => .ok emptyPlan
  | some text => planCompaction runtime scope text now nowMs policy

/-- The files once a plan is carried out. -/
def Files.carry (files : Files) : Judged CompactionPlan → Files
  | .error _ => files
  | .ok plan =>
      match plan.newText with
      | none => files
      | some newText => { log := some newText, temp := none }

/-- A disk on which a plan was carried out. -/
def carryOut (disk : Disk) (judged : Judged CompactionPlan) : Disk :=
  { disk with shared := disk.shared.carry judged }

/-- A dry run reports its plan and changes nothing. -/
theorem compactDry_sound (disk : Disk) :
    Attains (Responds Sound) (fun _ => True)
      (fun outcome after =>
        outcome = .ok ((planFor runtime scope now nowMs policy disk.shared).map
          (buildReport scope path true now policy)) ∧ after = disk)
      (compactDry runtime scope path now nowMs policy) disk := by
  apply attains_request_bind.mpr
  refine ⟨trivial, fun exist after hanswer => ?_⟩
  obtain ⟨rfl, rfl⟩ := hanswer
  rw [planFor]
  cases hlog : after.shared.log with
  | none => exact ⟨rfl, rfl⟩
  | some text =>
      apply attains_request_bind.mpr
      refine ⟨trivial, fun answer read hanswer => ?_⟩
      obtain ⟨rfl, ⟨text', htext, rfl⟩ | ⟨error, -, hfault⟩⟩ := hanswer
      · rw [hlog] at htext
        cases htext
        rw [orThrow_ok_bind]
        dsimp only
        cases planCompaction runtime scope text now nowMs policy with
        | error rejections => exact ⟨rfl, rfl⟩
        | ok plan => exact ⟨rfl, rfl⟩
      · rcases hfault with hnone | hfault
        · rw [hlog] at hnone
          cases hnone
        · exact hfault.elim

/-- Without a fault the new text stands in the log's place. -/
theorem replaceLog_sound (newText : JsString) (disk : Disk) :
    Attains (Responds Sound) (fun _ => True)
      (fun outcome after => outcome = .ok () ∧
        after = { disk with shared := { log := some newText, temp := none } })
      (replaceLog newText) disk := by
  refine ⟨trivial, fun answer written hanswer => ?_⟩
  rcases hanswer with ⟨rfl, rfl⟩ | ⟨error, temp, -, hfault, -⟩
  · refine ⟨trivial, fun answer renamed hanswer => ?_⟩
    rcases hanswer with ⟨text, htemp, rfl, rfl⟩ | ⟨error, -, -, hnone | hfault⟩
    · cases htemp
      exact ⟨rfl, rfl⟩
    · cases hnone
    · exact hfault.elim
  · exact hfault.elim

/-- A real run carries its plan out under the lock. -/
theorem compactLocked_sound (disk : Disk) :
    Attains (Responds Sound) (fun _ => True)
      (fun outcome after =>
        outcome = .ok ((planFor runtime scope now nowMs policy disk.shared).map
          (buildReport scope path false now policy)) ∧
        after = carryOut disk (planFor runtime scope now nowMs policy disk.shared))
      (compactLocked runtime scope path now nowMs policy) disk := by
  apply attains_request_bind.mpr
  refine ⟨trivial, fun exist after hanswer => ?_⟩
  obtain ⟨rfl, rfl⟩ := hanswer
  rw [planFor]
  cases hlog : after.shared.log with
  | none => exact ⟨rfl, rfl⟩
  | some text =>
      apply attains_request_bind.mpr
      refine ⟨trivial, fun answer read hanswer => ?_⟩
      obtain ⟨rfl, ⟨text', htext, rfl⟩ | ⟨error, -, hfault⟩⟩ := hanswer
      · rw [hlog] at htext
        cases htext
        rw [orThrow_ok_bind]
        dsimp only
        cases planCompaction runtime scope text now nowMs policy with
        | error rejections => exact ⟨rfl, rfl⟩
        | ok plan =>
            dsimp only [carryOut, Files.carry]
            cases plan.newText with
            | none => exact ⟨rfl, rfl⟩
            | some newText =>
                apply attains_bind.mpr
                apply (replaceLog_sound newText read).mono
                rintro _ after ⟨rfl, rfl⟩
                exact ⟨rfl, rfl⟩
      · rcases hfault with hnone | hfault
        · rw [hlog] at hnone
          cases hnone
        · exact hfault.elim

/-- Whether the number of attempts at the lock leaves one. -/
def RegistryLockOptions.LeavesAttempt (options : RegistryLockOptions) : Prop :=
  options.maxLockAttempts ≠ some .nan

theorem lt_maximum_one {attempts : JsNumber} :
    (JsNumber.ofNat 0).lt ((JsNumber.ofNat 1).maximum attempts) = true ↔ attempts ≠ .nan := by
  cases attempts with
  | nan => decide
  | negInfinity => decide
  | infinity => decide
  | finite value =>
      simp only [Ne, reduceCtorEq, not_false_eq_true, iff_true]
      rw [JsNumber.maximum, if_neg (by simp [JsNumber.ofNat])]
      split
      · rename_i hle
        exact JsNumber.lt_of_lt_of_le (by decide) hle
      · decide

theorem lockPolicy_fixed {options : RegistryLockOptions} {maxAttempts retryMs : JsNumber}
    (hpolicy : lockPolicy options = .fixed maxAttempts retryMs) :
    (JsNumber.ofNat 0).lt maxAttempts = true ↔ options.LeavesAttempt := by
  rw [lockPolicy] at hpolicy
  split at hpolicy
  · cases hpolicy
    rw [lt_maximum_one, RegistryLockOptions.LeavesAttempt]
    cases options.maxLockAttempts with
    | none => simp [JsNumber.ofNat]
    | some attempts => simp
  · cases hpolicy

theorem lockPolicy_backoff {options : RegistryLockOptions} {budgetMs : JsNumber}
    (hpolicy : lockPolicy options = .backoff budgetMs) : options.LeavesAttempt := by
  rw [lockPolicy] at hpolicy
  split at hpolicy
  · cases hpolicy
  · rename_i hnone
    rw [RegistryLockOptions.LeavesAttempt]
    intro hattempts
    apply hnone
    rw [hattempts]
    rfl

/-- Whether a free lock was taken, as the result says. -/
def TookFree {Value : Type} (locked : Value → Bool) (options : RegistryLockOptions) (disk : Disk)
    (outcome : Except Halt Value) (after : Disk) : Prop :=
  ∃ value, outcome = .ok value ∧
    ((options.LeavesAttempt ∧ locked value = true ∧ after = { disk with locked := true }) ∨
      (¬options.LeavesAttempt ∧ locked value = false ∧ after = disk))

/-- The first attempt at a free lock takes it. -/
theorem makeLock_free {disk after : Disk} {answer : FileAnswer .makeLock}
    (hfree : disk.locked = false) (hanswer : Responds Sound disk .makeLock answer after) :
    answer = .ok () ∧ after = { disk with locked := true } := by
  rcases hanswer with ⟨rfl, -, rfl⟩ | ⟨error, -, -, ⟨-, hlocked⟩ | hfault⟩
  · exact ⟨rfl, rfl⟩
  · rw [hfree] at hlocked
    cases hlocked
  · exact hfault.elim

/-- A free lock is taken at the first attempt, if there is one. -/
theorem acquireRegistryLock_free (options : RegistryLockOptions) (fuel : Nat) {disk : Disk}
    (hfree : disk.locked = false) :
    Attains (Responds Sound) (fun _ => True)
      (TookFree RegistryLockAcquisition.locked options disk)
      (acquireRegistryLock options (fuel + 1)) disk := by
  have hfinish : ∀ (startedAt : Int) (attempts : Talk (Bool × Nat)),
      Attains (Responds Sound) (fun _ => True) (TookFree Prod.fst options disk) attempts disk →
      Attains (Responds Sound) (fun _ => True)
        (TookFree RegistryLockAcquisition.locked options disk)
        (attempts >>= fun found => ask .now >>= fun now =>
          (pure { locked := found.1, attempts := found.2, elapsedMs := now - startedAt } :
            Talk RegistryLockAcquisition)) disk := by
    intro startedAt attempts hattempts
    apply attains_bind.mpr
    apply hattempts.mono
    rintro _ after ⟨found, rfl, htook⟩
    apply attains_request_bind.mpr
    refine ⟨trivial, fun ms final hanswer => ?_⟩
    obtain rfl := hanswer
    exact ⟨_, rfl, htook⟩
  apply attains_request_bind.mpr
  refine ⟨trivial, fun startedAt after hanswer => ?_⟩
  obtain rfl := hanswer
  dsimp only
  cases hpolicy : lockPolicy options with
  | fixed maxAttempts retryMs =>
      apply hfinish
      rw [fixedAttempts]
      by_cases hleaves : options.LeavesAttempt
      · rw [if_pos ((lockPolicy_fixed hpolicy).mpr hleaves)]
        apply attains_request_bind.mpr
        refine ⟨trivial, fun answer locked hanswer => ?_⟩
        obtain ⟨rfl, rfl⟩ := makeLock_free hfree hanswer
        exact ⟨(true, 1), rfl, .inl ⟨hleaves, rfl, rfl⟩⟩
      · rw [if_neg (mt (lockPolicy_fixed hpolicy).mp hleaves)]
        exact ⟨(false, 0), rfl, .inr ⟨hleaves, rfl, rfl⟩⟩
  | backoff budgetMs =>
      apply hfinish
      apply attains_request_bind.mpr
      refine ⟨trivial, fun answer locked hanswer => ?_⟩
      obtain ⟨rfl, rfl⟩ := makeLock_free hfree hanswer
      exact ⟨(true, 1), rfl, .inl ⟨lockPolicy_backoff hpolicy, rfl, rfl⟩⟩

/-! ## Rejections and byte counts of a plan -/

theorem parseRegistryLine_field {lineNo : Nat} {line : JsString}
    {rejections : List EventRejection}
    (hline : parseRegistryLine runtime lineNo line = .error rejections) :
    ∀ rejection ∈ rejections, js "line[" <+: rejection.field := by
  intro rejection hrejection
  rw [parseRegistryLine] at hline
  cases hparse : Json.parse line with
  | none =>
      rw [hparse] at hline
      cases hline
      obtain rfl := List.mem_singleton.mp hrejection
      exact List.prefix_append_of_prefix (List.prefix_append _ _)
  | some value =>
      rw [hparse] at hline
      dsimp only at hline
      cases hevent : validateGovdispEvent runtime value with
      | error found =>
          rw [hevent] at hline
          cases hline
          obtain ⟨inner, -, rfl⟩ := List.mem_map.mp hrejection
          change js "line[" <+: js "line[" ++ natText lineNo ++ js "]." ++ inner.field
          rw [List.append_assoc, List.append_assoc]
          exact List.prefix_append _ _
      | ok event =>
          rw [hevent] at hline
          dsimp only at hline
          cases hdate : runtime.dateParse event.ts.1 with
          | none =>
              rw [hdate] at hline
              cases hline
              obtain rfl := List.mem_singleton.mp hrejection
              exact List.prefix_append_of_prefix (List.prefix_append _ _)
          | some eventMs =>
              rw [hdate] at hline
              cases hline

theorem collect_field {lines : List JsString} {lineNo : Nat} {rejections : List EventRejection}
    (hcollect : collect (parseRegistryLine runtime) lineNo lines = .error rejections) :
    ∀ rejection ∈ rejections, js "line[" <+: rejection.field := by
  induction lines generalizing lineNo rejections with
  | nil => cases hcollect
  | cons line rest ih =>
      rw [collect] at hcollect
      cases hline : parseRegistryLine runtime lineNo line with
      | ok entry =>
          cases hrest : collect (parseRegistryLine runtime) (lineNo + 1) rest with
          | ok entries =>
              rw [hline, hrest] at hcollect
              cases hcollect
          | error others =>
              rw [hline, hrest] at hcollect
              cases hcollect
              exact ih hrest
      | error first =>
          cases hrest : collect (parseRegistryLine runtime) (lineNo + 1) rest with
          | ok entries =>
              rw [hline, hrest] at hcollect
              cases hcollect
              exact parseRegistryLine_field hline
          | error others =>
              rw [hline, hrest] at hcollect
              cases hcollect
              intro rejection hrejection
              rcases List.mem_append.mp hrejection with hfirst | hothers
              · exact parseRegistryLine_field hline rejection hfirst
              · exact ih hrest rejection hothers

/-- A plan is rejected for lines of the log alone. -/
theorem planFor_field {files : Files} {rejections : List EventRejection}
    (hscope : isSafeRegistryScope scope = true) (hnow : runtime.dateParse now = some nowMs)
    (hplan : planFor runtime scope now nowMs policy files = .error rejections) :
    ∀ rejection ∈ rejections, js "line[" <+: rejection.field := by
  rw [planFor] at hplan
  cases hlog : files.log with
  | none =>
      rw [hlog] at hplan
      cases hplan
  | some text =>
      rw [hlog] at hplan
      dsimp only at hplan
      cases hcollect : collect (parseRegistryLine runtime) 1 (splitLogLines text) with
      | ok parsed =>
          obtain ⟨plan, hok, -⟩ := @planCompaction_ok runtime scope text now nowMs policy parsed
            (parseLines_ok_iff.mp hcollect) hscope hnow
          rw [hplan] at hok
          cases hok
      | error found =>
          rw [planCompaction, hcollect] at hplan
          cases hplan
          exact collect_field hcollect

/-- No rejection of a plan is that of a lock that is not to be had. -/
theorem planFor_ne_lock {files : Files} {lockDir : JsString}
    {acquisition : RegistryLockAcquisition} (hscope : isSafeRegistryScope scope = true)
    (hnow : runtime.dateParse now = some nowMs) :
    planFor runtime scope now nowMs policy files ≠
      .error [compactLockUnavailable runtime lockDir acquisition] := by
  intro hplan
  have hfield := planFor_field hscope hnow hplan _ List.mem_cons_self
  have hlock : (compactLockUnavailable runtime lockDir acquisition).field =
      registryLockDirname := rfl
  rw [hlock] at hfield
  exact absurd hfield (by decide)

/-- The bytes that a plan counts are those of the log that it leaves. -/
theorem planFor_bytes {files : Files} {plan : CompactionPlan}
    (hplan : planFor runtime scope now nowMs policy files = .ok plan) :
    plan.bytesAfter = byteLength (files.carry (.ok plan)).text := by
  rw [planFor] at hplan
  cases hlog : files.log with
  | none =>
      rw [hlog] at hplan
      cases hplan
      rw [Files.carry]
      dsimp only [emptyPlan]
      rw [Files.text, hlog]
      rfl
  | some text =>
      rw [hlog] at hplan
      dsimp only at hplan
      rw [planCompaction] at hplan
      cases hcollect : collect (parseRegistryLine runtime) 1 (splitLogLines text) with
      | error found =>
          rw [hcollect] at hplan
          cases hplan
      | ok parsed =>
          rw [hcollect] at hplan
          dsimp only at hplan
          split at hplan
          · cases hplan
            rw [Files.carry]
            dsimp only
            rw [Files.text, hlog]
            rfl
          · split at hplan
            · cases hplan
            · cases hplan
              rfl

/-- `finally` frees the lock behind a body that has a result. -/
theorem tryFinally_sound {Value : Type} {body : Talk Value} {disk : Disk} {value : Value}
    {files : Files}
    (hbody : Attains (Responds Sound) (fun _ => True)
      (fun outcome after => outcome = .ok value ∧ after = { disk with shared := files }) body disk) :
    Attains (Responds Sound) (fun _ => True)
      (fun outcome after => outcome = .ok value ∧ after = { locked := false, shared := files })
      (tryFinally body (do orThrow (← ask .removeLock))) disk := by
  apply ensures_bind.mpr
  apply hbody.mono
  rintro _ after ⟨rfl, rfl⟩
  refine ⟨trivial, fun answer freed hanswer => ?_⟩
  obtain ⟨rfl, rfl⟩ := hanswer
  exact ⟨rfl, rfl⟩

/-- What a real run comes to on a disk whose lock is free. -/
theorem compactReal_sound {dir : JsString} (options : CompactRegistryEventsOptions) (fuel : Nat)
    {disk : Disk} (hfree : disk.locked = false) :
    Attains (Responds Sound) (fun _ => True)
      (fun outcome after =>
        (options.LeavesAttempt ∧
          outcome = .ok ((planFor runtime scope now nowMs options.policy disk.shared).map
            (buildReport scope (runtime.joinPath dir registryEventsFilename) false now
              options.policy)) ∧
          after = carryOut disk (planFor runtime scope now nowMs options.policy disk.shared)) ∨
        (¬options.LeavesAttempt ∧ after = disk ∧
          ∃ lockDir acquisition,
            outcome = .ok (.error [compactLockUnavailable runtime lockDir acquisition])))
      (compactReal runtime scope dir now nowMs options (fuel + 1)) disk := by
  apply attains_request_bind.mpr
  refine ⟨trivial, fun answer made hanswer => ?_⟩
  obtain ⟨rfl, rfl | hfault⟩ := hanswer
  · rw [orThrow_ok_bind]
    apply attains_bind.mpr
    apply (acquireRegistryLock_free options.toRegistryLockOptions fuel hfree).mono
    rintro _ after ⟨acquisition, rfl, ⟨hleaves, hlocked, rfl⟩ | ⟨hleaves, hlocked, rfl⟩⟩
    · change Attains _ _ _ (ite _ _ _) _
      rw [hlocked]
      apply (tryFinally_sound (compactLocked_sound _)).mono
      rintro _ after ⟨rfl, rfl⟩
      refine .inl ⟨hleaves, rfl, ?_⟩
      rw [carryOut, hfree]
    · change Attains _ _ _ (ite _ _ _) _
      rw [hlocked]
      exact .inr ⟨hleaves, rfl, _, _, rfl⟩
  · exact hfault.elim

/-! ## What a dry run foretells -/

/-- A dry run changes nothing, and the real run rejects alike or reports alike and leaves a
log of the bytes that were counted. -/
def Foretells (disk : Disk) (dry : Except Halt (Judged RegistryCompactionReport))
    (dryAfter : Disk) (real : Except Halt (Judged RegistryCompactionReport)) (realAfter : Disk) :
    Prop :=
  dryAfter = disk ∧
    ((∃ rejections, dry = .ok (.error rejections) ∧ real = .ok (.error rejections)) ∨
      ∃ report : RegistryCompactionReport, report.dryRun = true ∧ dry = .ok (.ok report) ∧
        real = .ok (.ok { report with dryRun := false }) ∧
        report.bytesAfter = byteLength realAfter.shared.text)

/-- Reports of one plan. -/
theorem foretells_plan (disk : Disk) :
    Foretells disk
      (.ok ((planFor runtime scope now nowMs policy disk.shared).map
        (buildReport scope path true now policy))) disk
      (.ok ((planFor runtime scope now nowMs policy disk.shared).map
        (buildReport scope path false now policy)))
      (carryOut disk (planFor runtime scope now nowMs policy disk.shared)) := by
  refine ⟨rfl, ?_⟩
  cases hplan : planFor runtime scope now nowMs policy disk.shared with
  | error rejections => exact .inl ⟨rejections, rfl, rfl⟩
  | ok plan => exact .inr ⟨_, rfl, rfl, rfl, planFor_bytes hplan⟩

/-- The dry run of a compaction foretells its real run, both with the clock read at `ms`. -/
def DryRunForetells (runtime : Runtime) (scope : JsString) (options : CompactRegistryEventsOptions)
    (ms : Int) (fuel : Nat) (disk : Disk) : Prop :=
  ∀ dry dryAfter real realAfter,
    Plays (Responds Sound)
      (compactRegistryEvents runtime scope (options.at runtime ms true) fuel).run disk
      dry dryAfter →
    Plays (Responds Sound)
      (compactRegistryEvents runtime scope (options.at runtime ms false) fuel).run disk
      real realAfter →
    Foretells disk dry dryAfter real realAfter

section Foretelling

variable {disk : Disk} {options : CompactRegistryEventsOptions} {ms : Int}

theorem dryRun_foretells_rejected {rejections : List EventRejection} (fuel : Nat)
    (harguments : compactArguments runtime scope (options.instant runtime ms) options.policy =
      .error rejections) : DryRunForetells runtime scope options ms fuel disk := by
  intro dry dryAfter real realAfter hdry hreal
  rw [compactRegistryEvents_at, harguments] at hdry hreal
  obtain ⟨rfl, rfl⟩ := plays_done.mp hdry
  obtain ⟨rfl, -⟩ := plays_done.mp hreal
  exact ⟨rfl, .inl ⟨rejections, rfl, rfl⟩⟩

theorem dryRun_foretells_locked (hfree : disk.locked = false) (fuel : Nat)
    (harguments : compactArguments runtime scope (options.instant runtime ms) options.policy =
      .ok nowMs) (hleaves : options.LeavesAttempt) :
    DryRunForetells runtime scope options ms (fuel + 1) disk := by
  intro dry dryAfter real realAfter hdry hreal
  rw [compactRegistryEvents_at, harguments] at hdry hreal
  dsimp only [if_true] at hdry
  obtain ⟨rfl, rfl⟩ := (compactDry_sound disk).sound hdry
  rcases (compactReal_sound (options.at runtime ms false) fuel hfree).sound hreal with
    ⟨-, rfl, rfl⟩ | ⟨hnone, -⟩
  · exact foretells_plan _
  · exact absurd hleaves hnone

/-- Without an attempt at the lock the real run is refused where the dry run has a plan. -/
theorem not_dryRun_foretells (hfree : disk.locked = false) (fuel : Nat)
    (harguments : compactArguments runtime scope (options.instant runtime ms) options.policy =
      .ok nowMs) (hleaves : ¬options.LeavesAttempt) :
    ¬DryRunForetells runtime scope options ms (fuel + 1) disk := by
  intro hforetells
  obtain ⟨hscope, hnow, -⟩ := compactArguments_ok_iff.mp harguments
  rw [DryRunForetells] at hforetells
  rw [compactRegistryEvents_at, compactRegistryEvents_at, harguments] at hforetells
  dsimp only [if_true] at hforetells
  obtain ⟨dry, dryAfter, hdry⟩ := exists_plays responds_sound
    (compactDry runtime scope _ (options.instant runtime ms) nowMs options.policy).run disk
  obtain ⟨real, realAfter, hreal⟩ := exists_plays responds_sound
    (compactReal runtime scope _ (options.instant runtime ms) nowMs
      (options.at runtime ms false) (fuel + 1)).run disk
  have hforetold := hforetells dry dryAfter real realAfter hdry hreal
  obtain ⟨rfl, rfl⟩ := (compactDry_sound disk).sound hdry
  rcases (compactReal_sound (options.at runtime ms false) fuel hfree).sound hreal with
    ⟨hlocked, -⟩ | ⟨-, rfl, lockDir, acquisition, rfl⟩
  · exact hleaves hlocked
  · obtain ⟨-, ⟨rejections, hrejected, hlocked⟩ | ⟨report, -, -, hreported, -⟩⟩ := hforetold
    · cases hlocked
      have hplan := Except.ok.inj hrejected
      cases hfound : planFor runtime scope (options.instant runtime ms) nowMs options.policy
          realAfter.shared with
      | error found =>
          rw [hfound] at hplan
          cases hplan
          exact planFor_ne_lock hscope hnow hfound
      | ok plan =>
          rw [hfound] at hplan
          cases hplan
    · cases hreported

end Foretelling

/-- Beside a lock that is free a dry run foretells the real run exactly where the options
leave an attempt at the lock or an argument is rejected. -/
theorem dryRun_foretells_iff {disk : Disk} (hfree : disk.locked = false)
    (options : CompactRegistryEventsOptions) (ms : Int) (fuel : Nat) :
    DryRunForetells runtime scope options ms (fuel + 1) disk ↔
      options.LeavesAttempt ∨ isSafeRegistryScope scope = false ∨
        runtime.dateParse (options.instant runtime ms) = none ∨
        validateTtlPolicy runtime options.policy ≠ [] := by
  cases harguments : compactArguments runtime scope (options.instant runtime ms) options.policy with
  | error rejections =>
      apply iff_of_true (dryRun_foretells_rejected (fuel + 1) harguments)
      by_contra hvalid
      rw [not_or, not_or, not_or, not_not] at hvalid
      obtain ⟨-, hscope, hdate, hpolicy⟩ := hvalid
      obtain ⟨nowMs, hnow⟩ := Option.ne_none_iff_exists'.mp hdate
      rw [compactArguments_ok_iff.mpr ⟨Bool.eq_true_of_not_eq_false hscope, hnow, hpolicy⟩]
        at harguments
      cases harguments
  | ok nowMs =>
      obtain ⟨hscope, hnow, hpolicy⟩ := compactArguments_ok_iff.mp harguments
      rw [hscope, hnow, hpolicy]
      simp only [Bool.true_eq_false, reduceCtorEq, ne_eq, not_true_eq_false, or_false]
      constructor
      · intro hforetells
        by_contra hleaves
        exact not_dryRun_foretells hfree fuel harguments hleaves hforetells
      · exact dryRun_foretells_locked hfree fuel harguments

theorem dryRun_foretells_iff_march :
    DryRunForetells marchRuntime (js "wave") marchOptions 0 1 threeAttemptsDisk ↔
      marchOptions.LeavesAttempt ∨ isSafeRegistryScope (js "wave") = false ∨
        marchRuntime.dateParse (marchOptions.instant marchRuntime 0) = none ∨
        validateTtlPolicy marchRuntime marchOptions.policy ≠ [] :=
  dryRun_foretells_iff rfl marchOptions 0 0

/-- The options of a compaction whose number of attempts at the lock is no number. -/
def attemptless : CompactRegistryEventsOptions :=
  { marchOptions with maxLockAttempts := some .nan }

/-- With `NaN` attempts the real run does not try the lock that is free. -/
theorem attemptless_refused : ¬∀ (runtime : Runtime) (scope : JsString) (disk : Disk)
    (options : CompactRegistryEventsOptions) (ms : Int) (fuel : Nat), disk.locked = false →
      DryRunForetells runtime scope options ms (fuel + 1) disk := by
  intro hforetells
  have harguments : compactArguments marchRuntime (js "wave")
      (attemptless.instant marchRuntime 0) attemptless.policy = .ok marchCommit.nowMs :=
    compactArguments_ok_iff.mpr ⟨(by decide), march_date, rfl⟩
  have hrefused : ¬DryRunForetells marchRuntime (js "wave") attemptless 0 1 threeAttemptsDisk :=
    not_dryRun_foretells rfl 0 harguments (not_not.mpr rfl)
  exact hrefused (hforetells marchRuntime (js "wave") threeAttemptsDisk attemptless 0 0 rfl)

end OdinSentinel.Registry
