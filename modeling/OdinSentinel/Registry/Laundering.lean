import Mathlib.Data.List.Pairwise
import OdinSentinel.Registry.Verdicts

/-!
# Laundering

Whether a refusal of the attempt ceiling or of the overhead budget outlives the appends
and compactions behind it.  Appends never take one back; a compaction takes it back
where it removes so many of the counted events that too few are left.
-/

namespace OdinSentinel.Registry

open JsText Dialogue

variable {runtime : Runtime} {scope base objective : JsString} {fails : FileAsk → Prop}

/-! ## Refusals -/

/-- The attempt ceiling refuses an objective. -/
def RefusesAttempt (runtime : Runtime) (scope objective trigger base : JsString) (disk : Disk) :
    Prop :=
  ∃ refusal found, Plays (Responds Sound)
    (evaluateAttemptCeiling runtime scope objective trigger base).run disk
    (.ok (.ok (.refused refusal found))) disk

/-- The overhead budget refuses an objective. -/
def RefusesOverhead (runtime : Runtime) (scope objective base : JsString) (disk : Disk) : Prop :=
  ∃ refusal found, Plays (Responds Sound)
    (evaluateOverheadBudget runtime scope objective base).run disk
    (.ok (.ok (.refused refusal found))) disk

theorem refusesAttempt_iff {trigger : JsString} {disk : Disk} :
    RefusesAttempt runtime scope objective trigger base disk ↔
      Askable scope objective disk.shared.text ∧
        attemptCeiling ≤ tally isAttemptIncrement objective (ledger disk.shared.text) := by
  simp only [RefusesAttempt, (evaluateAttemptCeiling_observes trigger).plays_iff, and_true]
  rw [← @attemptRefused_iff runtime scope objective trigger]
  simp only [Except.ok.injEq, eq_comm]

theorem refusesOverhead_iff {disk : Disk} :
    RefusesOverhead runtime scope objective base disk ↔
      Askable scope objective disk.shared.text ∧
        governanceOverheadBudget ≤ tally isCountable objective (ledger disk.shared.text) := by
  simp only [RefusesOverhead, evaluateOverheadBudget_observes.plays_iff, and_true]
  rw [← @overheadRefused_iff runtime scope objective]
  simp only [Except.ok.injEq, eq_comm]

/-- Every refusal at one point stands at a later one. -/
def Persists (runtime : Runtime) (scope : JsString) (earlier later : Disk) : Prop :=
  ∀ objective base,
    (∀ trigger, RefusesAttempt runtime scope objective trigger base earlier →
      RefusesAttempt runtime scope objective trigger base later) ∧
    (RefusesOverhead runtime scope objective base earlier →
      RefusesOverhead runtime scope objective base later)

theorem Persists.refl (disk : Disk) : Persists runtime scope disk disk :=
  fun _ _ => ⟨fun _ => id, id⟩

theorem Persists.trans {first second third : Disk} (hfirst : Persists runtime scope first second)
    (hsecond : Persists runtime scope second third) : Persists runtime scope first third :=
  fun objective base => ⟨fun trigger hrefuses =>
    (hsecond objective base).1 trigger ((hfirst objective base).1 trigger hrefuses),
    fun hrefuses => (hsecond objective base).2 ((hfirst objective base).2 hrefuses)⟩

/-! ## Runs -/

/-- A committed compaction: the disk before it, its instant and its policy. -/
structure Commit where
  before : Disk
  nowMs : Int
  policy : TtlPolicy

/-- Accepted appends and committed compactions, one after the other: the points of the
run and its compactions, newest first. -/
inductive LedgerRun (fails : FileAsk → Prop) (runtime : Runtime) (scope : JsString)
    (start : Disk) : List Disk → List Commit → Disk → Prop
  | start : LedgerRun fails runtime scope start [start] [] start
  | append {points : List Disk} {commits : List Commit} {disk after : Disk} {asynchronous : Bool}
      {value : JsValue} {base : JsString} {options : RegistryAppendOptions} {fuel : Nat}
      {appended : Appended} (hrun : LedgerRun fails runtime scope start points commits disk)
      (hplays : Plays (Responds fails)
        (appendBy asynchronous runtime scope value base options fuel).run disk
        (.ok (.ok appended)) after) :
      LedgerRun fails runtime scope start (after :: points) commits after
  | compact {points : List Disk} {commits : List Commit} {disk after : Disk}
      {options : CompactRegistryEventsOptions} {fuel : Nat} {report : RegistryCompactionReport}
      {nowMs : Int} (hrun : LedgerRun fails runtime scope start points commits disk)
      (hplays : Plays (Responds fails) (compactRegistryEvents runtime scope options fuel).run disk
        (.ok (.ok report)) after)
      (hcommitted : report.dryRun = false) (hnow : runtime.dateParse report.now = some nowMs) :
      LedgerRun fails runtime scope start (after :: points)
        ({ before := disk, nowMs, policy := options.policy } :: commits) after

/-- Of an objective with so many events of a kind so many outlive a compaction. -/
def Outlives (runtime : Runtime) (commit : Commit) (kind : GovdispEvent → Bool) (limit : Nat)
    (objective : JsString) : Prop :=
  let events := ledger commit.before.shared.text
  limit ≤ tally kind objective events → limit ≤ tally
    (fun event => kind event && !isExpired runtime commit.nowMs commit.policy event) objective events

/-- A compaction leaves enough events of every objective that is at a ceiling. -/
def LeavesCeilings (runtime : Runtime) (commit : Commit) : Prop :=
  ∀ objective, trim objective ≠ [] →
    Outlives runtime commit isAttemptIncrement attemptCeiling objective ∧
    Outlives runtime commit isCountable governanceOverheadBudget objective

theorem LedgerRun.head {start disk : Disk} {points : List Disk} {commits : List Commit}
    (hrun : LedgerRun fails runtime scope start points commits disk) :
    ∃ rest, points = disk :: rest := by
  cases hrun with
  | start => exact ⟨[], rfl⟩
  | append _ _ => exact ⟨_, rfl⟩
  | compact _ _ _ _ => exact ⟨_, rfl⟩

/-! ## Steps -/

/-- An append takes no refusal back. -/
theorem persists_of_append {disk after : Disk} {event : GovdispEvent}
    (hledger : ledger after.shared.text = ledger disk.shared.text ++ [event])
    (hreadable : Readable disk.shared.text → Readable after.shared.text) :
    Persists runtime scope disk after := by
  intro objective base
  constructor
  · intro trigger hrefuses
    obtain ⟨haskable, hceiling⟩ := refusesAttempt_iff.mp hrefuses
    refine refusesAttempt_iff.mpr ⟨⟨haskable.safe, haskable.named, hreadable haskable.readable⟩, ?_⟩
    rw [hledger, tally_append]
    exact Nat.le_add_right_of_le hceiling
  · intro hrefuses
    obtain ⟨haskable, hbudget⟩ := refusesOverhead_iff.mp hrefuses
    refine refusesOverhead_iff.mpr ⟨⟨haskable.safe, haskable.named, hreadable haskable.readable⟩, ?_⟩
    rw [hledger, tally_append]
    exact Nat.le_add_right_of_le hbudget

theorem isAttemptIncrement_of_isSummary {event : GovdispEvent} (hsummary : isSummary event = true) :
    isAttemptIncrement event = false := by
  rw [isSummary] at hsummary
  rw [isAttemptIncrement]
  cases hbody : event.body with
  | attempt eventType attemptIndex trigger =>
      rw [hbody] at hsummary
      cases hsummary
  | _ => rfl

theorem isCountable_of_isSummary {event : GovdispEvent} (hsummary : isSummary event = true) :
    isCountable event = false := by
  rw [isSummary] at hsummary
  rw [isCountable]
  rw [GovdispEvent.eventClass]
  cases hbody : event.body with
  | terminal eventType contentHashes => rfl
  | _ =>
      rw [hbody] at hsummary
      cases hsummary

/-- A compaction takes no refusal back exactly where it leaves enough. -/
theorem persists_of_compacted {commit : Commit} {after : Disk}
    (hsafe : isSafeRegistryScope scope = true)
    (hcompacted : Compacted runtime commit.nowMs commit.policy commit.before.shared.text
      after.shared.text) :
    Persists runtime scope commit.before after ↔ LeavesCeilings runtime commit := by
  have hattempts := fun objective => @Compacted.tally_eq runtime objective _ _ _ _ _ hcompacted
    fun event => isAttemptIncrement_of_isSummary
  have hcountables := fun objective => @Compacted.tally_eq runtime objective _ _ _ _ _ hcompacted
    fun event => isCountable_of_isSummary
  have hbefore : ∀ objective, trim objective ≠ [] →
      Askable scope objective commit.before.shared.text :=
    fun objective hnamed => ⟨hsafe, hnamed, hcompacted.readable⟩
  have hafter : ∀ objective, trim objective ≠ [] → Askable scope objective after.shared.text :=
    fun objective hnamed => ⟨hsafe, hnamed, hcompacted.readable_after⟩
  constructor
  · intro hpersists objective hnamed
    constructor
    · intro hceiling
      have hrefuses := refusesAttempt_iff.mp ((hpersists objective []).1 []
        (refusesAttempt_iff.mpr ⟨hbefore objective hnamed, hceiling⟩))
      rw [← hattempts]
      exact hrefuses.2
    · intro hbudget
      have hrefuses := refusesOverhead_iff.mp ((hpersists objective []).2
        (refusesOverhead_iff.mpr ⟨hbefore objective hnamed, hbudget⟩))
      rw [← hcountables]
      exact hrefuses.2
  · intro hleaves objective base
    constructor
    · intro trigger hrefuses
      obtain ⟨haskable, hceiling⟩ := refusesAttempt_iff.mp hrefuses
      refine refusesAttempt_iff.mpr ⟨hafter objective haskable.named, ?_⟩
      rw [hattempts]
      exact (hleaves objective haskable.named).1 hceiling
    · intro hrefuses
      obtain ⟨haskable, hbudget⟩ := refusesOverhead_iff.mp hrefuses
      refine refusesOverhead_iff.mpr ⟨hafter objective haskable.named, ?_⟩
      rw [hcountables]
      exact (hleaves objective haskable.named).2 hbudget

/-! ## The ceilings over a run -/

theorem append_persists {disk after : Disk} {asynchronous : Bool} {value : JsValue}
    {options : RegistryAppendOptions} {fuel : Nat} {appended : Appended}
    (hwhole : Whole disk.shared.text)
    (hplays : Plays (Responds fails)
      (appendBy asynchronous runtime scope value base options fuel).run disk
      (.ok (.ok appended)) after) :
    Whole after.shared.text ∧ Persists runtime scope disk after := by
  rcases ((appendBy_approaches.ensures disk).sound hplays).2 with ⟨hidle, -⟩ | hspan
  · exact absurd rfl (hidle appended)
  · rcases hspan.leaves hwhole with ⟨landed, -, -, hafter, hledger, hreadable⟩ | ⟨hidle, -⟩
    · exact ⟨hafter, persists_of_append hledger hreadable⟩
    · exact absurd rfl (hidle appended)

theorem compact_persists_iff {disk after : Disk} {options : CompactRegistryEventsOptions}
    {fuel : Nat} {report : RegistryCompactionReport} {nowMs : Int}
    (hwhole : Whole disk.shared.text)
    (hplays : Plays (Responds fails) (compactRegistryEvents runtime scope options fuel).run disk
      (.ok (.ok report)) after)
    (hcommitted : report.dryRun = false) (hnow : runtime.dateParse report.now = some nowMs) :
    Whole after.shared.text ∧ (Persists runtime scope disk after ↔
      LeavesCeilings runtime { before := disk, nowMs, policy := options.policy }) := by
  rcases ((compactRegistryEvents_approaches.ensures disk).sound hplays).2 with ⟨hidle, -⟩ | hspan
  · rw [hidle report rfl] at hcommitted
    cases hcommitted
  · have hsafe : isSafeRegistryScope scope = true := by
      obtain ⟨-, -, -, hsafe, -⟩ := hspan
      exact hsafe
    rcases hspan.leaves hwhole with ⟨found, foundMs, hfound, hdate, hcompacted⟩ | ⟨hidle, -⟩
    · cases hfound
      rw [hnow] at hdate
      cases hdate
      exact ⟨hcompacted.whole_after, @persists_of_compacted runtime scope
        { before := disk, nowMs, policy := options.policy } after hsafe hcompacted⟩
    · exact absurd rfl (hidle report)

theorem LedgerRun.whole {start disk : Disk} {points : List Disk} {commits : List Commit}
    (hrun : LedgerRun fails runtime scope start points commits disk)
    (hwhole : Whole start.shared.text) : Whole disk.shared.text := by
  induction hrun with
  | start => exact hwhole
  | append _ hplays ih => exact (append_persists ih hplays).1
  | compact _ hplays hcommitted hnow ih => exact (compact_persists_iff ih hplays hcommitted hnow).1

/-- Every refusal outlives the rest of a run exactly where each compaction of the run
leaves enough events of the objectives at a ceiling. -/
theorem refusals_persist_iff {start disk : Disk} {points : List Disk} {commits : List Commit}
    (hwhole : Whole start.shared.text)
    (hrun : LedgerRun fails runtime scope start points commits disk) :
    (points.Pairwise fun later earlier => Persists runtime scope earlier later) ↔
      ∀ commit ∈ commits, LeavesCeilings runtime commit := by
  have htrans : IsTrans Disk fun later earlier => Persists runtime scope earlier later :=
    ⟨fun _ _ _ hlater hearlier => hearlier.trans hlater⟩
  induction hrun with
  | start => simp
  | append hrun hplays ih =>
      obtain ⟨rest, rfl⟩ := hrun.head
      have hpersists := (append_persists (hrun.whole hwhole) hplays).2
      exact List.pairwise_cons_cons_iff_of_trans.trans ((and_iff_right hpersists).trans ih)
  | compact hrun hplays hcommitted hnow ih =>
      obtain ⟨rest, rfl⟩ := hrun.head
      have hpersists := (compact_persists_iff (hrun.whole hwhole) hplays hcommitted hnow).2
      rw [List.forall_mem_cons]
      exact List.pairwise_cons_cons_iff_of_trans.trans (and_congr hpersists ih)

/-! ## Old attempts -/

/-- A compaction that finds the lock free rewrites the log. -/
theorem compact_plays {options : CompactRegistryEventsOptions} {disk : Disk}
    {text now newText : JsString} {nowMs : Int} {plan : CompactionPlan}
    (hsafe : isSafeRegistryScope scope = true) (hinstant : options.now = some now)
    (hdate : runtime.dateParse now = some nowMs)
    (hpolicy : validateTtlPolicy runtime options.policy = []) (hreal : options.dryRun = false)
    (hwaits : options.maxLockAttempts = none ∧ options.lockRetryMs = none)
    (hfree : disk.locked = false) (hlog : disk.shared.log = some text)
    (hplan : planCompaction runtime scope text now nowMs options.policy = .ok plan)
    (hnew : plan.newText = some newText) :
    ∃ path, Plays (Responds fails) (compactRegistryEvents runtime scope options 1).run disk
      (.ok (.ok (buildReport scope path false now options.policy plan)))
      { disk with shared := { log := some newText, temp := none } } := by
  have hdisk : disk = { locked := false, shared := disk.shared } := by
    cases disk
    cases hfree
    rfl
  refine ⟨runtime.joinPath (runtime.joinPath (options.base.getD localRegistryBase) scope)
    registryEventsFilename, ?_⟩
  rw [compactRegistryEvents]
  simp only [hsafe, hinstant, instantOf, talk_pure_bind, hdate, hpolicy, hreal, Bool.not_true,
    Bool.false_eq_true, if_false]
  refine .ask (.ok ()) ⟨rfl, .inl rfl⟩ ?_
  refine .ask (0 : Int) rfl ?_
  simp only [lockPolicy, hwaits.1, hwaits.2, Option.isSome_none, Bool.or_self, Bool.false_eq_true,
    if_false]
  refine .ask (.ok ()) (.inl ⟨rfl, hfree, rfl⟩) ?_
  refine .ask (0 : Int) rfl ?_
  refine .ask true ⟨rfl, by rw [hlog]; rfl⟩ ?_
  refine .ask (.ok text) ⟨rfl, .inl ⟨text, hlog, rfl⟩⟩ ?_
  simp only [Program.bind, Function.comp_apply, ExceptT.bindCont, orThrow_ok_bind, hplan, hnew]
  refine .ask (.ok ()) (.inl ⟨rfl, rfl⟩) ?_
  refine .ask (.ok ()) (.inl ⟨newText, rfl, rfl, rfl⟩) ?_
  refine .ask (.ok ()) ⟨rfl, rfl⟩ ?_
  rw [hdisk]
  exact .done _ _

/-- An attempt on the second of January. -/
def januaryAttempt : GovdispEvent := startedAttempt firstObjective

def attemptDigest : { digest : JsString // digest.length = 64 } :=
  ⟨js "6dcfcd78dc00e9fabc681dbb2b8e74029c8f9ccde40d5e49a0778f4870baa064", by decide⟩

/-- A runtime that knows the digest of that attempt's line, and of the three lines. -/
def marchRuntime : Runtime := plainRuntime
  [(eventLine (plainRuntime []) januaryAttempt, attemptDigest),
    (List.intercalate (js "\n") (List.replicate 3 (js "evt-attempt:" ++ attemptDigest.1)),
      ⟨js "0d527bf9858094d871f0adc76b7b009eb303201f0a3c0337e657e640fa3b8938", by decide⟩)]

/-- Three attempts in January. -/
def threeAttempts : List GovdispEvent := List.replicate 3 januaryAttempt

def threeAttemptsDisk : Disk where
  locked := false
  shared := { log := some (joinLines (threeAttempts.map (eventLine marchRuntime))), temp := none }

/-- A compaction in March with the default policy. -/
def marchOptions : CompactRegistryEventsOptions where
  maxLockAttempts := none
  lockRetryMs := none
  lockBudgetMs := none
  base := none
  now := some (js "2026-03-01T00:00:00.000Z")
  ttlDays := none
  ttlDaysByClass := none
  dryRun := false

def marchCommit : Commit where
  before := threeAttemptsDisk
  nowMs := 1772323200000
  policy := marchOptions.policy

/-- The instant of that compaction. -/
def march : NonEmptyText := ⟨js "2026-03-01T00:00:00.000Z", by decide⟩

def wave : NonEmptyText := ⟨js "wave", by decide⟩

/-- Attempts of the second of January as a compaction parses them. -/
def januaryLines (runtime : Runtime) (count : Nat) : List ParsedRegistryLine :=
  List.replicate count
    { line := eventLine runtime januaryAttempt, event := januaryAttempt, eventMs := 1767312000000 }

/-- What that compaction writes for attempts of January. -/
def marchSummary (runtime : Runtime) (count : Nat) : GovdispEvent :=
  summaryOf runtime wave march
    ⟨januaryLines runtime (count + 1), by simp [januaryLines]⟩

theorem januaryAttempt_date : Host.plainHost.dateParse januaryAttempt.ts.1 = some 1767312000000 := by
  decide +kernel

theorem march_date : Host.plainHost.dateParse march.1 = some marchCommit.nowMs := by decide +kernel

/-- In March those attempts are too old. -/
theorem januaryLines_expired {count : Nat} {entry : ParsedRegistryLine}
    (hentry : entry ∈ januaryLines runtime count) :
    isExpiredLine marchCommit.nowMs marchOptions.policy entry = true := by
  obtain rfl := (List.mem_replicate.mp hentry).2
  have hexpired : isExpiredLine marchCommit.nowMs marchOptions.policy
      { line := [], event := januaryAttempt, eventMs := 1767312000000 } = true := by
    decide +kernel
  exact hexpired

/-- The plan of that compaction: a summary takes the place of the attempts. -/
theorem march_plan (hhost : runtime.toHostRuntime = Host.plainHost) (count : Nat) :
    ∃ plan, planCompaction runtime (js "wave")
        (joinLines ((List.replicate (count + 1) januaryAttempt).map (eventLine runtime)))
        march.1 marchCommit.nowMs marchOptions.policy = .ok plan ∧
      plan.summaryEvent = some (marchSummary runtime count) ∧
      plan.newText = some (joinLines [eventLine runtime (marchSummary runtime count)]) := by
  have hdate : runtime.dateParse januaryAttempt.ts.1 = some 1767312000000 := by
    rw [hhost]
    exact januaryAttempt_date
  have hnow : runtime.dateParse march.1 = some marchCommit.nowMs := by
    rw [hhost]
    exact march_date
  have hparsed : (splitLogLines (joinLines
      ((List.replicate (count + 1) januaryAttempt).map (eventLine runtime)))).map
        (lineEntry runtime) = (januaryLines runtime (count + 1)).map some := by
    rw [(hasLines_events _).split, List.map_map, januaryLines, List.map_replicate,
      List.map_replicate, Function.comp_apply, lineEntry_eventLine, hdate]
    rfl
  obtain ⟨plan, hplan, hplans⟩ := @planCompaction_ok runtime (js "wave") _ march.1
    marchCommit.nowMs marchOptions.policy _ hparsed (by decide) hnow
  have hremoved : plan.removed = januaryLines runtime (count + 1) := by
    rw [hplans.removed_eq, List.filter_eq_self.mpr fun entry => januaryLines_expired]
  have hkept : plan.keptLines = [] := by
    rw [hplans.kept_eq, List.filter_eq_nil_iff.mpr, List.map_nil]
    intro entry hentry
    simp [januaryLines_expired hentry]
  have hnonempty : plan.removed ≠ [] := by
    rw [hremoved]
    simp [januaryLines]
  obtain ⟨_, _, hsummary, hnew⟩ := hplans.rewrites hnonempty
  have hwritten : summaryOf runtime wave march ⟨plan.removed, hnonempty⟩ =
      marchSummary runtime count := by
    simp only [hremoved]
    rfl
  refine ⟨plan, hplan, hsummary.trans (congrArg some hwritten), ?_⟩
  rw [hnew, hkept, List.nil_append]
  exact congrArg (fun event => some (joinLines [eventLine runtime event])) hwritten

/-- The compaction goes through and leaves none of the attempts. -/
theorem march_plays (hhost : runtime.toHostRuntime = Host.plainHost) (count : Nat)
    {disk : Disk} (hfree : disk.locked = false)
    (hlog : disk.shared.log = some
      (joinLines ((List.replicate (count + 1) januaryAttempt).map (eventLine runtime)))) :
    ∃ report, Plays (Responds fails)
        (compactRegistryEvents runtime (js "wave") marchOptions 1).run disk (.ok (.ok report))
        { disk with shared := {
            log := some (joinLines [eventLine runtime (marchSummary runtime count)])
            temp := none } } ∧
      report.dryRun = false ∧ report.now = march.1 ∧
        report.summaryEvent = some (marchSummary runtime count) := by
  have hnow : runtime.dateParse march.1 = some marchCommit.nowMs := by
    rw [hhost]
    exact march_date
  obtain ⟨plan, hplan, hsummary, hnew⟩ := march_plan hhost count
  obtain ⟨path, hplays⟩ := @compact_plays runtime (js "wave") fails marchOptions disk _ _ _ _ _
    (by decide) rfl hnow rfl rfl ⟨rfl, rfl⟩ hfree hlog hplan hnew
  exact ⟨buildReport (js "wave") path false march.1 marchOptions.policy plan, hplays, rfl, rfl,
    hsummary⟩

theorem whole_threeAttemptsDisk : Whole threeAttemptsDisk.shared.text :=
  ⟨_, hasLines_events threeAttempts⟩

theorem refusals_persist_iff_march : ∃ points commits disk,
    LedgerRun Sound marchRuntime (js "wave") threeAttemptsDisk points commits disk ∧
    commits = [marchCommit] ∧
    ((points.Pairwise fun later earlier => Persists marchRuntime (js "wave") earlier later) ↔
      ∀ commit ∈ commits, LeavesCeilings marchRuntime commit) := by
  obtain ⟨report, hplays, hcommitted, hnow, -⟩ :=
    @march_plays marchRuntime Sound rfl 2 threeAttemptsDisk rfl rfl
  have hdate : marchRuntime.dateParse report.now = some marchCommit.nowMs := by
    rw [hnow]
    exact march_date
  have hrun := LedgerRun.start.compact hplays hcommitted hdate
  exact ⟨_, _, _, hrun, rfl, refusals_persist_iff whole_threeAttemptsDisk hrun⟩

/-- Three attempts refuse a fourth until they are too old. -/
theorem januaryAttempts_laundered : ¬∀ fails runtime scope start points commits disk,
    Whole start.shared.text → LedgerRun fails runtime scope start points commits disk →
      points.Pairwise fun later earlier => Persists runtime scope earlier later := by
  intro hpersists
  obtain ⟨report, hplays, hcommitted, hnow, -⟩ :=
    @march_plays marchRuntime Sound rfl 2 threeAttemptsDisk rfl rfl
  have hdate : marchRuntime.dateParse report.now = some marchCommit.nowMs := by
    rw [hnow]
    exact march_date
  have hrun := LedgerRun.start.compact hplays hcommitted hdate
  have hpair := hpersists _ _ _ _ _ _ _ whole_threeAttemptsDisk hrun
  have hleaves := (compact_persists_iff whole_threeAttemptsDisk hplays hcommitted hdate).2.mp
    (List.rel_of_pairwise_cons hpair List.mem_cons_self)
  have hledger : ledger threeAttemptsDisk.shared.text = threeAttempts := ledger_events _
  have hceiling : attemptCeiling ≤ tally isAttemptIncrement (js "T-1")
        (ledger threeAttemptsDisk.shared.text) →
      attemptCeiling ≤ tally (fun event => isAttemptIncrement event &&
        !isExpired marchRuntime marchCommit.nowMs marchCommit.policy event) (js "T-1")
        (ledger threeAttemptsDisk.shared.text) := (hleaves (js "T-1") (by decide)).1
  rw [hledger] at hceiling
  exact absurd hceiling (by decide +kernel)

end OdinSentinel.Registry
