import Mathlib.Data.Fintype.BigOperators
import OdinSentinel.Core.Journal
import OdinSentinel.Registry.Laundering

/-!
# Conservation of the log

Any number of appends and compactions on one scope, in any interleaving of their steps.
They run in effect one after the other, so the log is the journal of their sections, and
no event is lost or duplicated.
-/

namespace OdinSentinel.Registry

open JsText Dialogue Journal

variable {runtime : Runtime} {scope base : JsString} {fails : FileAsk → Prop}

/-! ## Calls -/

/-- A call on the scope: either append, or a compaction. -/
inductive LogCall
  | append (asynchronous : Bool) (event : JsValue) (base : JsString)
      (options : RegistryAppendOptions) (fuel : Nat)
  | compact (options : CompactRegistryEventsOptions) (fuel : Nat)

inductive Reply
  | appended (outcome : Except Halt (Judged Appended))
  | compacted (outcome : Except Halt (Judged RegistryCompactionReport))

abbrev LogProgram := Program FileAsk FileAnswer Reply

def LogCall.program (runtime : Runtime) (scope : JsString) : LogCall → LogProgram
  | .append asynchronous event base options fuel =>
      (appendBy asynchronous runtime scope event base options fuel).run.bind fun outcome =>
        .done (.appended outcome)
  | .compact options fuel =>
      (compactRegistryEvents runtime scope options fuel).run.bind fun outcome =>
        .done (.compacted outcome)

/-- The callers before their first step. -/
def logCallers {Caller : Type} (runtime : Runtime) (scope : JsString) (calls : Caller → LogCall)
    (disk : Disk) : System Caller Disk FileAsk FileAnswer Reply where
  world := disk
  program caller := (calls caller).program runtime scope

/-! ## Replies -/

/-- The digests that a summary carries. -/
def digestsOf (event : GovdispEvent) : List JsString :=
  match event.body with
  | .terminal _ hashes => hashes.1.map fun hash => hash.sha256.1
  | _ => []

/-- What a reply tells of its call: the line of the event that an append reports, the
summary that a real compaction reports, or nothing. -/
def sectionOf (runtime : Runtime) : Reply → Section JsString JsString
  | .appended (.ok (.ok appended)) => .write (eventLine runtime appended.event)
  | .compacted (.ok (.ok report)) =>
      match report.dryRun, report.summaryEvent with
      | false, some summary => .sweep (eventLine runtime summary) (digestsOf summary)
      | _, _ => .idle
  | _ => .idle

/-- What a call may do to the files. -/
def CallSpan (runtime : Runtime) (scope : JsString) : LogCall → Files → Reply → Files → Prop
  | .append _ event base options _, before, .appended outcome, after =>
      AppendSpan runtime scope event base options before outcome after
  | .compact options _, before, .compacted outcome, after =>
      CompactSpan runtime scope options before outcome after
  | _, _, _, _ => False

/-- A call without the lock reports nothing. -/
def IdleReply (runtime : Runtime) (reply : Reply) : Prop := sectionOf runtime reply = .idle

theorem idleReply_of_unreported {outcome : Except Halt (Judged Appended)}
    (hidle : Unreported outcome) : IdleReply runtime (.appended outcome) := by
  cases outcome with
  | error halt => rfl
  | ok judged =>
      cases judged with
      | error rejections => rfl
      | ok appended => exact absurd rfl (hidle appended)

theorem idleReply_of_uncommitted {outcome : Except Halt (Judged RegistryCompactionReport)}
    (hidle : Uncommitted outcome) : IdleReply runtime (.compacted outcome) := by
  cases outcome with
  | error halt => rfl
  | ok judged =>
      cases judged with
      | error rejections => rfl
      | ok report =>
          rw [IdleReply, sectionOf, hidle report rfl]

/-- A call is one critical section. -/
theorem LogCall.approaches (call : LogCall) :
    (diskRules fails).Approaches (CallSpan runtime scope call) (IdleReply runtime)
      (call.program runtime scope) := by
  cases call with
  | append asynchronous event base options fuel =>
      exact appendBy_approaches.map (fun before outcome after hspan => hspan)
        fun outcome => idleReply_of_unreported
  | compact options fuel =>
      exact compactRegistryEvents_approaches.map (fun before outcome after hspan => hspan)
        fun outcome => idleReply_of_uncommitted

/-! ## Sections -/

/-- The sections of replies. -/
def sectionsOf {Caller : Type} (runtime : Runtime) (order : List (Caller × Reply)) :
    List (Caller × Section JsString JsString) :=
  order.map fun entry => (entry.1, sectionOf runtime entry.2)

theorem digestsOf_summaryOf (scope now : NonEmptyText)
    (removed : { removed : List ParsedRegistryLine // removed ≠ [] }) :
    digestsOf (summaryOf runtime scope now removed) =
      (removed.1.map ParsedRegistryLine.line).map runtime.sha256 := by
  change ((removed.1.map (hashOf runtime)).map fun hash => hash.sha256.1) = _
  rw [List.map_map, List.map_map]
  rfl

section Plan

variable {now : JsString} {nowMs : Int} {policy : TtlPolicy} {lines : List JsString}
variable {parsed : List ParsedRegistryLine} {plan : CompactionPlan}

theorem Plans.kept_sublist (hplans : Plans runtime scope now nowMs policy lines parsed plan) :
    plan.keptLines.Sublist lines := by
  rw [hplans.kept_eq, ← hplans.parsed_lines]
  exact List.filter_sublist.map _

/-- A compaction parts the lines. -/
theorem Plans.parts (hplans : Plans runtime scope now nowMs policy lines parsed plan) :
    (plan.keptLines ++ plan.removed.map ParsedRegistryLine.line).Perm lines := by
  rw [hplans.kept_eq, hplans.removed_eq, ← List.map_append]
  refine List.Perm.trans ?_ (List.Perm.of_eq hplans.parsed_lines)
  apply List.Perm.map
  exact List.perm_append_comm.trans (List.filter_append_perm (isExpiredLine nowMs policy) parsed)

theorem Plans.removed_of_newText (hplans : Plans runtime scope now nowMs policy lines parsed plan)
    {newText : JsString} (hnew : plan.newText = some newText) : plan.removed ≠ [] := by
  intro hremoved
  rw [(hplans.idle hremoved).1] at hnew
  cases hnew

theorem Plans.summary_of_kept (hplans : Plans runtime scope now nowMs policy lines parsed plan)
    (hnew : plan.newText = none) : plan.summaryEvent = none := by
  by_cases hremoved : plan.removed = []
  · exact (hplans.idle hremoved).2
  · obtain ⟨_, _, _, hrewritten⟩ := hplans.rewrites hremoved
    rw [hnew] at hrewritten
    cases hrewritten

end Plan

section Journal

variable {Caller : Type} {sections : List (Caller × Section JsString JsString)}
variable {before after : Files} {first lines : List JsString}

theorem AppendSpan.journal {event : JsValue} {options : RegistryAppendOptions}
    {outcome : Except Halt (Judged Appended)} (caller : Caller)
    (hspan : AppendSpan runtime scope event base options before outcome after)
    (hlines : HasLines before.text lines) (hsections : Sections runtime.sha256 first sections lines) :
    ∃ lines, HasLines after.text lines ∧
      Sections runtime.sha256 first ((caller, sectionOf runtime (.appended outcome)) :: sections)
        lines := by
  rcases hspan.lines hlines with ⟨appended, rfl, -, hafter⟩ | ⟨hidle, rfl⟩
  · exact ⟨_, hafter, .write caller (eventLine runtime appended.event) hsections⟩
  · have hreply : sectionOf runtime (.appended outcome) = .idle := idleReply_of_unreported hidle
    rw [hreply]
    exact ⟨lines, hlines, .idle caller hsections⟩

theorem CompactSpan.journal {options : CompactRegistryEventsOptions}
    {outcome : Except Halt (Judged RegistryCompactionReport)} (caller : Caller)
    (hspan : CompactSpan runtime scope options before outcome after)
    (hlines : HasLines before.text lines) (hsections : Sections runtime.sha256 first sections lines) :
    ∃ lines, HasLines after.text lines ∧
      Sections runtime.sha256 first ((caller, sectionOf runtime (.compacted outcome)) :: sections)
        lines := by
  obtain ⟨path, now, nowMs, hscope, hnow, -, heffect⟩ := hspan
  cases heffect with
  | @rewrote plan newText hplan hnew =>
      obtain ⟨parsed, hplans⟩ := planCompaction_plans hscope hnow hplan
      rw [hlines.split] at hplans
      have hremoved := hplans.removed_of_newText hnew
      obtain ⟨_, _, hsummary, hrewritten⟩ := hplans.rewrites hremoved
      rw [hnew] at hrewritten
      cases hrewritten
      refine ⟨_, hplans.rewritten hlines.whole _, ?_⟩
      have hreply : ∀ summary, plan.summaryEvent = some summary →
          sectionOf runtime (.compacted (.ok (.ok (buildReport scope path false now options.policy
            plan)))) = .sweep (eventLine runtime summary) (digestsOf summary) := by
        intro summary hsummary
        simp only [sectionOf, buildReport, hsummary]
      rw [hreply _ hsummary, digestsOf_summaryOf]
      exact .sweep caller _ hsections hplans.kept_sublist hplans.parts
  | @kept plan hplan hnew =>
      have hsummary : plan.summaryEvent = none := by
        rcases hplan with hplan | ⟨-, rfl⟩
        · obtain ⟨parsed, hplans⟩ := planCompaction_plans hscope hnow hplan
          exact hplans.summary_of_kept hnew
        · rfl
      have hreply : sectionOf runtime (.compacted (.ok (.ok (buildReport scope path false now
          options.policy plan)))) = .idle := by
        simp only [sectionOf, buildReport, hsummary]
      rw [hreply]
      exact ⟨lines, hlines, .idle caller hsections⟩
  | refused rejections => exact ⟨lines, hlines, .idle caller hsections⟩
  | halted halt temp => exact ⟨lines, hlines, .idle caller hsections⟩

/-- Sections in the order of the lock are the journal of the log. -/
theorem serial_journal {calls : Caller → LogCall} {start disk : Files}
    {order : List (Caller × Reply)} (hstart : HasLines start.text first)
    (hserial : LockRules.Serial (fun caller => CallSpan runtime scope (calls caller)) start order
      disk) :
    ∃ lines, HasLines disk.text lines ∧
      Sections runtime.sha256 first (sectionsOf runtime order) lines := by
  induction hserial with
  | nil => exact ⟨first, hstart, .nil⟩
  | @cons order before after caller reply _ hspan ih =>
      obtain ⟨lines, hlines, hsections⟩ := ih
      cases hcall : calls caller with
      | append asynchronous event base options fuel =>
          rw [hcall] at hspan
          cases reply with
          | appended outcome => exact AppendSpan.journal caller hspan hlines hsections
          | compacted outcome => exact hspan.elim
      | compact options fuel =>
          rw [hcall] at hspan
          cases reply with
          | appended outcome => exact hspan.elim
          | compacted outcome => exact CompactSpan.journal caller hspan hlines hsections

end Journal

/-! ## Every interleaving -/

/-- The reply of a call that is through. -/
def replyOf : LogProgram → Option Reply
  | .done reply => some reply
  | .ask _ _ => none

/-- An append of the line. -/
def weighAppend (line : JsString) : Section JsString JsString → Nat
  | .write written => if written = line then 1 else 0
  | _ => 0

/-- A compaction that wrote the line as its summary. -/
def weighSummary (line : JsString) : Section JsString JsString → Nat
  | .sweep summary _ => if summary = line then 1 else 0
  | _ => 0

/-- The entries of a summary with the digest. -/
def weighRecord (hash : JsString) (part : Section JsString JsString) : Nat :=
  part.recorded.count hash

section Interleavings

variable {Caller : Type} [Fintype Caller] [DecidableEq Caller]

/-- What the replies of all callers weigh together. -/
def total (runtime : Runtime) (weigh : Section JsString JsString → Nat)
    (system : System Caller Disk FileAsk FileAnswer Reply) : Nat :=
  ∑ caller, (replyOf (system.program caller)).elim 0 fun reply => weigh (sectionOf runtime reply)

variable {system : System Caller Disk FileAsk FileAnswer Reply} {order : List (Caller × Reply)}

/-- Only the callers that held the lock weigh anything. -/
theorem total_eq {weigh : Section JsString JsString → Nat}
    (hdistinct : (order.map Prod.fst).Nodup)
    (hfinished : ∀ entry ∈ order, system.program entry.1 = .done entry.2)
    (hothers : ∀ caller reply, system.program caller = .done reply →
      caller ∉ order.map Prod.fst → IdleReply runtime reply) (hidle : weigh .idle = 0) :
    total runtime weigh system =
      ((sectionsOf runtime order).map fun entry => weigh entry.2).sum := by
  have hzero : ∀ caller ∉ (order.map Prod.fst).toFinset,
      (replyOf (system.program caller)).elim 0 (fun reply => weigh (sectionOf runtime reply)) = 0 := by
    intro caller hcaller
    rw [List.mem_toFinset] at hcaller
    cases hprogram : system.program caller with
    | ask question next => rfl
    | done reply =>
        change weigh (sectionOf runtime reply) = 0
        rw [hothers caller reply hprogram hcaller, hidle]
  rw [total, ← Finset.sum_subset (Finset.subset_univ _) fun caller _ => hzero caller,
    List.sum_toFinset _ hdistinct, sectionsOf, List.map_map, List.map_map]
  congr 1
  apply List.map_congr_left
  intro entry hentry
  rw [Function.comp_apply, hfinished entry hentry]
  rfl

/-- A contribution stood in the log at the start, was appended or is a summary. -/
theorem count_contributions {Author : Type} (line : JsString) (first : List JsString)
    (sections : List (Author × Section JsString JsString)) :
    (contributions first sections).count line = first.count line +
      (sections.map fun entry => weighAppend line entry.2).sum +
      (sections.map fun entry => weighSummary line entry.2).sum := by
  induction sections with
  | nil => simp [contributions]
  | cons entry sections ih =>
      obtain ⟨author, part⟩ := entry
      cases part with
      | idle =>
          rw [contributions_cons_none rfl, ih]
          simp [weighAppend, weighSummary]
      | write written =>
          rw [contributions_cons_some written rfl, List.count_append, ih, List.count_singleton]
          simp only [List.map_cons, List.sum_cons, weighAppend, weighSummary, beq_iff_eq]
          omega
      | sweep summary digests =>
          rw [contributions_cons_some summary rfl, List.count_append, ih, List.count_singleton]
          simp only [List.map_cons, List.sum_cons, weighAppend, weighSummary, beq_iff_eq]
          omega

/-- Whenever the lock is free, the log is the journal of the calls in the order in which
they held the lock, and of every line so many copies are in the log or recorded by a
summary as stood there at the start, were appended or were written as a summary. -/
theorem log_conserved {calls : Caller → LogCall} {disk : Disk} {first : List JsString}
    {history : History Caller FileAsk FileAnswer} (hfree : disk.locked = false)
    (hfirst : HasLines disk.shared.text first)
    (hrun : Interleaved (Responds fails) (logCallers runtime scope calls disk) history system)
    (hunlocked : system.world.locked = false) :
    ∃ order lines, HasLines system.world.shared.text lines ∧
      (diskRules fails).holders history = order.map Prod.fst ∧
      (∀ entry ∈ order, system.program entry.1 = .done entry.2) ∧
      (∀ caller reply, system.program caller = .done reply → caller ∉ order.map Prod.fst →
        sectionOf runtime reply = .idle) ∧
      Sections runtime.sha256 first (sectionsOf runtime order) lines ∧
      lines.Sublist (contributions first (sectionsOf runtime order)) ∧
      ∀ line, (∀ other ∈ contributions first (sectionsOf runtime order),
          runtime.sha256 other = runtime.sha256 line → other = line) →
        first.count line + total runtime (weighAppend line) system +
            total runtime (weighSummary line) system =
          lines.count line + total runtime (weighRecord (runtime.sha256 line)) system := by
  obtain ⟨order, holder, files, hlinear⟩ := LockRules.interleaved_linearized hfree
    (fun caller => (calls caller).approaches) hrun
  have hnone : holder = none := by
    cases holder with
    | none => rfl
    | some caller =>
        rw [(hlinear.held caller rfl).1] at hunlocked
        cases hunlocked
  subst hnone
  obtain ⟨lines, hlines, hsections⟩ := serial_journal hfirst hlinear.serial
  rw [← (hlinear.free rfl).2] at hlines
  have hothers : ∀ caller reply, system.program caller = .done reply →
      caller ∉ order.map Prod.fst → IdleReply runtime reply := by
    intro caller reply hprogram hcaller
    have hwaits := hlinear.waiting caller hcaller (by simp)
    rw [hprogram] at hwaits
    exact hwaits
  have htotal : ∀ weigh, weigh .idle = 0 → total runtime weigh system =
      ((sectionsOf runtime order).map fun entry => weigh entry.2).sum :=
    fun weigh => total_eq hlinear.distinct hlinear.finished hothers
  refine ⟨order, lines, hlines, hlinear.holders_eq, hlinear.finished, hothers, hsections,
    hsections.sublist, fun line hdigest => ?_⟩
  have hrecords : total runtime (weighRecord (runtime.sha256 line)) system =
      (records (sectionsOf runtime order)).count (runtime.sha256 line) := by
    rw [htotal _ rfl, records, List.count_flatMap]
    rfl
  rw [htotal _ rfl, htotal _ rfl, hrecords, ← count_contributions]
  exact hsections.conserve hdigest

end Interleavings

/-! ## An append and a compaction -/

/-- One caller appends, and then the other compacts. -/
theorem append_compact_run {calls : Bool → LogCall} {disk middle final : Disk}
    {asynchronous : Bool} {event : JsValue} {appendOptions : RegistryAppendOptions}
    {appendFuel : Nat} {appended : Except Halt (Judged Appended)}
    {compactOptions : CompactRegistryEventsOptions} {compactFuel : Nat}
    {compacted : Except Halt (Judged RegistryCompactionReport)}
    (happend : calls true = .append asynchronous event base appendOptions appendFuel)
    (hcompact : calls false = .compact compactOptions compactFuel)
    (hfirst : Plays (Responds fails)
      (appendBy asynchronous runtime scope event base appendOptions appendFuel).run disk appended
      middle)
    (hsecond : Plays (Responds fails)
      (compactRegistryEvents runtime scope compactOptions compactFuel).run middle compacted final) :
    ∃ history system, Interleaved (Responds fails) (logCallers runtime scope calls disk) history
        system ∧ system.world = final ∧ system.program true = .done (.appended appended) ∧
      system.program false = .done (.compacted compacted) := by
  have htrue : (logCallers runtime scope calls disk).program true =
      (appendBy asynchronous runtime scope event base appendOptions appendFuel).run.bind
        fun outcome => .done (.appended outcome) := by
    rw [← LogCall.program, ← happend]
    rfl
  have hfalse : (logCallers runtime scope calls disk).program false =
      (compactRegistryEvents runtime scope compactOptions compactFuel).run.bind
        fun outcome => .done (.compacted outcome) := by
    rw [← LogCall.program, ← hcompact]
    rfl
  have hnil : Interleaved (Responds fails) (logCallers runtime scope calls disk) []
      (logCallers runtime scope calls disk) := .nil
  obtain ⟨_, happended⟩ := hnil.play hfirst htrue
  obtain ⟨history, hcompacted⟩ := happended.play hsecond
    ((System.advance_of_ne _ (by decide) _ _).trans hfalse)
  exact ⟨history, _, hcompacted, rfl,
    (System.advance_of_ne _ (by decide) _ _).trans (System.advance_self _ _ _ _),
    System.advance_self _ _ _ _⟩

/-- A runtime that knows the digests of the attempt of January and of its chain. -/
def chainRuntime : Runtime := plainRuntime
  [(eventLine (plainRuntime []) januaryAttempt, attemptDigest),
    (js "evt-attempt:" ++ attemptDigest.1,
      ⟨js "dd7d65d012432e80da3fbe6408d8aab0a134598d6a5f6646a6cd4d78b23d9363", by decide⟩)]

/-- That runtime, which knows the digest of the summary as well. -/
def summaryRuntime : Runtime := plainRuntime
  [(eventLine (plainRuntime []) januaryAttempt, attemptDigest),
    (js "evt-attempt:" ++ attemptDigest.1,
      ⟨js "dd7d65d012432e80da3fbe6408d8aab0a134598d6a5f6646a6cd4d78b23d9363", by decide⟩),
    (eventLine chainRuntime (marchSummary chainRuntime 0),
      ⟨js "907e5be032eab281707c12b0fb455692fc50c1e6a9437341403ec881f0f10594", by decide⟩)]

def attemptLine : JsString := eventLine summaryRuntime januaryAttempt

def summaryLine : JsString := eventLine summaryRuntime (marchSummary summaryRuntime 0)

theorem sha256_attemptLine_ne :
    summaryRuntime.sha256 attemptLine ≠ summaryRuntime.sha256 summaryLine := by
  decide +kernel

/-- An append of January and a compaction of March. -/
def januaryThenMarch : Bool → LogCall
  | true => .append false januaryAttempt.toJson (js "base") .defaults 1
  | false => .compact marchOptions 1

abbrev januaryCallers : System Bool Disk FileAsk FileAnswer Reply :=
  logCallers summaryRuntime (js "wave") januaryThenMarch emptyDisk

/-- The compaction removes the attempt, and its summary is all that is left. -/
theorem januaryThenMarch_run : ∃ history system,
    Interleaved (Responds Sound) januaryCallers history system ∧ system.world.locked = false ∧
      HasLines system.world.shared.text [summaryLine] ∧
      ∀ weigh, total summaryRuntime weigh system =
        weigh (.write attemptLine) + weigh (.sweep summaryLine [attemptDigest.1]) := by
  have haccepted : validateGovdispEvent summaryRuntime januaryAttempt.toJson = .ok januaryAttempt :=
    validateGovdispEvent_ok_iff.mpr (parseGovdispEvent_toJson _)
  have hprepared : prepareAppend summaryRuntime (js "wave") januaryAttempt.toJson (js "base")
      .defaults = .ok (preparedFor summaryRuntime (js "wave") (js "base") januaryAttempt) := by
    rcases prepareAppend_defaults haccepted with ⟨-, -, hprepared⟩ | ⟨hfits, -⟩
    · exact hprepared
    · exact absurd (hfits (by decide)) (by decide +kernel)
  have hfirst := @append_plays summaryRuntime (js "wave") (js "base") Sound false _ _ emptyDisk 0
    hprepared rfl
  have hlog : (emptyDisk.shared.append
      (preparedFor summaryRuntime (js "wave") (js "base") januaryAttempt).line).log =
        some (joinLines ((List.replicate (0 + 1) januaryAttempt).map (eventLine summaryRuntime))) := by
    simp [Files.append, Files.text, emptyDisk, joinLines, preparedFor]
  obtain ⟨report, hsecond, hreal, -, hsummary⟩ := @march_plays summaryRuntime Sound rfl 0
    ⟨false, emptyDisk.shared.append
      (preparedFor summaryRuntime (js "wave") (js "base") januaryAttempt).line⟩ rfl hlog
  have hcompact : januaryThenMarch false = .compact marchOptions 1 := rfl
  obtain ⟨history, system, hrun, hworld, htrue, hfalse⟩ :=
    append_compact_run rfl hcompact hfirst hsecond
  refine ⟨history, system, hrun, ?_, ?_, fun weigh => ?_⟩
  · rw [hworld]
  · rw [hworld]
    exact hasLines_events [marchSummary summaryRuntime 0]
  · have hsections : sectionOf summaryRuntime (.compacted (.ok (.ok report))) =
        .sweep summaryLine (digestsOf (marchSummary summaryRuntime 0)) := by
      rw [sectionOf, hreal, hsummary]
      rfl
    have hdigests : digestsOf (marchSummary summaryRuntime 0) = [attemptDigest.1] := by
      rw [marchSummary, digestsOf_summaryOf]
      decide +kernel
    rw [total, Fintype.sum_bool, htrue, hfalse]
    simp only [replyOf, Option.elim_some, hsections, hdigests]
    rfl

theorem log_conserved_march : ∃ history system,
    Interleaved (Responds Sound) januaryCallers history system ∧
    ∃ order lines, HasLines system.world.shared.text lines ∧
      (diskRules Sound).holders history = order.map Prod.fst ∧
      Sections summaryRuntime.sha256 [] (sectionsOf summaryRuntime order) lines ∧
      ∀ line, (∀ other ∈ contributions [] (sectionsOf summaryRuntime order),
          summaryRuntime.sha256 other = summaryRuntime.sha256 line → other = line) →
        total summaryRuntime (weighAppend line) system +
            total summaryRuntime (weighSummary line) system = lines.count line +
          total summaryRuntime (weighRecord (summaryRuntime.sha256 line)) system := by
  obtain ⟨history, system, hrun, hunlocked, -, -⟩ := januaryThenMarch_run
  obtain ⟨order, lines, hlines, hholders, -, -, hsections, -, hconserved⟩ :=
    @log_conserved summaryRuntime (js "wave") Sound Bool _ _ system januaryThenMarch emptyDisk []
      history rfl hasLines_nil hrun hunlocked
  refine ⟨history, system, hrun, order, lines, hlines, hholders, hsections, fun line hdigest => ?_⟩
  simpa using hconserved line hdigest

/-- The summary that a compaction writes stands in the log though nobody appended it. -/
theorem summaryLine_unappended : ¬∀ (fails : FileAsk → Prop) (runtime : Runtime)
    (scope : JsString) (calls : Bool → LogCall) (disk : Disk)
    (history : History Bool FileAsk FileAnswer)
    (system : System Bool Disk FileAsk FileAnswer Reply) (lines : List JsString),
    disk.locked = false → disk.shared.text = [] →
      Interleaved (Responds fails) (logCallers runtime scope calls disk) history system →
      system.world.locked = false → HasLines system.world.shared.text lines →
      (∀ line other, 0 < total runtime (weighAppend line) system +
          total runtime (weighSummary line) system →
        0 < total runtime (weighAppend other) system + total runtime (weighSummary other) system →
        runtime.sha256 other = runtime.sha256 line → other = line) →
      ∀ line, total runtime (weighAppend line) system =
        lines.count line + total runtime (weighRecord (runtime.sha256 line)) system := by
  intro hconserved
  obtain ⟨history, system, hrun, hunlocked, hlines, htotal⟩ := januaryThenMarch_run
  have hdistinct : attemptLine ≠ summaryLine := fun hsame =>
    sha256_attemptLine_ne (congrArg summaryRuntime.sha256 hsame)
  have hwritten : ∀ line, 0 < total summaryRuntime (weighAppend line) system +
      total summaryRuntime (weighSummary line) system → line = attemptLine ∨ line = summaryLine := by
    intro line hpositive
    rw [htotal, htotal] at hpositive
    simp only [weighAppend, weighSummary] at hpositive
    by_contra hneither
    rw [not_or] at hneither
    rw [if_neg (Ne.symm hneither.1), if_neg (Ne.symm hneither.2)] at hpositive
    exact absurd hpositive (by decide)
  have hequation := hconserved Sound summaryRuntime (js "wave") januaryThenMarch emptyDisk history
    system [summaryLine] rfl rfl hrun hunlocked hlines (fun line other hline hother hsame => by
      rcases hwritten line hline with rfl | rfl
      · rcases hwritten other hother with rfl | rfl
        · rfl
        · exact absurd hsame.symm sha256_attemptLine_ne
      · rcases hwritten other hother with rfl | rfl
        · exact absurd hsame sha256_attemptLine_ne
        · rfl) summaryLine
  rw [htotal, List.count_cons_self] at hequation
  simp only [weighAppend, if_neg hdistinct] at hequation
  omega

end OdinSentinel.Registry
