import OdinSentinel.Core.Sweep
import OdinSentinel.Registry.Laundering

/-!
# What a compaction keeps

A compaction that commits is a sweep of the log's lines: those past the TTL of their class
go, the others stay as they are and in their order, and one summary stands behind them
when any went.
-/

namespace OdinSentinel.Registry

open JsText Dialogue

variable {runtime : Runtime} {scope : JsString} {policy : TtlPolicy} {nowMs : Int}

/-! ## Lines past their time -/

/-- The instant before which events of a class are past. -/
def TtlPolicy.cutoff (policy : TtlPolicy) (nowMs : Int) (eventClass : GovdispEventClass) :
    JsNumber :=
  (JsNumber.ofInt nowMs).sub ((policy.ttl eventClass).mul (.ofNat dayMs))

/-- Whether the event of a line is past: it is not terminal and strictly older than the TTL
of its class. -/
def isPastLine (runtime : Runtime) (policy : TtlPolicy) (nowMs : Int) (line : JsString) : Bool :=
  (lineEntry runtime line).any fun entry =>
    entry.event.eventClass ≠ .terminal &&
      (JsNumber.ofInt entry.eventMs).lt (policy.cutoff nowMs entry.event.eventClass)

theorem isPastLine_iff {line : JsString} :
    isPastLine runtime policy nowMs line = true ↔
      ∃ event eventMs, lineEvent line = some event ∧
        runtime.dateParse event.ts.1 = some eventMs ∧ event.eventClass ≠ .terminal ∧
        (JsNumber.ofInt eventMs).lt (policy.cutoff nowMs event.eventClass) = true := by
  rw [isPastLine, Option.any_eq_true]
  simp only [Bool.and_eq_true, decide_eq_true_eq]
  constructor
  · rintro ⟨entry, hentry, hclass, hold⟩
    obtain ⟨event, hevent, hdated⟩ := Option.bind_eq_some_iff.mp hentry
    obtain ⟨eventMs, hdate, rfl⟩ := Option.map_eq_some_iff.mp hdated
    exact ⟨event, eventMs, hevent, hdate, hclass, hold⟩
  · rintro ⟨event, eventMs, hevent, hdate, hclass, hold⟩
    refine ⟨{ line, event, eventMs }, ?_, hclass, hold⟩
    rw [lineEntry, hevent, Option.bind_some, hdate]
    rfl

/-- The compactor removes the lines that are past. -/
theorem isExpiredLine_past {line : JsString} {entry : ParsedRegistryLine}
    (hentry : lineEntry runtime line = some entry) :
    isExpiredLine nowMs policy entry = isPastLine runtime policy nowMs line := by
  rw [isPastLine, hentry, Option.any_some, isExpiredLine]
  by_cases hterminal : entry.event.eventClass = .terminal
  · rw [if_pos hterminal, decide_eq_false (not_not.mpr hterminal), Bool.false_and]
  · rw [if_neg hterminal, decide_eq_true hterminal, Bool.true_and]
    rfl

theorem isPastLine_terminal {line : JsString} {event : GovdispEvent}
    (hevent : lineEvent line = some event) (hterminal : event.eventClass = .terminal) :
    isPastLine runtime policy nowMs line = false := by
  apply Bool.eq_false_iff.mpr
  intro hpast
  obtain ⟨found, -, hfound, -, hclass, -⟩ := isPastLine_iff.mp hpast
  rw [hevent] at hfound
  cases hfound
  exact hclass hterminal

/-- The entry that a summary has for a line. -/
def lineHash (runtime : Runtime) (line : JsString) : Option (JsString × JsString) :=
  (lineEvent line).map fun event => (event.eventId.1, runtime.sha256 line)

/-- The entries of a summary. -/
def summaryHashes (event : GovdispEvent) : List (JsString × JsString) :=
  match event.body with
  | .terminal _ hashes => hashes.1.map fun hash => (hash.path.1, hash.sha256.1)
  | _ => []

/-! ## What is kept -/

/-- What a committed compaction makes of a log. -/
structure Retained (runtime : Runtime) (policy : TtlPolicy) (nowMs : Int)
    (before after : JsString) (summary : Option GovdispEvent) : Prop where
  lines_eq : splitLogLines after =
    Sweep.kept (isPastLine runtime policy) nowMs (splitLogLines before) ++
      summary.toList.map (eventLine runtime)
  summary_iff : summary.isSome = true ↔
    Sweep.removed (isPastLine runtime policy) nowMs (splitLogLines before) ≠ []
  untouched : summary = none → after = before
  written : ∀ event, summary = some event → after = joinLines (splitLogLines after)
  hashes : ∀ event, summary = some event → summaryHashes event =
    (Sweep.removed (isPastLine runtime policy) nowMs (splitLogLines before)).filterMap
      (lineHash runtime)
  summary_terminal : ∀ event, summary = some event → event.eventClass = .terminal
  terminal : ∀ line ∈ splitLogLines before, ∀ event, lineEvent line = some event →
    event.eventClass = .terminal → line ∈ splitLogLines after
  accepted : ∀ line ∈ splitLogLines after, (lineEntry runtime line).isSome = true

/-- No line of a log has a newline. -/
theorem splitLogLines_whole (text : JsString) :
    ∀ line ∈ splitLogLines text, (10 : UInt16) ∉ line := by
  intro line hline hnewline
  have hpiece : line ∈ text.splitOn 10 := by
    unfold splitLogLines at hline
    dsimp only at hline
    split at hline
    · exact List.mem_of_mem_dropLast hline
    · exact hline
  exact (Text.mem_of_mem_splitOn hpiece hnewline).2 rfl

section Plan

variable {now : JsString} {lines : List JsString} {parsed : List ParsedRegistryLine}
variable {plan : CompactionPlan}

/-- A choice among the parsed lines is the same choice among the lines. -/
theorem Plans.filter_lines (hplans : Plans runtime scope now nowMs policy lines parsed plan)
    {choice : ParsedRegistryLine → Bool} {chosen : JsString → Bool}
    (hchoice : ∀ line entry, lineEntry runtime line = some entry → choice entry = chosen line) :
    (parsed.filter choice).map ParsedRegistryLine.line = lines.filter chosen := by
  rw [← hplans.parsed_lines, List.filter_map]
  congr 1
  apply List.filter_congr
  intro entry hentry
  exact hchoice entry.line entry (hplans.line_of_entry hentry).2

theorem Plans.kept_lines (hplans : Plans runtime scope now nowMs policy lines parsed plan) :
    plan.keptLines = Sweep.kept (isPastLine runtime policy) nowMs lines := by
  rw [hplans.kept_eq]
  apply hplans.filter_lines
  intro line entry hentry
  rw [isExpiredLine_past hentry]

theorem Plans.removed_lines (hplans : Plans runtime scope now nowMs policy lines parsed plan) :
    plan.removed.map ParsedRegistryLine.line =
      Sweep.removed (isPastLine runtime policy) nowMs lines := by
  rw [hplans.removed_eq]
  apply hplans.filter_lines
  intro line entry hentry
  exact isExpiredLine_past hentry

theorem Plans.removed_hashes (hplans : Plans runtime scope now nowMs policy lines parsed plan) :
    plan.removed.map (contentHash runtime) =
      (Sweep.removed (isPastLine runtime policy) nowMs lines).filterMap (lineHash runtime) := by
  rw [← hplans.removed_lines, List.filterMap_map, ← List.filterMap_eq_map]
  apply List.filterMap_congr
  intro entry hentry
  rw [hplans.removed_eq] at hentry
  have hline := (hplans.line_of_entry (List.mem_filter.mp hentry).1).2
  have hevent := (@isExpiredLine_of_lineEntry runtime nowMs policy entry.line entry hline).2.1
  simp only [Function.comp_apply, lineHash, hevent]
  rfl

theorem summaryHashes_summaryOf (scope now : NonEmptyText)
    (removed : { removed : List ParsedRegistryLine // removed ≠ [] }) :
    summaryHashes (summaryOf runtime scope now removed) = removed.1.map (contentHash runtime) := by
  change (removed.1.map (hashOf runtime)).map _ = _
  rw [List.map_map]
  rfl

theorem Plans.accepted (hplans : Plans runtime scope now nowMs policy lines parsed plan) :
    ∀ line ∈ lines, (lineEntry runtime line).isSome = true := by
  intro line hline
  obtain ⟨entry, -, hentry⟩ := hplans.entry_of_line hline
  rw [hentry]
  rfl

/-- A sweep that a plan makes. -/
theorem Plans.retains {text : JsString}
    (hdate : runtime.dateParse now = some nowMs)
    (hplans : Plans runtime scope now nowMs policy (splitLogLines text) parsed plan) :
    Retained runtime policy nowMs text (plan.newText.getD text) plan.summaryEvent := by
  have hnone : plan.removed = [] ↔
      Sweep.removed (isPastLine runtime policy) nowMs (splitLogLines text) = [] := by
    rw [← hplans.removed_lines, List.map_eq_nil_iff]
  by_cases hremoved : plan.removed = []
  · obtain ⟨hnew, hsummary⟩ := hplans.idle hremoved
    have hfresh : Sweep.kept (isPastLine runtime policy) nowMs (splitLogLines text) =
        splitLogLines text := by
      apply Sweep.kept_of_fresh
      intro line hline
      exact Bool.eq_false_iff.mpr (List.filter_eq_nil_iff.mp (hnone.mp hremoved) line hline)
    rw [hnew, hsummary, Option.getD_none]
    exact {
      lines_eq := by rw [hfresh, Option.toList_none, List.map_nil, List.append_nil]
      summary_iff := by simp [hnone.mp hremoved]
      untouched := fun _ => rfl
      written := by rintro _ ⟨⟩
      hashes := by rintro _ ⟨⟩
      summary_terminal := by rintro _ ⟨⟩
      terminal := fun line hline _ _ _ => hline
      accepted := hplans.accepted }
  · obtain ⟨hscope, hnow, hsummary, hnew⟩ := hplans.rewrites hremoved
    rw [hnew, hsummary, Option.getD_some]
    set summary := summaryOf runtime ⟨scope, hscope⟩ ⟨now, hnow⟩ ⟨plan.removed, hremoved⟩
    have hlines := hplans.rewritten (splitLogLines_whole text) summary
    have hsplit := hlines.split
    rw [hplans.kept_lines] at hsplit ⊢
    refine {
      lines_eq := hsplit
      summary_iff := by simpa using mt hnone.mpr hremoved
      untouched := by rintro ⟨⟩
      written := fun _ _ => by rw [hsplit]
      hashes := ?_
      summary_terminal := by rintro _ ⟨⟩; rfl
      terminal := ?_
      accepted := ?_ }
    · intro event hevent
      cases hevent
      rw [summaryHashes_summaryOf, hplans.removed_hashes]
    · intro line hline event hevent hterminal
      rw [hsplit]
      apply List.mem_append_left
      apply List.mem_filter.mpr
      exact ⟨hline, by rw [isPastLine_terminal hevent hterminal]; rfl⟩
    · intro line hline
      rw [hsplit, List.mem_append, List.mem_singleton] at hline
      rcases hline with hline | rfl
      · exact hplans.accepted line (List.mem_filter.mp hline).1
      · rw [lineEntry_eventLine, Option.isSome_map]
        exact hdate ▸ rfl

end Plan

/-! ## Runs -/

variable {fails : FileAsk → Prop} {options : CompactRegistryEventsOptions} {fuel : Nat}

theorem Retained.absent : Retained runtime policy nowMs [] [] none where
  lines_eq := rfl
  summary_iff := by simp [splitLogLines_nil, Sweep.removed]
  untouched := fun _ => rfl
  written := by rintro _ ⟨⟩
  hashes := by rintro _ ⟨⟩
  summary_terminal := by rintro _ ⟨⟩
  terminal := by rintro _ ⟨⟩
  accepted := by rintro _ ⟨⟩

theorem Retained.readable {before after : JsString} {summary : Option GovdispEvent}
    (hretained : Retained runtime policy nowMs before after summary) : Readable after := by
  intro line hline
  obtain ⟨entry, hentry⟩ := Option.isSome_iff_exists.mp (hretained.accepted line hline)
  rw [(@isExpiredLine_of_lineEntry runtime nowMs policy line entry hentry).2.1]
  rfl

/-- A report of a real run, and what the run made of the files. -/
structure Swept (runtime : Runtime) (policy : TtlPolicy) (nowMs : Int) (before : Files)
    (report : RegistryCompactionReport) (after : Files) : Prop where
  real : report.dryRun = false
  dated : runtime.dateParse report.now = some nowMs
  retained : Retained runtime policy nowMs before.text after.text report.summaryEvent
  removedCount_eq : report.removedCount =
    (Sweep.removed (isPastLine runtime policy) nowMs (splitLogLines before.text)).length
  untouched : report.summaryEvent = none → after = before

theorem Plans.removedCount {now : JsString} {lines : List JsString}
    {parsed : List ParsedRegistryLine} {plan : CompactionPlan}
    (hplans : Plans runtime scope now nowMs policy lines parsed plan) :
    plan.removed.length = (Sweep.removed (isPastLine runtime policy) nowMs lines).length := by
  rw [← hplans.removed_lines, List.length_map]

/-- A section that reports a real run swept the log. -/
theorem CompactSpan.swept {before after : Files}
    {outcome : Except Halt (Judged RegistryCompactionReport)}
    (hspan : CompactSpan runtime scope options before outcome after) :
    (∃ report nowMs, outcome = .ok (.ok report) ∧
      Swept runtime options.policy nowMs before report after) ∨
    (Unreported outcome ∧ after.log = before.log) := by
  obtain ⟨path, now, nowMs, hscope, hnow, -, heffect⟩ := hspan
  cases heffect with
  | @rewrote plan newText hplan hnew =>
      obtain ⟨parsed, hplans⟩ := planCompaction_plans hscope hnow hplan
      have hretained := hplans.retains hnow
      rw [hnew] at hretained
      refine .inl ⟨_, nowMs, rfl, rfl, hnow, hretained, hplans.removedCount, fun hnone => ?_⟩
      -- A rewrite has a summary.
      by_cases hremoved : plan.removed = []
      · rw [(hplans.idle hremoved).1] at hnew
        cases hnew
      · obtain ⟨_, _, hsummary, _⟩ := hplans.rewrites hremoved
        exact absurd (hsummary.symm.trans hnone) (Option.some_ne_none _)
  | @kept plan hplan hnew =>
      rcases hplan with hplan | ⟨hlog, rfl⟩
      · obtain ⟨parsed, hplans⟩ := planCompaction_plans hscope hnow hplan
        have hretained := hplans.retains hnow
        rw [hnew] at hretained
        exact .inl ⟨_, nowMs, rfl, rfl, hnow, hretained, hplans.removedCount, fun _ => rfl⟩
      · have htext : before.text = [] := by
          rw [Files.text, hlog]
          rfl
        refine .inl ⟨_, nowMs, rfl, rfl, hnow, ?_, ?_, fun _ => rfl⟩
        · rw [htext]
          exact Retained.absent
        · rw [htext]
          rfl
  | refused rejections => exact .inr ⟨unreported_refused rejections, rfl⟩
  | halted halt temp => exact .inr ⟨unreported_error halt, rfl⟩

theorem CompactSpan.safe {before after : Files}
    {outcome : Except Halt (Judged RegistryCompactionReport)}
    (hspan : CompactSpan runtime scope options before outcome after) :
    isSafeRegistryScope scope = true := by
  obtain ⟨-, -, -, hsafe, -⟩ := hspan
  exact hsafe

/-- On a sound disk the reader of a readable log finds its events. -/
theorem readRegistryEvents_readable {disk : Disk} (hscope : isSafeRegistryScope scope = true)
    (hreadable : Readable disk.shared.text) (base : JsString) {final : Disk}
    {outcome : Except Halt (Judged (List GovdispEvent))} :
    Plays (Responds Sound) (readRegistryEvents runtime scope base).run disk outcome final ↔
      outcome = .ok (.ok (ledger disk.shared.text)) ∧ final = disk := by
  have hevents : eventsOf runtime scope disk.shared.text = .ok (ledger disk.shared.text) := by
    rw [eventsOf, hscope]
    exact readEvents_ledger.mpr ⟨hreadable, rfl⟩
  rw [readRegistryEvents_observes.plays_iff, hevents]

/-- A compaction that reports a real run sweeps the log and leaves it readable; any other
leaves it as it was. -/
theorem compaction_retains {disk after : Disk}
    {outcome : Except Halt (Judged RegistryCompactionReport)}
    (hplays : Plays (Responds fails) (compactRegistryEvents runtime scope options fuel).run disk
      outcome after) :
    (∀ report, outcome = .ok (.ok report) → report.dryRun = false →
      ∃ nowMs, Swept runtime options.policy nowMs disk.shared report after.shared ∧
        ∀ (base : JsString) found final,
          Plays (Responds Sound) (readRegistryEvents runtime scope base).run after found final ↔
            found = .ok (.ok (ledger after.shared.text)) ∧ final = after) ∧
    (Uncommitted outcome → after.shared.log = disk.shared.log) := by
  rcases ((compactRegistryEvents_approaches.ensures disk).sound hplays).2 with
    ⟨hidle, hsame⟩ | hspan
  · constructor
    · intro report hreport hreal
      rw [hidle report hreport] at hreal
      cases hreal
    · intro _
      rw [hsame]
  · rcases hspan.swept with ⟨report, nowMs, rfl, hswept⟩ | ⟨hunreported, hlog⟩
    · constructor
      · intro found hfound _
        cases hfound
        refine ⟨nowMs, hswept, fun base found final => ?_⟩
        exact readRegistryEvents_readable hspan.safe hswept.retained.readable base
      · intro hidle
        have hreal := hswept.real
        rw [hidle report rfl] at hreal
        cases hreal
    · exact ⟨fun report hreport => absurd hreport (hunreported report), fun _ => hlog⟩

theorem compaction_retains_march : ∃ report after,
    Plays (Responds Sound) (compactRegistryEvents marchRuntime (js "wave") marchOptions 1).run
      threeAttemptsDisk (.ok (.ok report)) after ∧
    ∃ nowMs, Swept marchRuntime marchOptions.policy nowMs threeAttemptsDisk.shared report
        after.shared ∧
      ∀ (base : JsString) found final,
        Plays (Responds Sound) (readRegistryEvents marchRuntime (js "wave") base).run after found
          final ↔
          found = .ok (.ok (ledger after.shared.text)) ∧ final = after := by
  obtain ⟨report, hplays, hreal, -⟩ :=
    @march_plays marchRuntime Sound rfl 2 threeAttemptsDisk rfl rfl
  exact ⟨report, _, hplays, (compaction_retains hplays).1 report rfl hreal⟩

end OdinSentinel.Registry
