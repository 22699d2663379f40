import OdinSentinel.Registry.AppendedEvents

/-!
# The ledger

The events on the lines of a log: what an append and a compaction make of them, and
the verdicts of governance as counts over them.
-/

namespace OdinSentinel.Registry

open JsText Dialogue

variable {runtime : Runtime} {scope base : JsString}

/-! ## The events of a log -/

/-- The events on the lines of a log's text. -/
def ledger (text : JsString) : List GovdispEvent := (splitLogLines text).filterMap lineEvent

/-- Every line is an event. -/
def Readable (text : JsString) : Prop := ∀ line ∈ splitLogLines text, (lineEvent line).isSome = true

/-- Nothing but whole lines, as appends and compactions write them. -/
def Whole (text : JsString) : Prop := ∃ lines, HasLines text lines

theorem map_eq_map_some_iff {Line Value : Type} (reads : Line → Option Value) (lines : List Line)
    (values : List Value) :
    lines.map reads = values.map some ↔
      (∀ line ∈ lines, (reads line).isSome = true) ∧ values = lines.filterMap reads := by
  induction lines generalizing values with
  | nil => simp [List.map_eq_nil_iff]
  | cons line rest ih =>
      cases hline : reads line with
      | none => cases values <;> simp [hline]
      | some value =>
          cases values with
          | nil => simp [hline]
          | cons first others =>
              simp only [List.map_cons, hline, List.cons.injEq, Option.some.injEq, ih,
                List.forall_mem_cons, Option.isSome_some, true_and, List.filterMap_cons_some hline]
              constructor
              · rintro ⟨rfl, hrest, rfl⟩
                exact ⟨hrest, rfl, rfl⟩
              · rintro ⟨hrest, rfl, rfl⟩
                exact ⟨rfl, hrest, rfl⟩

/-- What the reader finds in a log. -/
theorem readEvents_ledger {text : JsString} {events : List GovdispEvent} :
    readEvents runtime text = .ok events ↔ Readable text ∧ events = ledger text := by
  rw [readEvents_ok_iff]
  exact map_eq_map_some_iff lineEvent (splitLogLines text) events

theorem ledger_events (events : List GovdispEvent) :
    ledger (joinLines (events.map (eventLine runtime))) = events := by
  rw [ledger, (hasLines_events events).split]
  exact ((map_eq_map_some_iff lineEvent _ events).mp (map_lineEvent_eventLine events)).2.symm

theorem readable_events (events : List GovdispEvent) :
    Readable (joinLines (events.map (eventLine runtime))) := by
  intro line hline
  rw [(hasLines_events events).split] at hline
  obtain ⟨event, -, rfl⟩ := List.mem_map.mp hline
  rw [lineEvent_eventLine]
  rfl

/-- A disk whose log holds some events. -/
def logDisk (events : List GovdispEvent) : Disk where
  locked := false
  shared := { log := some (joinLines (events.map (eventLine (plainRuntime [])))), temp := none }

theorem readable_logDisk (events : List GovdispEvent) : Readable (logDisk events).shared.text :=
  readable_events events

theorem ledger_logDisk (events : List GovdispEvent) : ledger (logDisk events).shared.text = events :=
  ledger_events events

theorem HasLines.ledger_append {text : JsString} {lines : List JsString}
    (hlines : HasLines text lines) {event : GovdispEvent} {after : JsString}
    (hafter : HasLines after (lines ++ [eventLine runtime event])) :
    ledger after = ledger text ++ [event] := by
  rw [ledger, ledger, hafter.split, hlines.split, List.filterMap_append,
    List.filterMap_cons_some (lineEvent_eventLine event), List.filterMap_nil]

/-- What an append leaves of a whole log. -/
theorem AppendSpan.leaves {event : JsValue} {options : RegistryAppendOptions}
    {before after : Files} {outcome : Except Halt (Judged Appended)}
    (hspan : AppendSpan runtime scope event base options before outcome after)
    (hwhole : Whole before.text) :
    (∃ appended, outcome = .ok (.ok appended) ∧
      validateGovdispEvent runtime event = .ok appended.event ∧ Whole after.text ∧
      ledger after.text = ledger before.text ++ [appended.event] ∧
      (Readable before.text → Readable after.text)) ∨
    (Unreported outcome ∧ after = before) := by
  obtain ⟨lines, hlines⟩ := hwhole
  rcases hspan.lines hlines with ⟨appended, houtcome, hevent, hafter⟩ | hidle
  · refine .inl ⟨appended, houtcome, hevent, ⟨_, hafter⟩, hlines.ledger_append hafter,
      fun hreadable => ?_⟩
    intro line hline
    rw [hafter.split, List.mem_append, List.mem_singleton] at hline
    rcases hline with hline | rfl
    · exact hreadable line (hlines.split ▸ hline)
    · rw [lineEvent_eventLine]
      rfl
  · exact .inr hidle

/-! ## What a compaction leaves -/

/-- Whether a compaction removes an event. -/
def isExpired (runtime : Runtime) (nowMs : Int) (policy : TtlPolicy) (event : GovdispEvent) : Bool :=
  (runtime.dateParse event.ts.1).any fun eventMs =>
    isExpiredLine nowMs policy { line := eventLine runtime event, event, eventMs }

theorem isExpiredLine_of_lineEntry {nowMs : Int} {policy : TtlPolicy} {line : JsString}
    {entry : ParsedRegistryLine} (hentry : lineEntry runtime line = some entry) :
    entry.line = line ∧ lineEvent line = some entry.event ∧
      isExpiredLine nowMs policy entry = isExpired runtime nowMs policy entry.event := by
  obtain ⟨event, hevent, hdated⟩ := Option.bind_eq_some_iff.mp hentry
  obtain ⟨eventMs, hdate, rfl⟩ := Option.map_eq_some_iff.mp hdated
  refine ⟨rfl, hevent, ?_⟩
  rw [isExpired, hdate]
  rfl

theorem filterMap_lineEvent_parsed {nowMs : Int} {policy : TtlPolicy} {lines : List JsString}
    {parsed : List ParsedRegistryLine}
    (hparsed : lines.map (lineEntry runtime) = parsed.map some) :
    ((parsed.filter fun entry => !isExpiredLine nowMs policy entry).map
        ParsedRegistryLine.line).filterMap lineEvent =
      (lines.filterMap lineEvent).filter fun event => !isExpired runtime nowMs policy event := by
  induction lines generalizing parsed with
  | nil =>
      rw [List.map_eq_nil_iff.mp hparsed.symm]
      rfl
  | cons line rest ih =>
      cases parsed with
      | nil => cases hparsed
      | cons entry others =>
          obtain ⟨hentry, hothers⟩ := List.cons.inj hparsed
          obtain ⟨hline, hevent, hexpired⟩ :=
            @isExpiredLine_of_lineEntry runtime nowMs policy line entry hentry
          rw [List.filterMap_cons_some hevent, List.filter_cons, List.filter_cons, hexpired]
          cases isExpired runtime nowMs policy entry.event with
          | true => exact ih hothers
          | false =>
              simp only [Bool.not_false, if_true, List.map_cons]
              rw [List.filterMap_cons_some (hline ▸ hevent), ih hothers]

/-- A record of what a compaction removed. -/
def isSummary (event : GovdispEvent) : Bool :=
  match event.body with
  | .terminal .terminalCompleted _ => true
  | _ => false

/-- What a real compaction leaves of a log: the events that did not expire, and the
summary if there is one. -/
structure Compacted (runtime : Runtime) (nowMs : Int) (policy : TtlPolicy)
    (before after : JsString) : Prop where
  readable : Readable before
  whole_after : Whole after
  readable_after : Readable after
  ledger_eq : ∃ added, (∀ event ∈ added, isSummary event = true) ∧
    ledger after = ((ledger before).filter fun event => !isExpired runtime nowMs policy event) ++
      added

theorem compacted_self {nowMs : Int} {policy : TtlPolicy} {text : JsString}
    (hreadable : Readable text) (hwhole : Whole text)
    (hfresh : ∀ event ∈ ledger text, isExpired runtime nowMs policy event = false) :
    Compacted runtime nowMs policy text text := by
  refine ⟨hreadable, hwhole, hreadable, [], by simp, ?_⟩
  rw [List.append_nil, List.filter_eq_self.mpr]
  intro event hevent
  rw [hfresh event hevent]
  rfl

section Plan

variable {now : JsString} {nowMs : Int} {policy : TtlPolicy} {lines : List JsString}
variable {parsed : List ParsedRegistryLine} {plan : CompactionPlan}

theorem Plans.entry_of_line (hplans : Plans runtime scope now nowMs policy lines parsed plan)
    {line : JsString} (hline : line ∈ lines) :
    ∃ entry ∈ parsed, lineEntry runtime line = some entry := by
  have hmem : lineEntry runtime line ∈ lines.map (lineEntry runtime) := List.mem_map_of_mem hline
  rw [hplans.parsed_eq] at hmem
  obtain ⟨entry, hentry, hsame⟩ := List.mem_map.mp hmem
  exact ⟨entry, hentry, hsame.symm⟩

theorem Plans.line_of_entry (hplans : Plans runtime scope now nowMs policy lines parsed plan)
    {entry : ParsedRegistryLine} (hentry : entry ∈ parsed) :
    entry.line ∈ lines ∧ lineEntry runtime entry.line = some entry := by
  have hmem : some entry ∈ lines.map (lineEntry runtime) := by
    rw [hplans.parsed_eq]
    exact List.mem_map_of_mem hentry
  obtain ⟨line, hline, hsame⟩ := List.mem_map.mp hmem
  obtain rfl := (@isExpiredLine_of_lineEntry runtime nowMs policy line entry hsame).1
  exact ⟨hline, hsame⟩

/-- The lines that were parsed. -/
theorem Plans.parsed_lines (hplans : Plans runtime scope now nowMs policy lines parsed plan) :
    parsed.map ParsedRegistryLine.line = lines := by
  have hread : ∀ (lines : List JsString) (parsed : List ParsedRegistryLine),
      lines.map (lineEntry runtime) = parsed.map some →
        parsed.map ParsedRegistryLine.line = lines := by
    intro lines
    induction lines with
    | nil =>
        intro parsed hparsed
        rw [List.map_eq_nil_iff.mp hparsed.symm]
        rfl
    | cons line rest ih =>
        intro parsed hparsed
        cases parsed with
        | nil => cases hparsed
        | cons entry others =>
            obtain ⟨hentry, hothers⟩ := List.cons.inj hparsed
            rw [List.map_cons, ih others hothers,
              (@isExpiredLine_of_lineEntry runtime nowMs policy line entry hentry).1]
  exact hread lines parsed hplans.parsed_eq

theorem Plans.kept_of_line (hplans : Plans runtime scope now nowMs policy lines parsed plan)
    {line : JsString} (hline : line ∈ plan.keptLines) : line ∈ lines := by
  rw [hplans.kept_eq] at hline
  obtain ⟨entry, hentry, rfl⟩ := List.mem_map.mp hline
  exact (hplans.line_of_entry (List.mem_filter.mp hentry).1).1

theorem Plans.isSome_of_line (hplans : Plans runtime scope now nowMs policy lines parsed plan)
    {line : JsString} (hline : line ∈ lines) : (lineEvent line).isSome = true := by
  obtain ⟨entry, -, hentry⟩ := hplans.entry_of_line hline
  rw [(@isExpiredLine_of_lineEntry runtime nowMs policy line entry hentry).2.1]
  rfl

/-- Where nothing is removed nothing has expired. -/
theorem Plans.fresh (hplans : Plans runtime scope now nowMs policy lines parsed plan)
    (hremoved : plan.removed = []) :
    ∀ event ∈ lines.filterMap lineEvent, isExpired runtime nowMs policy event = false := by
  intro event hevent
  obtain ⟨line, hline, hevent⟩ := List.mem_filterMap.mp hevent
  obtain ⟨entry, hentry, hsame⟩ := hplans.entry_of_line hline
  obtain ⟨-, hline, hexpired⟩ := @isExpiredLine_of_lineEntry runtime nowMs policy line entry hsame
  rw [hline] at hevent
  cases hevent
  rw [← hexpired]
  rw [hplans.removed_eq, List.filter_eq_nil_iff] at hremoved
  exact Bool.eq_false_iff.mpr (hremoved entry hentry)

/-- The lines behind a rewrite. -/
theorem Plans.rewritten (hplans : Plans runtime scope now nowMs policy lines parsed plan)
    (hwhole : ∀ line ∈ lines, (10 : UInt16) ∉ line) (summary : GovdispEvent) :
    HasLines (joinLines (plan.keptLines ++ [eventLine runtime summary]))
      (plan.keptLines ++ [eventLine runtime summary]) := by
  refine ⟨rfl, fun line hline => ?_⟩
  rw [List.mem_append, List.mem_singleton] at hline
  rcases hline with hline | rfl
  · exact hwhole line (hplans.kept_of_line hline)
  · exact eventLine_whole summary

end Plan

/-- The plan of a whole log, told by its events. -/
theorem Plans.compacted {now : JsString} {nowMs : Int} {policy : TtlPolicy} {text : JsString}
    {parsed : List ParsedRegistryLine} {plan : CompactionPlan} (hwhole : Whole text)
    (hplans : Plans runtime scope now nowMs policy (splitLogLines text) parsed plan) :
    Compacted runtime nowMs policy text (plan.newText.getD text) := by
  obtain ⟨lines, hlines⟩ := hwhole
  have hreadable : Readable text := fun line hline => hplans.isSome_of_line hline
  by_cases hremoved : plan.removed = []
  · rw [(hplans.idle hremoved).1]
    exact compacted_self hreadable ⟨lines, hlines⟩ (hplans.fresh hremoved)
  · obtain ⟨hscope, hnow, -, hnew⟩ := hplans.rewrites hremoved
    rw [hnew, Option.getD_some]
    set summary := summaryOf runtime ⟨scope, hscope⟩ ⟨now, hnow⟩ ⟨plan.removed, hremoved⟩
    have hafter := hplans.rewritten (hlines.split ▸ hlines.whole) summary
    refine ⟨hreadable, ⟨_, hafter⟩, ?_, [summary], ?_, ?_⟩
    · intro line hline
      rw [hafter.split, List.mem_append, List.mem_singleton] at hline
      rcases hline with hline | rfl
      · exact hreadable line (hplans.kept_of_line hline)
      · rw [lineEvent_eventLine]
        rfl
    · intro event hevent
      rw [List.mem_singleton.mp hevent]
      rfl
    · have hkept : plan.keptLines.filterMap lineEvent =
          (ledger text).filter fun event => !isExpired runtime nowMs policy event := by
        rw [hplans.kept_eq]
        exact filterMap_lineEvent_parsed hplans.parsed_eq
      rw [ledger, hafter.split, List.filterMap_append, hkept,
        List.filterMap_cons_some (lineEvent_eventLine summary), List.filterMap_nil]

theorem splitLogLines_nil : splitLogLines [] = [] := rfl

/-- What a compaction leaves of a whole log. -/
theorem CompactSpan.leaves {options : CompactRegistryEventsOptions} {before after : Files}
    {outcome : Except Halt (Judged RegistryCompactionReport)}
    (hspan : CompactSpan runtime scope options before outcome after)
    (hwhole : Whole before.text) :
    (∃ report nowMs, outcome = .ok (.ok report) ∧ runtime.dateParse report.now = some nowMs ∧
      Compacted runtime nowMs options.policy before.text after.text) ∨
    (Unreported outcome ∧ after.log = before.log) := by
  obtain ⟨path, now, nowMs, hscope, hnow, -, heffect⟩ := hspan
  cases heffect with
  | @rewrote plan newText hplan hnew =>
      obtain ⟨parsed, hplans⟩ := planCompaction_plans hscope hnow hplan
      have hcompacted := hplans.compacted hwhole
      rw [hnew] at hcompacted
      exact .inl ⟨_, nowMs, rfl, hnow, hcompacted⟩
  | @kept plan hplan hnew =>
      refine .inl ⟨_, nowMs, rfl, hnow, ?_⟩
      rcases hplan with hplan | ⟨hlog, -⟩
      · obtain ⟨parsed, hplans⟩ := planCompaction_plans hscope hnow hplan
        have hcompacted := hplans.compacted hwhole
        rw [hnew] at hcompacted
        exact hcompacted
      · have htext : before.text = [] := by
          rw [Files.text, hlog]
          rfl
        rw [htext]
        apply compacted_self
        · intro line hline
          cases hline
        · exact ⟨[], hasLines_nil⟩
        · intro event hevent
          cases hevent
  | refused rejections => exact .inr ⟨unreported_refused rejections, rfl⟩
  | halted halt temp => exact .inr ⟨unreported_error halt, rfl⟩

/-! ## Changes of a log -/

/-- One change of a log: none, an event that may stand behind those before it, or a
compaction. -/
inductive LedgerStep (runtime : Runtime) (may : List GovdispEvent → GovdispEvent → Prop)
    (before after : JsString) : Prop
  | kept (hsame : after = before)
  | appended (event : GovdispEvent) (hwhole : Whole after)
      (hledger : ledger after = ledger before ++ [event]) (hmay : may (ledger before) event)
  | compacted (nowMs : Int) (policy : TtlPolicy)
      (hcompacted : Compacted runtime nowMs policy before after)

section Steps

variable {may : List GovdispEvent → GovdispEvent → Prop} {before after : Files}

theorem LedgerStep.whole {before after : JsString} (hstep : LedgerStep runtime may before after)
    (hwhole : Whole before) : Whole after := by
  cases hstep with
  | kept hsame => exact hsame ▸ hwhole
  | appended event hafter _ _ => exact hafter
  | compacted nowMs policy hcompacted => exact hcompacted.whole_after

theorem AppendSpan.step {value : JsValue} {options : RegistryAppendOptions}
    {outcome : Except Halt (Judged Appended)}
    (hspan : AppendSpan runtime scope value base options before outcome after)
    (hwhole : Whole before.text)
    (hmay : ∀ event, validateGovdispEvent runtime value = .ok event →
      may (ledger before.text) event) : LedgerStep runtime may before.text after.text := by
  rcases hspan.leaves hwhole with ⟨appended, -, hevent, hafter, hledger, -⟩ | ⟨-, rfl⟩
  · exact .appended appended.event hafter hledger (hmay appended.event hevent)
  · exact .kept rfl

theorem CompactSpan.step {options : CompactRegistryEventsOptions}
    {outcome : Except Halt (Judged RegistryCompactionReport)}
    (hspan : CompactSpan runtime scope options before outcome after)
    (hwhole : Whole before.text) : LedgerStep runtime may before.text after.text := by
  rcases hspan.leaves hwhole with ⟨report, nowMs, -, -, hcompacted⟩ | ⟨-, hlog⟩
  · exact .compacted nowMs options.policy hcompacted
  · exact .kept (by rw [Files.text, hlog, Files.text])

end Steps

end OdinSentinel.Registry
