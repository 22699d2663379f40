import OdinSentinel.Registry.Compact

/-!
# The lines of a log

A log that only appends and compactions have written is a sequence of lines, each ended
by a newline.  What the readers and the compactor make of its text is told line by line.
-/

namespace OdinSentinel.Registry

open JsText

variable {runtime : Runtime}

/-! ## Text and lines -/

/-- Lines, each ended by a newline. -/
def joinLines (lines : List JsString) : JsString := lines.flatMap (· ++ [10])

/-- The text of whole lines. -/
structure HasLines (text : JsString) (lines : List JsString) : Prop where
  text_eq : text = joinLines lines
  whole : ∀ line ∈ lines, (10 : UInt16) ∉ line

theorem hasLines_nil : HasLines [] [] := ⟨rfl, by simp⟩

theorem HasLines.append {text : JsString} {lines : List JsString} (hlines : HasLines text lines)
    {line : JsString} (hline : (10 : UInt16) ∉ line) :
    HasLines (text ++ (line ++ [10])) (lines ++ [line]) := by
  constructor
  · rw [hlines.text_eq, joinLines, joinLines, List.flatMap_append]
    simp
  · intro other hother
    rcases List.mem_append.mp hother with hother | hother
    · exact hlines.whole other hother
    · rw [List.mem_singleton.mp hother]
      exact hline

theorem splitOn_joinLines {lines : List JsString} (hwhole : ∀ line ∈ lines, (10 : UInt16) ∉ line) :
    (joinLines lines).splitOn 10 = lines ++ [[]] := by
  induction lines with
  | nil => rfl
  | cons line rest ih =>
      have hjoin : joinLines (line :: rest) = line ++ 10 :: joinLines rest := by
        simp [joinLines]
      rw [hjoin, List.splitOn_append_cons_self,
        List.splitOn_eq_singleton (hwhole line List.mem_cons_self),
        ih fun other hother => hwhole other (List.mem_cons_of_mem line hother)]
      rfl

/-- The reader finds the lines. -/
theorem HasLines.split {text : JsString} {lines : List JsString} (hlines : HasLines text lines) :
    splitLogLines text = lines := by
  rw [splitLogLines, hlines.text_eq]
  simp only [splitOn_joinLines hlines.whole]
  simp

/-! ## Events of lines -/

/-- The event on a line. -/
def lineEvent (line : JsString) : Option GovdispEvent :=
  (Json.parse line).bind parseGovdispEvent

theorem isPlainObject_of_parse {value : JsValue} {event : GovdispEvent}
    (hevent : parseGovdispEvent value = some event) : isPlainObject value = true := by
  cases value with
  | object fields => rfl
  | _ => cases hevent

theorem validateGovdispEvent_ok_iff {value : JsValue} {event : GovdispEvent} :
    validateGovdispEvent runtime value = .ok event ↔ parseGovdispEvent value = some event := by
  rw [validateGovdispEvent]
  cases hparse : parseGovdispEvent value with
  | none =>
      dsimp only
      split <;> simp
  | some parsed => simp [isPlainObject_of_parse hparse]

theorem readLine_ok_iff {lineNo : Nat} {line : JsString} {event : GovdispEvent} :
    readLine runtime lineNo line = .ok event ↔ lineEvent line = some event := by
  unfold readLine lineEvent
  cases Json.parse line with
  | none => simp
  | some value =>
      rw [Option.bind_some, ← @validateGovdispEvent_ok_iff runtime]
      dsimp only
      cases validateGovdispEvent runtime value <;> simp

/-- A pass over numbered lines succeeds exactly where each line is read. -/
theorem collect_ok_iff {Value : Type} {read : Nat → JsString → Judged Value}
    {reads : JsString → Option Value}
    (hread : ∀ lineNo line value, read lineNo line = .ok value ↔ reads line = some value)
    (lines : List JsString) (lineNo : Nat) (values : List Value) :
    collect read lineNo lines = .ok values ↔ lines.map reads = values.map some := by
  induction lines generalizing lineNo values with
  | nil => cases values <;> simp [collect]
  | cons line rest ih =>
      rw [collect]
      cases hline : read lineNo line with
      | ok value =>
          have hvalue := (hread lineNo line value).mp hline
          cases hrest : collect read (lineNo + 1) rest with
          | ok others =>
              have hothers := (ih (lineNo + 1) others).mp hrest
              simp only [List.map_cons, hvalue, hothers]
              constructor
              · intro hvalues
                cases hvalues
                rfl
              · intro hvalues
                have hinjective := (Option.some_injective Value).list_map
                rw [← List.map_cons] at hvalues
                rw [hinjective hvalues]
          | error rejections =>
              dsimp only
              constructor
              · rintro ⟨⟩
              · intro hvalues
                cases values with
                | nil => cases hvalues
                | cons first others =>
                    have htail := (List.cons.inj hvalues).2
                    rw [(ih (lineNo + 1) others).mpr htail] at hrest
                    cases hrest
      | error first =>
          have hnone : reads line ≠ none → False := by
            intro hsome
            obtain ⟨value, hvalue⟩ := Option.ne_none_iff_exists'.mp hsome
            rw [(hread lineNo line value).mpr hvalue] at hline
            cases hline
          constructor
          · intro hvalues
            cases hrest : collect read (lineNo + 1) rest <;> simp [hrest] at hvalues
          · intro hvalues
            cases values with
            | nil => cases hvalues
            | cons value others =>
                have hhead := (List.cons.inj hvalues).1
                exact (hnone (by rw [hhead]; simp)).elim

/-- What a reader of the log finds. -/
theorem readEvents_ok_iff {text : JsString} {events : List GovdispEvent} :
    readEvents runtime text = .ok events ↔
      (splitLogLines text).map lineEvent = events.map some := by
  have hread : ∀ lineNo line event,
      readLine runtime lineNo line = .ok event ↔ lineEvent line = some event :=
    fun _ _ _ => readLine_ok_iff
  exact collect_ok_iff hread (splitLogLines text) 1 events

/-! ## Lines of events -/

theorem eventLine_whole (event : GovdispEvent) : (10 : UInt16) ∉ eventLine runtime event :=
  Json.stringify_ne_newline event.toJson (plain_toJson event)

/-- The line of an event reads back as the event. -/
theorem lineEvent_eventLine (event : GovdispEvent) :
    lineEvent (eventLine runtime event) = some event := by
  rw [lineEvent, eventLine, Json.parse_stringify (plain_toJson event), Option.bind_some]
  exact parseGovdispEvent_toJson event

/-- The text of a log of events. -/
theorem hasLines_events (events : List GovdispEvent) :
    HasLines (joinLines (events.map (eventLine runtime))) (events.map (eventLine runtime)) := by
  refine ⟨rfl, fun line hline => ?_⟩
  obtain ⟨event, -, rfl⟩ := List.mem_map.mp hline
  exact eventLine_whole event

/-! ## The plan of a compaction -/

/-- A line with the instant of its event. -/
def lineEntry (runtime : Runtime) (line : JsString) : Option ParsedRegistryLine :=
  (lineEvent line).bind fun event =>
    (runtime.dateParse event.ts.1).map fun eventMs => { line, event, eventMs }

/-- The entry of an event's own line. -/
theorem lineEntry_eventLine (event : GovdispEvent) :
    lineEntry runtime (eventLine runtime event) =
      (runtime.dateParse event.ts.1).map fun eventMs =>
        { line := eventLine runtime event, event, eventMs } := by
  rw [lineEntry, lineEvent_eventLine, Option.bind_some]

theorem parseRegistryLine_ok_iff {lineNo : Nat} {line : JsString} {entry : ParsedRegistryLine} :
    parseRegistryLine runtime lineNo line = .ok entry ↔ lineEntry runtime line = some entry := by
  unfold parseRegistryLine lineEntry lineEvent
  cases Json.parse line with
  | none => simp
  | some value =>
      rw [Option.bind_some]
      dsimp only
      cases hevent : validateGovdispEvent runtime value with
      | error rejections =>
          have hnone : parseGovdispEvent value = none := by
            by_contra hsome
            obtain ⟨event, hevent'⟩ := Option.ne_none_iff_exists'.mp hsome
            rw [validateGovdispEvent_ok_iff.mpr hevent'] at hevent
            cases hevent
          simp [hnone]
      | ok event =>
          rw [validateGovdispEvent_ok_iff.mp hevent, Option.bind_some]
          dsimp only
          cases runtime.dateParse event.ts.1 <;> simp

theorem parseLines_ok_iff {lines : List JsString} {parsed : List ParsedRegistryLine} :
    collect (parseRegistryLine runtime) 1 lines = .ok parsed ↔
      lines.map (lineEntry runtime) = parsed.map some := by
  have hread : ∀ lineNo line entry, parseRegistryLine runtime lineNo line = .ok entry ↔
      lineEntry runtime line = some entry := fun _ _ _ => parseRegistryLine_ok_iff
  exact collect_ok_iff hread lines 1 parsed

/-- The entry of an accepted hash. -/
def hashOf (runtime : Runtime) (entry : ParsedRegistryLine) : ContentHash where
  path := entry.event.eventId
  sha256 := ⟨runtime.sha256 entry.line, List.ne_nil_of_length_pos
    (by rw [runtime.sha256_length]; decide)⟩

/-- The text that names the removed lines in the summary's id. -/
def chainOf (runtime : Runtime) (removed : List ParsedRegistryLine) : JsString :=
  hashRegistryEventLine runtime
    (List.intercalate (js "\n") ((removed.map (contentHash runtime)).map
      fun hash => hash.1 ++ js ":" ++ hash.2))

/-- The summary as an event. -/
def summaryOf (runtime : Runtime) (scope now : NonEmptyText)
    (removed : { removed : List ParsedRegistryLine // removed ≠ [] }) : GovdispEvent where
  eventId := ⟨js "evt-compaction-" ++ (chainOf runtime removed.1).take 24,
    List.append_ne_nil_of_left_ne_nil (by decide) _⟩
  ts := now
  stableObjectiveId := scope
  actorRole := none
  body := .terminal .terminalCompleted
    ⟨removed.1.map (hashOf runtime), by simp [removed.2]⟩

/-- The summary that the plan writes is the object of that event. -/
theorem summaryValue_eq (scope now : NonEmptyText)
    (removed : { removed : List ParsedRegistryLine // removed ≠ [] }) :
    summaryValue runtime scope.1 now.1 removed.1 =
      (summaryOf runtime scope now removed).toJson := by
  have hhashes : (removed.1.map (contentHash runtime)).map (fun hash =>
      JsValue.object [(js "path", .string hash.1), (js "sha256", .string hash.2)]) =
      (removed.1.map (hashOf runtime)).map ContentHash.toJson := by
    rw [List.map_map, List.map_map]
    rfl
  rw [summaryValue, hhashes]
  rfl

/-- The lines that a compaction removes and keeps, and what it writes. -/
structure Plans (runtime : Runtime) (scope now : JsString) (nowMs : Int) (policy : TtlPolicy)
    (lines : List JsString) (parsed : List ParsedRegistryLine) (plan : CompactionPlan) : Prop where
  parsed_eq : lines.map (lineEntry runtime) = parsed.map some
  removed_eq : plan.removed = parsed.filter (isExpiredLine nowMs policy)
  kept_eq : plan.keptLines =
    (parsed.filter fun entry => !isExpiredLine nowMs policy entry).map ParsedRegistryLine.line
  idle : plan.removed = [] → plan.newText = none ∧ plan.summaryEvent = none
  rewrites : ∀ hremoved : plan.removed ≠ [], ∃ (hscope : scope ≠ []) (hnow : now ≠ []),
    let summary := summaryOf runtime ⟨scope, hscope⟩ ⟨now, hnow⟩ ⟨plan.removed, hremoved⟩
    plan.summaryEvent = some summary ∧
      plan.newText = some (joinLines (plan.keptLines ++ [eventLine runtime summary]))

theorem intercalate_newline (lines : List JsString) (last : JsString) :
    List.intercalate (js "\n") (lines ++ [last]) ++ js "\n" = joinLines (lines ++ [last]) := by
  have hnewline : js "\n" = [10] := by decide
  rw [hnewline]
  induction lines with
  | nil => simp [joinLines, List.intercalate]
  | cons line rest ih =>
      have hjoin : joinLines (line :: rest ++ [last]) = line ++ 10 :: joinLines (rest ++ [last]) := by
        simp [joinLines]
      rw [hjoin, ← ih]
      cases rest with
      | nil => simp [List.intercalate]
      | cons next others => simp [List.intercalate]

/-- The compactor plans for a log exactly where it can read every line. -/
theorem planCompaction_ok {scope text now : JsString} {nowMs : Int} {policy : TtlPolicy}
    {parsed : List ParsedRegistryLine}
    (hparsed : (splitLogLines text).map (lineEntry runtime) = parsed.map some)
    (hsafe : isSafeRegistryScope scope = true) (hdate : runtime.dateParse now = some nowMs) :
    ∃ plan, planCompaction runtime scope text now nowMs policy = .ok plan ∧
      Plans runtime scope now nowMs policy (splitLogLines text) parsed plan := by
  have hscope : scope ≠ [] := by
    rintro rfl
    cases hsafe
  have hnow : now ≠ [] := by
    rintro rfl
    rw [runtime.dateParse_nil] at hdate
    cases hdate
  rw [planCompaction]
  rw [parseLines_ok_iff.mpr hparsed]
  dsimp only
  by_cases hremoved : parsed.filter (isExpiredLine nowMs policy) = []
  · rw [if_pos hremoved]
    refine ⟨_, rfl, hparsed, rfl, rfl, fun _ => ⟨rfl, rfl⟩, fun hnot => ?_⟩
    exact absurd hremoved hnot
  · have hsummary := @summaryValue_eq runtime ⟨scope, hscope⟩ ⟨now, hnow⟩
      ⟨_, hremoved⟩
    rw [if_neg hremoved, hsummary,
      validateGovdispEvent_ok_iff.mpr (parseGovdispEvent_toJson _)]
    refine ⟨_, rfl, hparsed, rfl, rfl, fun hnot => absurd hnot hremoved, fun _ => ?_⟩
    refine ⟨hscope, hnow, rfl, ?_⟩
    rw [← intercalate_newline]
    rfl

theorem planCompaction_plans {scope text now : JsString} {nowMs : Int} {policy : TtlPolicy}
    {plan : CompactionPlan} (hsafe : isSafeRegistryScope scope = true)
    (hdate : runtime.dateParse now = some nowMs)
    (hplan : planCompaction runtime scope text now nowMs policy = .ok plan) :
    ∃ parsed, Plans runtime scope now nowMs policy (splitLogLines text) parsed plan := by
  cases hparse : collect (parseRegistryLine runtime) 1 (splitLogLines text) with
  | error rejections =>
      rw [planCompaction] at hplan
      rw [hparse] at hplan
      cases hplan
  | ok parsed =>
      obtain ⟨planned, hplanned, hplans⟩ := @planCompaction_ok runtime scope text now nowMs policy
        parsed (parseLines_ok_iff.mp hparse) hsafe hdate
      rw [hplan] at hplanned
      cases hplanned
      exact ⟨parsed, hplans⟩

/-! ## Events of one objective -/

def firstObjective : NonEmptyText := ⟨js "T-1", by decide⟩

/-- A text that is one blank. -/
def blankText : NonEmptyText := ⟨js " ", by decide⟩

def newYear : NonEmptyText := ⟨js "2026-01-01T00:00:00.000Z", by decide⟩

/-- A crossed time budget. -/
def crossedBudgetAt (ts : NonEmptyText) : GovdispEvent where
  eventId := ⟨js "evt-1", by decide⟩
  ts := ts
  stableObjectiveId := firstObjective
  actorRole := none
  body := .budget .budgetCrossed .time

/-- The terminal event of an objective. -/
def blockedObjective (objective : NonEmptyText) : GovdispEvent where
  eventId := ⟨js "evt-terminal", by decide⟩
  ts := newYear
  stableObjectiveId := objective
  actorRole := none
  body := .terminal .terminalBlocked
    ⟨[{ path := ⟨js "proof.md", by decide⟩, sha256 := ⟨js "00", by decide⟩ }], by decide⟩

/-- An attempt at an objective on the second of January. -/
def startedAttempt (objective : NonEmptyText) : GovdispEvent where
  eventId := ⟨js "evt-attempt", by decide⟩
  ts := ⟨js "2026-01-02T00:00:00.000Z", by decide⟩
  stableObjectiveId := objective
  actorRole := none
  body := .attempt .attemptStarted none none

end OdinSentinel.Registry
