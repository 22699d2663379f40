import OdinSentinel.Registry.Lines

/-!
# What the compactor can process

On a log of accepted events and of its own summaries the compactor refuses one thing: a
timestamp that is no date.  The schema admits every text that is not empty.
-/

namespace OdinSentinel.Registry

open JsText

variable {runtime : Runtime}

/-- The rejection of a line whose event has no readable instant. -/
def dateRejection (runtime : Runtime) (entry : GovdispEvent × Nat) : Option EventRejection :=
  if (runtime.dateParse entry.1.ts.1).isNone then some (unparseableTs entry.2 entry.1) else none

theorem parseRegistryLine_eventLine (runtime : Runtime) (event : GovdispEvent) (lineNo : Nat) :
    (∃ eventMs, runtime.dateParse event.ts.1 = some eventMs ∧
      parseRegistryLine runtime lineNo (eventLine runtime event) =
        .ok { line := eventLine runtime event, event, eventMs }) ∨
    (runtime.dateParse event.ts.1 = none ∧
      parseRegistryLine runtime lineNo (eventLine runtime event) =
        .error [unparseableTs lineNo event]) := by
  have hparse : Json.parse (eventLine runtime event) = some event.toJson :=
    Json.parse_stringify (plain_toJson event)
  have haccepted : validateGovdispEvent runtime event.toJson = .ok event :=
    validateGovdispEvent_ok_iff.mpr (parseGovdispEvent_toJson event)
  rw [parseRegistryLine]
  simp only [hparse, haccepted]
  cases hdate : runtime.dateParse event.ts.1 with
  | none => exact .inr ⟨rfl, rfl⟩
  | some eventMs => exact .inl ⟨eventMs, rfl, rfl⟩

/-- The pass over a log of events collects the rejections of their timestamps. -/
theorem collect_eventLines (events : List GovdispEvent) (lineNo : Nat) :
    (∃ parsed, collect (parseRegistryLine runtime) lineNo (events.map (eventLine runtime)) =
        .ok parsed ∧ (events.zipIdx lineNo).filterMap (dateRejection runtime) = []) ∨
    (collect (parseRegistryLine runtime) lineNo (events.map (eventLine runtime)) =
        .error ((events.zipIdx lineNo).filterMap (dateRejection runtime)) ∧
      (events.zipIdx lineNo).filterMap (dateRejection runtime) ≠ []) := by
  induction events generalizing lineNo with
  | nil => exact .inl ⟨[], rfl, rfl⟩
  | cons event rest ih =>
      rw [List.map_cons, List.zipIdx_cons, collect]
      rcases parseRegistryLine_eventLine runtime event lineNo with
        ⟨eventMs, hdate, hline⟩ | ⟨hdate, hline⟩
      · have hhead : dateRejection runtime (event, lineNo) = none := by
          simp [dateRejection, hdate]
        rw [hline, List.filterMap_cons_none hhead]
        rcases ih (lineNo + 1) with ⟨parsed, hrest, hnil⟩ | ⟨hrest, hne⟩
        · exact .inl ⟨_, by rw [hrest], hnil⟩
        · exact .inr ⟨by rw [hrest], hne⟩
      · have hhead : dateRejection runtime (event, lineNo) =
            some (unparseableTs lineNo event) := by
          simp [dateRejection, hdate]
        rw [hline, List.filterMap_cons_some hhead]
        rcases ih (lineNo + 1) with ⟨parsed, hrest, hnil⟩ | ⟨hrest, -⟩
        · refine .inr ⟨?_, List.cons_ne_nil _ _⟩
          rw [hrest, hnil]
        · refine .inr ⟨?_, List.cons_ne_nil _ _⟩
          rw [hrest]
          rfl

theorem filterMap_dateRejection_nil_iff (events : List GovdispEvent) (lineNo : Nat) :
    (events.zipIdx lineNo).filterMap (dateRejection runtime) = [] ↔
      ∀ event ∈ events, (runtime.dateParse event.ts.1).isSome = true := by
  induction events generalizing lineNo with
  | nil => simp
  | cons event rest ih =>
      rw [List.zipIdx_cons]
      cases hdate : runtime.dateParse event.ts.1 with
      | none =>
          rw [List.filterMap_cons_some (b := unparseableTs lineNo event)
            (by simp [dateRejection, hdate])]
          simp [hdate]
      | some eventMs =>
          rw [List.filterMap_cons_none (by simp [dateRejection, hdate]), ih]
          simp [hdate]

/-- A compaction of a log of events plans, or it rejects the timestamps that are no dates. -/
theorem planCompaction_dates {scope text now : JsString} {nowMs : Int} {policy : TtlPolicy}
    {events : List GovdispEvent} (hscope : isSafeRegistryScope scope = true)
    (hnow : runtime.dateParse now = some nowMs)
    (hlog : HasLines text (events.map (eventLine runtime))) :
    (∃ plan, planCompaction runtime scope text now nowMs policy = .ok plan ∧
      ∀ event ∈ events, (runtime.dateParse event.ts.1).isSome = true) ∨
    (planCompaction runtime scope text now nowMs policy =
        .error ((events.zipIdx 1).filterMap (dateRejection runtime)) ∧
      ¬∀ event ∈ events, (runtime.dateParse event.ts.1).isSome = true) := by
  rw [← filterMap_dateRejection_nil_iff events 1]
  rcases @collect_eventLines runtime events 1 with ⟨parsed, hcollect, hnil⟩ | ⟨hcollect, hne⟩
  · rw [← hlog.split] at hcollect
    obtain ⟨plan, hplan, -⟩ := @planCompaction_ok runtime scope text now nowMs policy parsed
      (parseLines_ok_iff.mp hcollect) hscope hnow
    exact .inl ⟨plan, hplan, hnil⟩
  · rw [← hlog.split] at hcollect
    refine .inr ⟨?_, hne⟩
    rw [planCompaction]
    rw [hcollect]

/-- For a log of accepted events and summaries and a valid run: the compactor plans exactly
where every timestamp is a date, and otherwise it rejects those that are none. -/
theorem planCompaction_processes {scope text now : JsString} {nowMs : Int} {policy : TtlPolicy}
    {events : List GovdispEvent} (hscope : isSafeRegistryScope scope = true)
    (hnow : runtime.dateParse now = some nowMs)
    (hlog : HasLines text (events.map (eventLine runtime))) :
    ((∃ plan, planCompaction runtime scope text now nowMs policy = .ok plan) ↔
      ∀ event ∈ events, (runtime.dateParse event.ts.1).isSome = true) ∧
    ∀ rejections, planCompaction runtime scope text now nowMs policy = .error rejections →
      rejections = (events.zipIdx 1).filterMap (dateRejection runtime) := by
  rcases @planCompaction_dates runtime scope text now nowMs policy events hscope hnow hlog with
    ⟨plan, hplan, hdated⟩ | ⟨hplan, hundated⟩
  · rw [hplan]
    exact ⟨iff_of_true ⟨plan, rfl⟩ hdated, (by rintro _ ⟨⟩)⟩
  · rw [hplan]
    refine ⟨iff_of_false ?_ hundated, ?_⟩
    · rintro ⟨plan, hok⟩
      cases hok
    · intro rejections hsame
      cases hsame
      rfl

theorem planCompaction_processes_dated :
    ∃ plan, planCompaction (plainRuntime []) (js "wave")
      (joinLines ([crossedBudgetAt newYear].map
        (eventLine (plainRuntime [])))) (js "2026-01-02T00:00:00.000Z") 1767312000000
      { ttlDays := .ofNat 30, overrides := [] } = .ok plan :=
  (planCompaction_processes (by decide) (by decide +kernel) (hasLines_events _)).1.mpr
    (by decide +kernel)

/-- An accepted timestamp that is no date stops the compaction of its scope. -/
theorem yesterday_rejected : ¬∀ (runtime : Runtime) (scope text now : JsString) (nowMs : Int)
    (policy : TtlPolicy) (events : List GovdispEvent), isSafeRegistryScope scope = true →
      runtime.dateParse now = some nowMs → validateTtlPolicy runtime policy = [] →
      HasLines text (events.map (eventLine runtime)) →
      (∀ event ∈ events, validateGovdispEvent runtime event.toJson = .ok event) →
        ∃ plan, planCompaction runtime scope text now nowMs policy = .ok plan := by
  intro hprocesses
  have hnow : (plainRuntime []).dateParse (js "2026-01-02T00:00:00.000Z") = some 1767312000000 := by
    decide +kernel
  have hlog := @hasLines_events (plainRuntime []) [crossedBudgetAt ⟨js "yesterday", by decide⟩]
  obtain ⟨plan, hplan⟩ := hprocesses (plainRuntime []) (js "wave") _
    (js "2026-01-02T00:00:00.000Z") 1767312000000 { ttlDays := .ofNat 30, overrides := [] } _
    (by decide) hnow (by decide +kernel) hlog
    (fun event _ => validateGovdispEvent_ok_iff.mpr (parseGovdispEvent_toJson event))
  rcases @planCompaction_dates (plainRuntime []) (js "wave") _ (js "2026-01-02T00:00:00.000Z")
    1767312000000 { ttlDays := .ofNat 30, overrides := [] } _ (by decide) hnow hlog with
    ⟨_, -, hdated⟩ | ⟨hrejected, -⟩
  · exact absurd (hdated _ List.mem_cons_self) (by decide +kernel)
  · rw [hplan] at hrejected
    cases hrejected

end OdinSentinel.Registry
