import OdinSentinel.Registry.Ledger

/-!
# Verdicts as counts

What the derivations of governance find, told by the events of the log: a tally is how
many events of an objective are of one kind.
-/

namespace OdinSentinel.Registry

open JsText Dialogue

variable {runtime : Runtime} {scope base objective : JsString}

/-! ## Arguments -/

theorem isSpace_of_isAlphanumeric {unit : UInt16} (hunit : isAlphanumeric unit = true) :
    isSpace unit = false := by
  simp only [isAlphanumeric, isDigit, isUpper, isLower, Bool.or_eq_true, Bool.and_eq_true,
    decide_eq_true_eq] at hunit
  simp only [isSpace, isSpaceCode, Bool.or_eq_false_iff, Bool.and_eq_false_iff,
    decide_eq_false_iff_not, beq_eq_false_iff_ne]
  omega

theorem trim_ne_nil_of_safe (hsafe : isSafeRegistryScope scope = true) : trim scope ≠ [] := by
  cases scope with
  | nil => cases hsafe
  | cons first rest =>
      intro hblank
      have hspace := (trim_eq_nil_iff _).mp hblank first List.mem_cons_self
      simp only [isSafeRegistryScope, Bool.and_eq_true] at hsafe
      rw [isSpace_of_isAlphanumeric hsafe.1.2] at hspace
      cases hspace

theorem argumentFault_eq_none_iff (hsafe : isSafeRegistryScope scope = true) :
    argumentFault scope objective = none ↔ trim objective ≠ [] := by
  rw [argumentFault, requireRegistryScope, if_neg (trim_ne_nil_of_safe hsafe),
    Option.none_or, requireStableObjectiveId]
  by_cases hblank : trim objective = []
  · simp [hblank]
  · simp [hblank]

/-! ## Derivations -/

/-- A derivation succeeds on a safe scope, an objective that is not blank and a readable
log, and counts the events that its query matches. -/
theorem deriveOf_ok_iff {Accounting : Type} {query : JsValue}
    {account : List GovdispEvent → Accounting} {text : JsString} {accounting : Accounting}
    (hquery : trim objective ≠ [] → validateRegistryEventQuery query = []) :
    deriveOf runtime scope objective query account text = .ok accounting ↔
      isSafeRegistryScope scope = true ∧ trim objective ≠ [] ∧ Readable text ∧
        accounting = account ((ledger text).filter (matchesQuery query)) := by
  rw [deriveOf]
  cases hsafe : isSafeRegistryScope scope with
  | false =>
      simp only [Bool.false_eq_true, false_and, iff_false]
      cases argumentFault scope objective with
      | some fault => simp
      | none =>
          rw [queryOf]
          cases validateRegistryEventQuery query with
          | cons rejection rejections => simp [Except.map]
          | nil => simp [eventsOf, hsafe, queryEvents, Except.map]
  | true =>
      by_cases hblank : trim objective = []
      · cases hfault : argumentFault scope objective with
        | some fault => simp [hblank]
        | none => exact absurd hblank ((argumentFault_eq_none_iff hsafe).mp hfault)
      · rw [(argumentFault_eq_none_iff hsafe).mpr hblank]
        simp only [queryOf, hquery hblank, eventsOf, hsafe, Bool.not_true, Bool.false_eq_true,
          if_false, queryEvents]
        cases hread : readEvents runtime text with
        | error rejections =>
            have hunreadable : ¬Readable text := by
              intro hreadable
              rw [readEvents_ledger.mpr ⟨hreadable, rfl⟩] at hread
              cases hread
            simp [Except.map, hunreadable]
        | ok events =>
            obtain ⟨hreadable, rfl⟩ := readEvents_ledger.mp hread
            simp [Except.map, hblank, hreadable, eq_comm]

theorem validateRegistryEventQuery_eq_nil {fields : List (JsString × JsValue)}
    (hknown : (fields.map Prod.fst).filter (fun key => !queryFields.contains key) = [])
    (hobjective : refusesFilter isNotBlank
      (JsValue.field (.object fields) (js "stable_objective_id")) = false)
    (hclass : refusesFilter govdispEventClasses.contains
      (JsValue.field (.object fields) (js "event_class")) = false)
    (htype : refusesFilter govdispEventTypes.contains
      (JsValue.field (.object fields) (js "event_type")) = false)
    (hfrom : refusesFilter isNotBlank (JsValue.field (.object fields) (js "from_ts")) = false)
    (hto : refusesFilter isNotBlank (JsValue.field (.object fields) (js "to_ts")) = false) :
    validateRegistryEventQuery (.object fields) = [] := by
  rw [validateRegistryEventQuery.eq_def]
  simp only [hknown, hobjective, hclass, htype, hfrom, hto, List.flatMap_cons, List.flatMap_nil]
  rfl

theorem accepted_of_not_blank (hobjective : trim objective ≠ []) :
    refusesFilter isNotBlank (.string objective) = false := by
  simpa [refusesFilter, isNotBlank] using hobjective

theorem overheadQuery_valid (hobjective : trim objective ≠ []) :
    validateRegistryEventQuery (overheadQuery objective) = [] :=
  validateRegistryEventQuery_eq_nil rfl (accepted_of_not_blank hobjective) rfl rfl rfl rfl

theorem attemptQuery_valid (hobjective : trim objective ≠ []) :
    validateRegistryEventQuery (attemptQuery objective) = [] :=
  validateRegistryEventQuery_eq_nil rfl (accepted_of_not_blank hobjective) rfl rfl rfl rfl

theorem matchesQuery_overheadQuery (event : GovdispEvent) :
    matchesQuery (overheadQuery objective) event = (objective == event.stableObjectiveId.1) := by
  have hmatch : matchesQuery (overheadQuery objective) event =
      ((objective == event.stableObjectiveId.1) && true && true && true && true) := rfl
  simp [hmatch]

theorem matchesQuery_attemptQuery (event : GovdispEvent) :
    matchesQuery (attemptQuery objective) event =
      (objective == event.stableObjectiveId.1 && js "ATTEMPT" == Spelled.text event.eventClass) := by
  have hmatch : matchesQuery (attemptQuery objective) event =
      ((objective == event.stableObjectiveId.1) && (js "ATTEMPT" == Spelled.text event.eventClass) &&
        true && true && true) := rfl
  simp [hmatch]

/-! ## Tallies -/

/-- How many events of an objective are of a kind. -/
def tally (kind : GovdispEvent → Bool) (objective : JsString) (events : List GovdispEvent) : Nat :=
  events.countP fun event => objective == event.stableObjectiveId.1 && kind event

@[simp]
theorem tally_append (kind : GovdispEvent → Bool) (objective : JsString)
    (events others : List GovdispEvent) :
    tally kind objective (events ++ others) =
      tally kind objective events + tally kind objective others :=
  List.countP_append

theorem countP_filter_overheadQuery (kind : GovdispEvent → Bool) (events : List GovdispEvent) :
    (events.filter (matchesQuery (overheadQuery objective))).countP kind =
      tally kind objective events := by
  rw [List.countP_filter, tally]
  apply List.countP_congr
  intro event _
  rw [matchesQuery_overheadQuery, Bool.and_comm]

theorem countP_filter_attemptQuery (events : List GovdispEvent) :
    (events.filter (matchesQuery (attemptQuery objective))).countP isAttemptIncrement =
      tally isAttemptIncrement objective events := by
  rw [List.countP_filter, tally]
  apply List.countP_congr
  intro event _
  rw [matchesQuery_attemptQuery]
  by_cases hkind : isAttemptIncrement event = true
  · have hclass : event.eventClass = .attempt := by
      rw [isAttemptIncrement] at hkind
      rw [GovdispEvent.eventClass]
      cases hbody : event.body with
      | attempt eventType attemptIndex trigger => rfl
      | _ =>
          rw [hbody] at hkind
          cases hkind
    have htext : (js "ATTEMPT" == Spelled.text event.eventClass) = true := by
      rw [hclass]
      rfl
    simp [hkind, htext]
  · simp [hkind]

theorem tally_eq_zero {kind : GovdispEvent → Bool} {events : List GovdispEvent}
    (hkind : ∀ event ∈ events, kind event = false) : tally kind objective events = 0 := by
  rw [tally, List.countP_eq_zero]
  intro event hevent
  simp [hkind event hevent]

/-- A compaction leaves of a kind what has not expired. -/
theorem Compacted.tally_eq {nowMs : Int} {policy : TtlPolicy} {before after : JsString}
    {kind : GovdispEvent → Bool} (hcompacted : Compacted runtime nowMs policy before after)
    (hkind : ∀ event, isSummary event = true → kind event = false) :
    tally kind objective (ledger after) =
      tally (fun event => kind event && !isExpired runtime nowMs policy event) objective
        (ledger before) := by
  obtain ⟨added, hadded, hledger⟩ := hcompacted.ledger_eq
  rw [hledger, tally_append, tally_eq_zero fun event hevent => hkind event (hadded event hevent),
    Nat.add_zero, tally, tally, List.countP_filter]
  simp only [Bool.and_assoc]

/-- No terminal event expires. -/
theorem isExpired_of_terminal {nowMs : Int} {policy : TtlPolicy} {event : GovdispEvent}
    (hclass : event.eventClass = .terminal) : isExpired runtime nowMs policy event = false := by
  rw [isExpired]
  cases runtime.dateParse event.ts.1 with
  | none => rfl
  | some eventMs =>
      rw [Option.any_some, isExpiredLine]
      exact if_pos hclass

theorem eventClass_of_isTerminalBlocked {event : GovdispEvent}
    (hblocked : isTerminalBlocked event = true) : event.eventClass = .terminal := by
  rw [isTerminalBlocked] at hblocked
  rw [GovdispEvent.eventClass]
  cases hbody : event.body with
  | terminal eventType contentHashes => rfl
  | _ =>
      rw [hbody] at hblocked
      cases hblocked

theorem isTerminalBlocked_of_isSummary {event : GovdispEvent} (hsummary : isSummary event = true) :
    isTerminalBlocked event = false := by
  rw [isSummary] at hsummary
  rw [isTerminalBlocked]
  cases hbody : event.body with
  | terminal eventType contentHashes =>
      rw [hbody] at hsummary
      cases eventType with
      | terminalBlocked => cases hsummary
      | terminalCompleted => rfl
  | _ => rfl

/-- A compaction leaves every terminal event. -/
theorem Compacted.tally_terminal {nowMs : Int} {policy : TtlPolicy} {before after : JsString}
    (hcompacted : Compacted runtime nowMs policy before after) :
    tally isTerminalBlocked objective (ledger after) =
      tally isTerminalBlocked objective (ledger before) := by
  rw [hcompacted.tally_eq fun event => isTerminalBlocked_of_isSummary]
  congr 1
  funext event
  cases hblocked : isTerminalBlocked event with
  | false => rfl
  | true => rw [isExpired_of_terminal (eventClass_of_isTerminalBlocked hblocked)]; rfl

theorem Compacted.terminal_mem {nowMs : Int} {policy : TtlPolicy} {before after : JsString}
    (hcompacted : Compacted runtime nowMs policy before after) {event : GovdispEvent}
    (hevent : event ∈ ledger before) (hblocked : isTerminalBlocked event = true) :
    event ∈ ledger after := by
  obtain ⟨added, -, hledger⟩ := hcompacted.ledger_eq
  rw [hledger, List.mem_append, List.mem_filter]
  refine .inl ⟨hevent, ?_⟩
  rw [isExpired_of_terminal (eventClass_of_isTerminalBlocked hblocked)]
  rfl

/-! ## Verdicts -/

/-- What an evaluation of the ceiling finds in a log's text. -/
def attemptVerdictOf (runtime : Runtime) (scope objective trigger text : JsString) :
    Judged AttemptVerdict :=
  (deriveOf runtime scope objective (attemptQuery objective) (attemptAccounting objective) text).map
    (attemptVerdict trigger)

theorem evaluateAttemptCeiling_observes (trigger : JsString) :
    Observes (evaluateAttemptCeiling runtime scope objective trigger base)
      (attemptVerdictOf runtime scope objective trigger) :=
  (derive_observes objective (attemptQuery objective) (attemptAccounting objective)).map _

/-- What an evaluation of the budget finds in a log's text. -/
def overheadVerdictOf (runtime : Runtime) (scope objective text : JsString) :
    Judged OverheadVerdict :=
  (deriveOf runtime scope objective (overheadQuery objective) (overheadAccounting objective)
    text).map overheadVerdict

theorem evaluateOverheadBudget_observes :
    Observes (evaluateOverheadBudget runtime scope objective base)
      (overheadVerdictOf runtime scope objective) :=
  (derive_observes objective (overheadQuery objective) (overheadAccounting objective)).map _

/-- A log of a scope that can be asked about an objective. -/
structure Askable (scope objective text : JsString) : Prop where
  safe : isSafeRegistryScope scope = true
  named : trim objective ≠ []
  readable : Readable text

theorem deriveOf_attempt_iff {text : JsString} {accounting : AttemptAccounting} :
    deriveOf runtime scope objective (attemptQuery objective) (attemptAccounting objective) text =
        .ok accounting ↔
      Askable scope objective text ∧ accounting =
        attemptAccounting objective ((ledger text).filter (matchesQuery (attemptQuery objective))) := by
  rw [deriveOf_ok_iff attemptQuery_valid]
  constructor
  · rintro ⟨hsafe, hnamed, hreadable, haccounting⟩
    exact ⟨⟨hsafe, hnamed, hreadable⟩, haccounting⟩
  · rintro ⟨⟨hsafe, hnamed, hreadable⟩, haccounting⟩
    exact ⟨hsafe, hnamed, hreadable, haccounting⟩

theorem deriveOf_overhead_iff {text : JsString} {accounting : OverheadAccounting} :
    deriveOf runtime scope objective (overheadQuery objective) (overheadAccounting objective) text =
        .ok accounting ↔
      Askable scope objective text ∧ accounting =
        overheadAccounting objective ((ledger text).filter (matchesQuery (overheadQuery objective))) := by
  rw [deriveOf_ok_iff overheadQuery_valid]
  constructor
  · rintro ⟨hsafe, hnamed, hreadable, haccounting⟩
    exact ⟨⟨hsafe, hnamed, hreadable⟩, haccounting⟩
  · rintro ⟨⟨hsafe, hnamed, hreadable⟩, haccounting⟩
    exact ⟨hsafe, hnamed, hreadable, haccounting⟩

theorem map_ok_iff {Value Next : Type} {judged : Judged Value} {compute : Value → Next}
    {next : Next} : judged.map compute = .ok next ↔ ∃ value, judged = .ok value ∧
      compute value = next := by
  cases judged with
  | error rejections => simp [Except.map]
  | ok value => simp [Except.map]

theorem attemptVerdict_refused_iff {trigger : JsString} {accounting : AttemptAccounting} :
    (∃ refusal found, attemptVerdict trigger accounting = .refused refusal found) ↔
      attemptCeiling ≤ accounting.count := by
  rw [attemptVerdict]
  by_cases hpermitted : accounting.count + 1 ≤ attemptCeiling
  · have hbelow : ¬attemptCeiling ≤ accounting.count := by omega
    simp [hpermitted, hbelow]
  · have habove : attemptCeiling ≤ accounting.count := by omega
    simp [hpermitted, habove]

theorem overheadVerdict_refused_iff {accounting : OverheadAccounting} :
    (∃ refusal found, overheadVerdict accounting = .refused refusal found) ↔
      accounting.budget ≤ accounting.count := by
  rw [overheadVerdict]
  by_cases hpermitted : accounting.count < accounting.budget
  · simp [hpermitted]
  · simp [hpermitted, Nat.le_of_not_lt hpermitted]

/-- The ceiling refuses exactly from its number of increments on. -/
theorem attemptRefused_iff {trigger text : JsString} :
    (∃ refusal found, attemptVerdictOf runtime scope objective trigger text =
        .ok (.refused refusal found)) ↔
      Askable scope objective text ∧
        attemptCeiling ≤ tally isAttemptIncrement objective (ledger text) := by
  have hcount : (attemptAccounting objective ((ledger text).filter
      (matchesQuery (attemptQuery objective)))).count =
        tally isAttemptIncrement objective (ledger text) := countP_filter_attemptQuery _
  rw [← hcount, ← @attemptVerdict_refused_iff trigger]
  simp only [attemptVerdictOf, map_ok_iff, deriveOf_attempt_iff]
  constructor
  · rintro ⟨refusal, found, _, ⟨haskable, rfl⟩, hverdict⟩
    exact ⟨haskable, refusal, found, hverdict⟩
  · rintro ⟨haskable, refusal, found, hverdict⟩
    exact ⟨refusal, found, _, ⟨haskable, rfl⟩, hverdict⟩

/-- The budget refuses exactly from its number of countable events on. -/
theorem overheadRefused_iff {text : JsString} :
    (∃ refusal found, overheadVerdictOf runtime scope objective text =
        .ok (.refused refusal found)) ↔
      Askable scope objective text ∧
        governanceOverheadBudget ≤ tally isCountable objective (ledger text) := by
  have hcount : (overheadAccounting objective ((ledger text).filter
      (matchesQuery (overheadQuery objective)))).count =
        tally isCountable objective (ledger text) := countP_filter_overheadQuery isCountable _
  have hverdict := @overheadVerdict_refused_iff (overheadAccounting objective
    ((ledger text).filter (matchesQuery (overheadQuery objective))))
  rw [hcount] at hverdict
  simp only [overheadVerdictOf, map_ok_iff, deriveOf_overhead_iff]
  constructor
  · rintro ⟨refusal, found, _, ⟨haskable, rfl⟩, hrefused⟩
    exact ⟨haskable, hverdict.mp ⟨refusal, found, hrefused⟩⟩
  · rintro ⟨haskable, habove⟩
    obtain ⟨refusal, found, hrefused⟩ := hverdict.mpr habove
    exact ⟨refusal, found, _, ⟨haskable, rfl⟩, hrefused⟩

theorem terminalBlockedPresent_iff {events : List GovdispEvent} :
    (overheadAccounting objective
        (events.filter (matchesQuery (overheadQuery objective)))).terminalBlockedPresent = true ↔
      0 < tally isTerminalBlocked objective events := by
  rw [← countP_filter_overheadQuery, List.countP_eq_length_filter, List.length_pos_iff,
    OverheadAccounting.terminalBlockedPresent, overheadAccounting]
  simp

/-- The guard goes on exactly where no terminal event stands and the budget is spent. -/
theorem terminalRefusal_eq_none_iff {accounting : OverheadAccounting} :
    terminalRefusal accounting = none ↔
      accounting.terminalBlockedPresent = false ∧ accounting.budget ≤ accounting.count := by
  rw [terminalRefusal]
  by_cases hbelow : accounting.count < accounting.budget
  · cases accounting.terminalBlockedPresent <;> simp [hbelow]
  · cases accounting.terminalBlockedPresent <;> simp [hbelow, Nat.le_of_not_lt hbelow]

theorem terminalRefusal_tally_iff {events : List GovdispEvent} :
    terminalRefusal (overheadAccounting objective
        (events.filter (matchesQuery (overheadQuery objective)))) = none ↔
      tally isTerminalBlocked objective events = 0 ∧
        governanceOverheadBudget ≤ tally isCountable objective events := by
  have hcount : (overheadAccounting objective
      (events.filter (matchesQuery (overheadQuery objective)))).count =
        tally isCountable objective events := countP_filter_overheadQuery isCountable events
  rw [terminalRefusal_eq_none_iff, hcount, ← Bool.not_eq_true, terminalBlockedPresent_iff,
    Nat.pos_iff_ne_zero, not_not]
  exact Iff.rfl

end OdinSentinel.Registry
