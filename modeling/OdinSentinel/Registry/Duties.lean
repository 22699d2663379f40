import OdinSentinel.Registry.Findings
import OdinSentinel.Registry.Recompaction

/-!
# Duties over a compaction

A compaction removes the events of a finding like any others.  Afterwards the finding is
what its unexpired events say, and a duty stands where they still say so.
-/

namespace OdinSentinel.Registry

open JsText Dialogue

variable {runtime : Runtime} {scope findingId : JsString} {policy : TtlPolicy} {nowMs : Int}
variable {fails : FileAsk → Prop}

/-- The events that a compaction leaves. -/
def unexpired (runtime : Runtime) (policy : TtlPolicy) (nowMs : Int) (events : List GovdispEvent) :
    List GovdispEvent :=
  events.filter fun event => !isExpired runtime nowMs policy event

/-- A line is past where its event has expired. -/
theorem isPastLine_eq (line : JsString) :
    isPastLine runtime policy nowMs line =
      (lineEvent line).any (isExpired runtime nowMs policy) := by
  cases hentry : lineEntry runtime line with
  | some entry =>
      obtain ⟨-, hevent, hexpired⟩ :=
        @isExpiredLine_of_lineEntry runtime nowMs policy line entry hentry
      rw [← isExpiredLine_past hentry, hexpired, hevent, Option.any_some]
  | none =>
      rw [isPastLine, hentry, Option.any_none]
      cases hevent : lineEvent line with
      | none => rfl
      | some event =>
          rw [lineEntry, hevent, Option.bind_some, Option.map_eq_none_iff] at hentry
          rw [Option.any_some, isExpired, hentry, Option.any_none]

theorem filterMap_kept (lines : List JsString) :
    (Sweep.kept (isPastLine runtime policy) nowMs lines).filterMap lineEvent =
      unexpired runtime policy nowMs (lines.filterMap lineEvent) := by
  rw [Sweep.kept, unexpired, List.filterMap_filter, List.filter_filterMap]
  apply List.filterMap_congr
  intro line _
  rw [isPastLine_eq]
  cases hevent : lineEvent line with
  | none => simp
  | some event =>
      cases hexpired : isExpired runtime nowMs policy event <;> simp [hexpired, Option.filter]

/-- The events of a log behind a compaction. -/
theorem Retained.ledger_eq {before after : JsString} {summary : Option GovdispEvent}
    (hretained : Retained runtime policy nowMs before after summary) :
    ledger after = unexpired runtime policy nowMs (ledger before) ++ summary.toList := by
  have hsummary : (summary.toList.map (eventLine runtime)).filterMap lineEvent =
      summary.toList := by
    cases summary with
    | none => rfl
    | some event =>
        exact List.filterMap_cons_some (lineEvent_eventLine event)
  rw [ledger, hretained.lines_eq, List.filterMap_append, filterMap_kept, hsummary]
  rfl

theorem isFindingEvent_terminal {eventType : FindingEventType} {event : GovdispEvent}
    (hterminal : event.eventClass = .terminal) :
    isFindingEvent eventType findingId event = false := by
  rw [GovdispEvent.eventClass] at hterminal
  rw [isFindingEvent]
  cases hbody : event.body with
  | finding found id ownerRole =>
      rw [hbody] at hterminal
      cases hterminal
  | _ => rfl

/-- Of a finding a compaction leaves what has not expired. -/
theorem Retained.recorded_iff {before after : JsString} {summary : Option GovdispEvent}
    (hretained : Retained runtime policy nowMs before after summary)
    (eventType : FindingEventType) :
    Recorded eventType findingId (ledger after) ↔
      Recorded eventType findingId (unexpired runtime policy nowMs (ledger before)) := by
  rw [hretained.ledger_eq]
  constructor
  · rintro ⟨event, hevent, hkind⟩
    rcases List.mem_append.mp hevent with hevent | hevent
    · exact ⟨event, hevent, hkind⟩
    · have hterminal := hretained.summary_terminal event (Option.mem_toList.mp hevent)
      rw [isFindingEvent_terminal hterminal] at hkind
      cases hkind
  · exact Recorded.mono fun event hevent => List.mem_append_left _ hevent

theorem Commits.safe {disk after : Disk} {report : RegistryCompactionReport}
    (hcommits : Commits fails runtime scope policy nowMs disk report after) :
    isSafeRegistryScope scope = true := by
  obtain ⟨options, -, -, hspan⟩ := hcommits.span
  exact hspan.safe

/-! ## Duties -/

/-- An active finding keeps an owner and a delivery event, and one that keeps both keeps its
closing event. -/
def KeepsDuty (runtime : Runtime) (policy : TtlPolicy) (nowMs : Int) (findingId : JsString)
    (events : List GovdispEvent) : Prop :=
  (Driven findingId events → ¬Recorded .findingClosed findingId events →
    Driven findingId (unexpired runtime policy nowMs events)) ∧
  (Driven findingId (unexpired runtime policy nowMs events) →
    Recorded .findingClosed findingId events →
    Recorded .findingClosed findingId (unexpired runtime policy nowMs events))

/-- A finding with an owner and a delivery event keeps both. -/
def KeepsDrive (runtime : Runtime) (policy : TtlPolicy) (nowMs : Int) (findingId : JsString)
    (events : List GovdispEvent) : Prop :=
  Driven findingId events → Driven findingId (unexpired runtime policy nowMs events)

section Duties

variable {events : List GovdispEvent}

theorem recorded_of_unexpired {eventType : FindingEventType}
    (hrecorded : Recorded eventType findingId (unexpired runtime policy nowMs events)) :
    Recorded eventType findingId events :=
  hrecorded.mono fun _ hevent => (List.mem_filter.mp hevent).1

theorem driven_of_unexpired (hdriven : Driven findingId (unexpired runtime policy nowMs events)) :
    Driven findingId events :=
  ⟨recorded_of_unexpired hdriven.1, recorded_of_unexpired hdriven.2⟩

/-- A finding is active after as before exactly where its duty is kept. -/
theorem keepsDuty_iff :
    ((Driven findingId (unexpired runtime policy nowMs events) ∧
        ¬Recorded .findingClosed findingId (unexpired runtime policy nowMs events)) ↔
      (Driven findingId events ∧ ¬Recorded .findingClosed findingId events)) ↔
      KeepsDuty runtime policy nowMs findingId events := by
  constructor
  · intro hsame
    refine ⟨fun hdriven hopen => (hsame.mpr ⟨hdriven, hopen⟩).1, fun hdriven hclosed => ?_⟩
    by_contra hopen
    exact (hsame.mp ⟨hdriven, hopen⟩).2 hclosed
  · rintro ⟨hkept, hclosed⟩
    constructor
    · rintro ⟨hdriven, hopen⟩
      exact ⟨driven_of_unexpired hdriven, mt (hclosed hdriven) hopen⟩
    · rintro ⟨hdriven, hopen⟩
      exact ⟨hkept hdriven hopen, mt recorded_of_unexpired hopen⟩

end Duties

/-- A committed compaction of a readable log leaves the active findings as they were exactly
where it keeps the duty of each, and the closure of a finding permitted as it was exactly
where it keeps its owner and its delivery event. -/
theorem compaction_keeps_duties_iff {disk after : Disk} {report : RegistryCompactionReport}
    (hcommits : Commits fails runtime scope policy nowMs disk report after)
    (hreadable : Readable disk.shared.text) (base : JsString) :
    ((∀ findingId, CountsActive runtime scope base after findingId ↔
        CountsActive runtime scope base disk findingId) ↔
      ∀ findingId, KeepsDuty runtime policy nowMs findingId (ledger disk.shared.text)) ∧
    ∀ findingId, (PermitsClosure runtime scope base after findingId ↔
        PermitsClosure runtime scope base disk findingId) ↔
      (trim findingId ≠ [] →
        KeepsDrive runtime policy nowMs findingId (ledger disk.shared.text)) := by
  have hretained := hcommits.swept.retained
  have hafter := hretained.readable
  constructor
  · apply forall_congr'
    intro findingId
    rw [countsActive_iff hcommits.safe hafter, countsActive_iff hcommits.safe hreadable, Driven,
      hretained.recorded_iff, hretained.recorded_iff, hretained.recorded_iff]
    exact keepsDuty_iff
  · intro findingId
    rw [permitsClosure_iff hcommits.safe hafter, permitsClosure_iff hcommits.safe hreadable,
      Driven, hretained.recorded_iff, hretained.recorded_iff]
    constructor
    · intro hsame hnamed hdriven
      exact (hsame.mpr ⟨hnamed, hdriven⟩).2
    · intro hkeeps
      exact and_congr_right fun hnamed => ⟨driven_of_unexpired, hkeeps hnamed⟩

/-! ### An old finding -/

/-- An event of a finding on the second of January. -/
def januaryFinding (eventType : FindingEventType) : GovdispEvent :=
  { januaryAttempt with body := .finding eventType ⟨js "F-1", by decide⟩ none }

def drivenFinding : List GovdispEvent :=
  [januaryFinding .findingOwned, januaryFinding .findingDelivered]

def drivenFindingDisk : Disk where
  locked := false
  shared := { log := some (joinLines (drivenFinding.map (eventLine marchRuntime))), temp := none }

theorem ledger_drivenFindingDisk : ledger drivenFindingDisk.shared.text = drivenFinding :=
  ledger_events drivenFinding

theorem readable_drivenFindingDisk : Readable drivenFindingDisk.shared.text :=
  readable_events drivenFinding

theorem compactable_drivenFindingDisk :
    Compactable marchRuntime drivenFindingDisk.shared.text := by
  apply compactable_events
  intro event hevent
  have hts : event.ts = januaryAttempt.ts := by
    rcases List.mem_pair.mp hevent with rfl | rfl
    · rfl
    · rfl
  rw [hts]
  exact januaryAttempt_date ▸ rfl

/-- The compaction of March goes through. -/
theorem drivenFinding_commits : ∃ report after,
    Commits Sound marchRuntime (js "wave") marchOptions.policy marchCommit.nowMs drivenFindingDisk
      report after := by
  obtain ⟨report, after, hcommits, -⟩ := @exists_commits marchRuntime (js "wave") marchOptions
    marchCommit.nowMs drivenFindingDisk march.1 (by decide) rfl march_date rfl (by rintro ⟨⟩) rfl
    compactable_drivenFindingDisk
  exact ⟨report, after, hcommits⟩

theorem compaction_keeps_duties_iff_march : ∃ report after,
    Commits Sound marchRuntime (js "wave") marchOptions.policy marchCommit.nowMs drivenFindingDisk
      report after ∧
    ((∀ findingId, CountsActive marchRuntime (js "wave") (js "base") after findingId ↔
        CountsActive marchRuntime (js "wave") (js "base") drivenFindingDisk findingId) ↔
      ∀ findingId, KeepsDuty marchRuntime marchOptions.policy marchCommit.nowMs findingId
        (ledger drivenFindingDisk.shared.text)) ∧
    ∀ findingId, (PermitsClosure marchRuntime (js "wave") (js "base") after findingId ↔
        PermitsClosure marchRuntime (js "wave") (js "base") drivenFindingDisk findingId) ↔
      (trim findingId ≠ [] →
        KeepsDrive marchRuntime marchOptions.policy marchCommit.nowMs findingId
          (ledger drivenFindingDisk.shared.text)) := by
  obtain ⟨report, after, hcommits⟩ := drivenFinding_commits
  exact ⟨report, after, hcommits,
    compaction_keeps_duties_iff hcommits readable_drivenFindingDisk (js "base")⟩

/-- In March both events of the finding are too old. -/
theorem unexpired_drivenFinding :
    unexpired marchRuntime marchOptions.policy marchCommit.nowMs drivenFinding = [] := by
  have hexpired : ∀ eventType, isExpired marchRuntime marchCommit.nowMs marchOptions.policy
      (januaryFinding eventType) = true := by
    intro eventType
    cases eventType <;> decide +kernel
  rw [unexpired, drivenFinding, List.filter_cons, List.filter_cons, hexpired, hexpired]
  rfl

theorem driven_drivenFinding : Driven (js "F-1") drivenFinding :=
  ⟨⟨_, List.mem_cons_self, by decide⟩, ⟨_, List.mem_cons_of_mem _ List.mem_cons_self, by decide⟩⟩

/-- A finding with an owner and a delivery event is active until they are too old. -/
theorem drivenFinding_dropped : ¬∀ fails runtime scope policy nowMs disk report after,
    Commits fails runtime scope policy nowMs disk report after → Readable disk.shared.text →
      ∀ base,
        (∀ findingId, CountsActive runtime scope base after findingId ↔
          CountsActive runtime scope base disk findingId) ∧
        ∀ findingId, PermitsClosure runtime scope base after findingId ↔
          PermitsClosure runtime scope base disk findingId := by
  intro hkeeps
  obtain ⟨report, after, hcommits⟩ := drivenFinding_commits
  have hretained := hcommits.swept.retained
  have hafter := hretained.readable
  obtain ⟨-, hpermits⟩ := hkeeps _ _ _ _ _ _ _ _ hcommits readable_drivenFindingDisk []
  have hpermitted := (hpermits (js "F-1")).mpr
    ((permitsClosure_iff hcommits.safe readable_drivenFindingDisk).mpr
      ⟨by decide, ledger_drivenFindingDisk ▸ driven_drivenFinding⟩)
  obtain ⟨-, howned, -⟩ := (permitsClosure_iff hcommits.safe hafter).mp hpermitted
  obtain ⟨event, hevent, -⟩ := (hretained.recorded_iff .findingOwned).mp howned
  rw [ledger_drivenFindingDisk, unexpired_drivenFinding] at hevent
  cases hevent

end OdinSentinel.Registry
