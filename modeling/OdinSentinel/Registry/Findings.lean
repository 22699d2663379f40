import OdinSentinel.Core.Grouping
import OdinSentinel.Registry.Verdicts

/-!
# Findings

The lifecycle of a finding, derived from the events of class FINDING at the time of the
call: who owns it, whether it was delivered, and whether it may be closed.
-/

namespace OdinSentinel.Registry

open JsText Dialogue

variable {runtime : Runtime} {scope base findingId : JsString}

/-! ## The lifecycle -/

/-- `FINDING_CLOSURE_PREREQUISITES`. -/
inductive FindingClosurePrerequisite
  | findingOwned
  | findingDelivered
  deriving DecidableEq

instance : Spelled FindingClosurePrerequisite where
  all := [.findingOwned, .findingDelivered]
  text
    | .findingOwned => js "FINDING_OWNED"
    | .findingDelivered => js "FINDING_DELIVERED"
  mem_all value := by cases value <;> decide
  distinct := by decide

structure FindingStateDerivation where
  findingId : JsString
  eventCount : Nat
  opened : Bool
  owned : Bool
  delivered : Bool
  closed : Bool
  active : Bool
  ownerRoles : List JsString
  openedEventIds : List JsString
  ownedEventIds : List JsString
  deliveredEventIds : List JsString
  closedEventIds : List JsString
  missingPrerequisites : List FindingClosurePrerequisite

structure FindingClosureRefusal where
  detail : JsString
  findingId : JsString
  missingPrerequisites : List FindingClosurePrerequisite

inductive FindingClosureVerdict
  | permitted (findingId : JsString) (state : FindingStateDerivation)
  | refused (refusal : FindingClosureRefusal) (state : FindingStateDerivation)

structure ActiveFindings where
  count : Nat
  activeFindingIds : List JsString
  inactiveFindingIds : List JsString

def requireFindingId (findingId : JsString) : Option EventRejection :=
  if trim findingId = [] then
    some (registryArgumentRejection (js "finding_id") (js "invalid_finding_id")
      (js "finding_id must be a non-empty string naming the finding whose lifecycle is derived"))
  else none

/-- An event of one type in the stream of a finding. -/
def isFindingEvent (eventType : FindingEventType) (findingId : JsString) (event : GovdispEvent) :
    Bool :=
  match event.body with
  | .finding found id _ => id.1 == findingId && found == eventType
  | _ => false

/-- The owner that an event names. -/
def ownerRoleOf (event : GovdispEvent) : Option JsString :=
  match event.body with
  | .finding _ _ (some ownerRole) => if trim ownerRole.1 = [] then none else some ownerRole.1
  | _ => none

def summarizeFindingEvents (findingId : JsString) (events : List GovdispEvent) :
    FindingStateDerivation :=
  let eventsOf eventType := events.filter (isFindingEvent eventType findingId)
  let idsOf eventType := (eventsOf eventType).map fun event => event.eventId.1
  let owned := !(idsOf .findingOwned).isEmpty
  let delivered := !(idsOf .findingDelivered).isEmpty
  let closed := !(idsOf .findingClosed).isEmpty
  { findingId
    eventCount := (idsOf .findingOpened).length + (idsOf .findingOwned).length +
      (idsOf .findingDelivered).length + (idsOf .findingClosed).length
    opened := !(idsOf .findingOpened).isEmpty
    owned
    delivered
    closed
    active := owned && delivered && !closed
    ownerRoles := (eventsOf .findingOwned).filterMap ownerRoleOf
    openedEventIds := idsOf .findingOpened
    ownedEventIds := idsOf .findingOwned
    deliveredEventIds := idsOf .findingDelivered
    closedEventIds := idsOf .findingClosed
    missingPrerequisites :=
      (if owned then [] else [.findingOwned]) ++ if delivered then [] else [.findingDelivered] }

def findingQuery : JsValue := .object [(js "event_class", .string (js "FINDING"))]

/-- What is computed from the events of all findings. -/
def overFindings {Accounting : Type} (runtime : Runtime) (scope : JsString)
    (fault : Option EventRejection) (base : JsString)
    (account : List GovdispEvent → Accounting) : Talk (Judged Accounting) :=
  match (requireRegistryScope scope).or fault with
  | some fault => pure (.error [fault])
  | none => do
      let queried ← queryRegistryEvents runtime scope findingQuery base
      pure (queried.map account)

def deriveFindingState (runtime : Runtime) (scope findingId base : JsString) :
    Talk (Judged FindingStateDerivation) :=
  overFindings runtime scope (requireFindingId findingId) base (summarizeFindingEvents findingId)

def findingClosureVerdict (state : FindingStateDerivation) : FindingClosureVerdict :=
  if state.missingPrerequisites.isEmpty then .permitted state.findingId state
  else .refused {
    detail := js "finding \"" ++ state.findingId ++
      js "\" is not ACTIVE: GD-DEC-005 requires both a FINDING_OWNED owner binding and a FINDING_DELIVERED delivery event recorded in the registry before closure; missing prerequisite event(s): " ++
      List.intercalate (js ", ") (state.missingPrerequisites.map Spelled.text) ++
      js " — a logged finding must not masquerade as driven"
    findingId := state.findingId
    missingPrerequisites := state.missingPrerequisites } state

def evaluateFindingClosure (runtime : Runtime) (scope findingId base : JsString) :
    Talk (Judged FindingClosureVerdict) := do
  let state ← deriveFindingState runtime scope findingId base
  pure (state.map findingClosureVerdict)

/-- An event of class FINDING, under its finding. -/
def findingEntry (event : GovdispEvent) : Option (JsString × GovdispEvent) :=
  match event.body with
  | .finding _ id _ => some (id.1, event)
  | _ => none

def activeFindings (events : List GovdispEvent) : ActiveFindings :=
  let byFinding := Grouping.byKey (events.filterMap findingEntry)
  let states := byFinding.map fun group => summarizeFindingEvents group.1 group.2
  let idsOf states := states.map FindingStateDerivation.findingId
  { count := (idsOf (states.filter fun state => state.active)).length
    activeFindingIds := idsOf (states.filter fun state => state.active)
    inactiveFindingIds := idsOf (states.filter fun state => !state.active) }

def countActiveFindings (runtime : Runtime) (scope base : JsString) :
    Talk (Judged ActiveFindings) :=
  overFindings runtime scope none base activeFindings

/-! ## Records of a finding -/

/-- An event of a type stands in the stream of a finding. -/
def Recorded (eventType : FindingEventType) (findingId : JsString) (events : List GovdispEvent) :
    Prop :=
  ∃ event ∈ events, isFindingEvent eventType findingId event = true

/-- A finding has an accountable owner and a delivery event. -/
def Driven (findingId : JsString) (events : List GovdispEvent) : Prop :=
  Recorded .findingOwned findingId events ∧ Recorded .findingDelivered findingId events

theorem Recorded.mono {eventType : FindingEventType} {events others : List GovdispEvent}
    (hsubset : ∀ event ∈ events, event ∈ others)
    (hrecorded : Recorded eventType findingId events) : Recorded eventType findingId others := by
  obtain ⟨event, hevent, hkind⟩ := hrecorded
  exact ⟨event, hsubset event hevent, hkind⟩

theorem recorded_iff_ids {eventType : FindingEventType} {events : List GovdispEvent} :
    (!((events.filter (isFindingEvent eventType findingId)).map fun event =>
      event.eventId.1).isEmpty) = true ↔ Recorded eventType findingId events := by
  rw [Bool.not_eq_true', ← Bool.not_eq_true, List.isEmpty_iff, List.map_eq_nil_iff,
    List.filter_eq_nil_iff, Recorded]
  push Not
  exact Iff.rfl

theorem summarize_active_iff {events : List GovdispEvent} :
    (summarizeFindingEvents findingId events).active = true ↔
      Driven findingId events ∧ ¬Recorded .findingClosed findingId events := by
  rw [Driven, ← recorded_iff_ids, ← recorded_iff_ids, ← recorded_iff_ids, ← Bool.and_eq_true,
    Bool.not_eq_true, ← Bool.not_eq_true', ← Bool.and_eq_true]
  rfl

theorem missingPrerequisites_eq_nil_iff {events : List GovdispEvent} :
    (summarizeFindingEvents findingId events).missingPrerequisites = [] ↔
      Driven findingId events := by
  have hmissing : (summarizeFindingEvents findingId events).missingPrerequisites =
      (if (summarizeFindingEvents findingId events).owned then [] else [.findingOwned]) ++
        if (summarizeFindingEvents findingId events).delivered then []
        else [.findingDelivered] := rfl
  have howned : (summarizeFindingEvents findingId events).owned = true ↔
      Recorded .findingOwned findingId events := recorded_iff_ids
  have hdelivered : (summarizeFindingEvents findingId events).delivered = true ↔
      Recorded .findingDelivered findingId events := recorded_iff_ids
  rw [hmissing, Driven, ← howned, ← hdelivered, List.append_eq_nil_iff]
  simp only [ite_eq_left_iff, List.cons_ne_nil, imp_false, not_not]

/-- A closure is permitted where no prerequisite is missing. -/
theorem closure_permitted_iff {events : List GovdispEvent} :
    (∃ id state, findingClosureVerdict (summarizeFindingEvents findingId events) =
        .permitted id state) ↔ Driven findingId events := by
  rw [← missingPrerequisites_eq_nil_iff, ← List.isEmpty_iff, findingClosureVerdict]
  by_cases hmissing : (summarizeFindingEvents findingId events).missingPrerequisites.isEmpty = true
  · rw [if_pos hmissing]
    exact iff_of_true ⟨_, _, rfl⟩ hmissing
  · rw [if_neg hmissing]
    exact iff_of_false (by rintro ⟨_, _, ⟨⟩⟩) hmissing

/-- The events of a finding are of class FINDING. -/
theorem matches_of_isFindingEvent {eventType : FindingEventType} {event : GovdispEvent}
    (hkind : isFindingEvent eventType findingId event = true) :
    matchesQuery findingQuery event = true := by
  rw [isFindingEvent] at hkind
  have hmatch : matchesQuery findingQuery event =
      (true && (js "FINDING" == Spelled.text event.eventClass) && true && true && true) := rfl
  rw [hmatch, GovdispEvent.eventClass]
  cases hbody : event.body with
  | finding found id ownerRole => rfl
  | _ =>
      rw [hbody] at hkind
      cases hkind

theorem recorded_filter_findingQuery {eventType : FindingEventType} {events : List GovdispEvent} :
    Recorded eventType findingId (events.filter (matchesQuery findingQuery)) ↔
      Recorded eventType findingId events := by
  constructor
  · exact Recorded.mono fun event hevent => (List.mem_filter.mp hevent).1
  · rintro ⟨event, hevent, hkind⟩
    exact ⟨event, List.mem_filter.mpr ⟨hevent, matches_of_isFindingEvent hkind⟩, hkind⟩

theorem findingEntry_of_isFindingEvent {eventType : FindingEventType} {event : GovdispEvent}
    (hkind : isFindingEvent eventType findingId event = true) :
    findingEntry event = some (findingId, event) := by
  rw [isFindingEvent] at hkind
  rw [findingEntry]
  cases hbody : event.body with
  | finding found id ownerRole =>
      rw [hbody] at hkind
      rw [← eq_of_beq (Bool.and_eq_true_iff.mp hkind).1]
  | _ =>
      rw [hbody] at hkind
      cases hkind

/-- The group of a finding has its events. -/
theorem recorded_under {eventType : FindingEventType} {events : List GovdispEvent} :
    Recorded eventType findingId
        (Grouping.under findingId (events.filterMap findingEntry)) ↔
      Recorded eventType findingId events := by
  have hentry : ∀ {event found}, findingEntry event = some found → found.2 = event := by
    intro event found hfound
    rw [findingEntry] at hfound
    cases hbody : event.body with
    | finding eventType id ownerRole =>
        rw [hbody] at hfound
        cases hfound
        rfl
    | _ =>
        rw [hbody] at hfound
        cases hfound
  constructor
  · apply Recorded.mono
    intro event hevent
    obtain ⟨found, hfound, rfl⟩ := List.mem_map.mp hevent
    obtain ⟨source, hsource, hsame⟩ := List.mem_filterMap.mp (List.mem_filter.mp hfound).1
    rw [hentry hsame]
    exact hsource
  · rintro ⟨event, hevent, hkind⟩
    have hsome := findingEntry_of_isFindingEvent hkind
    refine ⟨event, List.mem_map.mpr ⟨(findingId, event), ?_, rfl⟩, hkind⟩
    exact List.mem_filter.mpr
      ⟨List.mem_filterMap.mpr ⟨event, hevent, hsome⟩, decide_eq_true rfl⟩

theorem mem_activeFindings_iff {events : List GovdispEvent} :
    findingId ∈ (activeFindings events).activeFindingIds ↔
      Driven findingId events ∧ ¬Recorded .findingClosed findingId events := by
  have hgroup : (summarizeFindingEvents findingId
      (Grouping.under findingId (events.filterMap findingEntry))).active = true ↔
        Driven findingId events ∧ ¬Recorded .findingClosed findingId events := by
    rw [summarize_active_iff, Driven, recorded_under, recorded_under, recorded_under, Driven]
  rw [← hgroup]
  rw [activeFindings]
  simp only [List.mem_map, List.mem_filter]
  constructor
  · rintro ⟨state, ⟨⟨group, hmem, rfl⟩, hactive⟩, rfl⟩
    rw [(Grouping.mem_byKey_iff.mp hmem).2] at hactive
    exact hactive
  · intro hactive
    obtain ⟨⟨⟨event, hevent, hkind⟩, -⟩, -⟩ := hgroup.mp hactive
    have hkey : findingId ∈ (events.filterMap findingEntry).map Prod.fst :=
      List.mem_map.mpr ⟨(findingId, event), List.mem_filterMap.mpr
        ⟨event, hevent, findingEntry_of_isFindingEvent hkind⟩, rfl⟩
    exact ⟨_, ⟨⟨(findingId, _), Grouping.mem_byKey_iff.mpr ⟨hkey, rfl⟩, rfl⟩, hactive⟩, rfl⟩

/-! ## Findings of a log -/

/-- The view that a computation over the findings has of a log's text. -/
def findingsOf {Accounting : Type} (runtime : Runtime) (scope : JsString)
    (fault : Option EventRejection) (account : List GovdispEvent → Accounting) (text : JsString) :
    Judged Accounting :=
  match (requireRegistryScope scope).or fault with
  | some fault => .error [fault]
  | none => (queryOf runtime scope findingQuery text).map account

theorem overFindings_observes {Accounting : Type} (fault : Option EventRejection)
    (account : List GovdispEvent → Accounting) :
    Observes (overFindings runtime scope fault base account)
      (findingsOf runtime scope fault account) := by
  unfold overFindings findingsOf
  cases (requireRegistryScope scope).or fault with
  | some fault => exact observes_error _
  | none => exact (queryRegistryEvents_observes findingQuery).map account

theorem findingsOf_readable {Accounting : Type} {text : JsString}
    (hsafe : isSafeRegistryScope scope = true) (hreadable : Readable text)
    (account : List GovdispEvent → Accounting) :
    findingsOf runtime scope none account text =
      .ok (account ((ledger text).filter (matchesQuery findingQuery))) := by
  have hquery : validateRegistryEventQuery findingQuery = [] :=
    validateRegistryEventQuery_eq_nil rfl rfl rfl rfl rfl rfl
  have hread : readEvents runtime text = .ok (ledger text) :=
    readEvents_ledger.mpr ⟨hreadable, rfl⟩
  rw [findingsOf, requireRegistryScope, if_neg (trim_ne_nil_of_safe hsafe), Option.none_or,
    queryOf, hquery]
  dsimp only
  rw [eventsOf, hsafe, Bool.not_true, if_neg Bool.false_ne_true, hread]
  rfl

/-- The guard counts a finding as active. -/
def CountsActive (runtime : Runtime) (scope base : JsString) (disk : Disk) (findingId : JsString) :
    Prop :=
  ∃ counted, Plays (Responds Sound) (countActiveFindings runtime scope base).run disk
    (.ok (.ok counted)) disk ∧ findingId ∈ counted.activeFindingIds

/-- The closure of a finding is permitted. -/
def PermitsClosure (runtime : Runtime) (scope base : JsString) (disk : Disk)
    (findingId : JsString) : Prop :=
  ∃ id state, Plays (Responds Sound) (evaluateFindingClosure runtime scope findingId base).run disk
    (.ok (.ok (.permitted id state))) disk

theorem countsActive_iff {disk : Disk} (hsafe : isSafeRegistryScope scope = true)
    (hreadable : Readable disk.shared.text) :
    CountsActive runtime scope base disk findingId ↔
      Driven findingId (ledger disk.shared.text) ∧
        ¬Recorded .findingClosed findingId (ledger disk.shared.text) := by
  have hactive := @mem_activeFindings_iff findingId
    ((ledger disk.shared.text).filter (matchesQuery findingQuery))
  rw [Driven, recorded_filter_findingQuery, recorded_filter_findingQuery,
    recorded_filter_findingQuery] at hactive
  rw [Driven, ← hactive, CountsActive]
  simp only [countActiveFindings, (overFindings_observes none activeFindings).plays_iff,
    findingsOf_readable hsafe hreadable, and_true, Except.ok.injEq]
  exact ⟨fun ⟨_, hsame, hmem⟩ => hsame ▸ hmem, fun hmem => ⟨_, rfl, hmem⟩⟩

theorem permitsClosure_iff {disk : Disk} (hsafe : isSafeRegistryScope scope = true)
    (hreadable : Readable disk.shared.text) :
    PermitsClosure runtime scope base disk findingId ↔
      trim findingId ≠ [] ∧ Driven findingId (ledger disk.shared.text) := by
  have hpermitted := @closure_permitted_iff findingId
    ((ledger disk.shared.text).filter (matchesQuery findingQuery))
  rw [Driven, recorded_filter_findingQuery, recorded_filter_findingQuery] at hpermitted
  have hobserves : Observes (evaluateFindingClosure runtime scope findingId base) _ :=
    (overFindings_observes (requireFindingId findingId)
      (summarizeFindingEvents findingId)).map findingClosureVerdict
  rw [PermitsClosure, Driven, ← hpermitted]
  simp only [hobserves.plays_iff, and_true]
  by_cases hblank : trim findingId = []
  · have hfault : requireFindingId findingId ≠ none := by
      rw [requireFindingId, if_pos hblank]
      exact Option.some_ne_none _
    obtain ⟨fault, hsome⟩ := Option.ne_none_iff_exists'.mp hfault
    have hscope : requireRegistryScope scope = none := if_neg (trim_ne_nil_of_safe hsafe)
    rw [findingsOf, hsome, hscope, Option.none_or]
    apply iff_of_false
    · rintro ⟨_, _, ⟨⟩⟩
    · exact fun hnamed => hnamed.1 hblank
  · have hnone : requireFindingId findingId = none := if_neg hblank
    rw [hnone, findingsOf_readable hsafe hreadable]
    simp only [Except.map, Except.ok.injEq, eq_comm]
    exact (and_iff_right hblank).symm

end OdinSentinel.Registry
