import OdinSentinel.Registry.Findings

/-!
# Two derivations of a finding

The lifecycle of one finding and the lists over all findings read the same events of the
log, and neither depends on their order.
-/

namespace OdinSentinel.Registry

open JsText Dialogue

variable {runtime : Runtime} {scope base findingId : JsString} {events others : List GovdispEvent}

/-! ## The lists -/

/-- A finding that some event names. -/
def Occurs (findingId : JsString) (events : List GovdispEvent) : Prop :=
  ∃ eventType, Recorded eventType findingId events

theorem occurs_iff_entry :
    Occurs findingId events ↔ findingId ∈ (events.filterMap findingEntry).map Prod.fst := by
  constructor
  · rintro ⟨eventType, event, hevent, hkind⟩
    exact List.mem_map.mpr ⟨(findingId, event), List.mem_filterMap.mpr
      ⟨event, hevent, findingEntry_of_isFindingEvent hkind⟩, rfl⟩
  · intro hkey
    obtain ⟨entry, hentry, rfl⟩ := List.mem_map.mp hkey
    obtain ⟨event, hevent, hfound⟩ := List.mem_filterMap.mp hentry
    rw [findingEntry] at hfound
    cases hbody : event.body with
    | finding eventType id ownerRole =>
        rw [hbody] at hfound
        cases hfound
        exact ⟨eventType, event, hevent, by simp [isFindingEvent, hbody]⟩
    | _ =>
        rw [hbody] at hfound
        cases hfound

theorem occurs_filter_findingQuery :
    Occurs findingId (events.filter (matchesQuery findingQuery)) ↔ Occurs findingId events := by
  simp only [Occurs, recorded_filter_findingQuery]

/-- Both lists of a count, the active findings first. -/
def ActiveFindings.all (counted : ActiveFindings) : List JsString :=
  counted.activeFindingIds ++ counted.inactiveFindingIds

/-- Each finding is on one of the lists. -/
theorem activeFindings_perm (events : List GovdispEvent) :
    (activeFindings events).all.Perm
      ((Grouping.byKey (events.filterMap findingEntry)).map Prod.fst) := by
  have hstates : ((Grouping.byKey (events.filterMap findingEntry)).map fun group =>
      summarizeFindingEvents group.1 group.2).map FindingStateDerivation.findingId =
        (Grouping.byKey (events.filterMap findingEntry)).map Prod.fst := by
    rw [List.map_map]
    rfl
  rw [← hstates, ActiveFindings.all]
  rw [activeFindings]
  dsimp only
  rw [← List.map_append]
  exact (List.filter_append_perm _ _).map _

theorem activeFindings_nodup (events : List GovdispEvent) : (activeFindings events).all.Nodup :=
  (activeFindings_perm events).nodup_iff.mpr (Grouping.grouped_byKey _).nodup

theorem mem_activeFindings_all_iff :
    findingId ∈ (activeFindings events).all ↔ Occurs findingId events := by
  rw [(activeFindings_perm events).mem_iff, (Grouping.grouped_byKey _).mem_keys, occurs_iff_entry]

theorem mem_inactiveFindings_iff :
    findingId ∈ (activeFindings events).inactiveFindingIds ↔
      Occurs findingId events ∧ findingId ∉ (activeFindings events).activeFindingIds := by
  have hnodup := activeFindings_nodup events
  rw [ActiveFindings.all, List.nodup_append] at hnodup
  rw [← mem_activeFindings_all_iff, ActiveFindings.all, List.mem_append]
  constructor
  · intro hinactive
    exact ⟨.inr hinactive, fun hactive => hnodup.2.2 _ hactive _ hinactive rfl⟩
  · rintro ⟨hactive | hinactive, hout⟩
    · exact absurd hactive hout
    · exact hinactive

/-! ## The order of the events -/

theorem recorded_perm {eventType : FindingEventType} (hperm : events.Perm others) :
    Recorded eventType findingId events ↔ Recorded eventType findingId others := by
  simp only [Recorded, hperm.mem_iff]

theorem activeFindings_reordered (hperm : events.Perm others) :
    (activeFindings events).activeFindingIds.Perm (activeFindings others).activeFindingIds ∧
      (activeFindings events).inactiveFindingIds.Perm
        (activeFindings others).inactiveFindingIds := by
  have hactive : ∀ findingId, findingId ∈ (activeFindings events).activeFindingIds ↔
      findingId ∈ (activeFindings others).activeFindingIds := by
    intro findingId
    rw [mem_activeFindings_iff, mem_activeFindings_iff, Driven, Driven, recorded_perm hperm,
      recorded_perm hperm, recorded_perm hperm]
  have hinactive : ∀ findingId, findingId ∈ (activeFindings events).inactiveFindingIds ↔
      findingId ∈ (activeFindings others).inactiveFindingIds := by
    intro findingId
    rw [mem_inactiveFindings_iff, mem_inactiveFindings_iff, hactive]
    simp only [Occurs, recorded_perm hperm]
  have hnodup := List.nodup_append.mp (activeFindings_nodup events)
  have hothers := List.nodup_append.mp (activeFindings_nodup others)
  exact ⟨(List.perm_ext_iff_of_nodup hnodup.1 hothers.1).mpr hactive,
    (List.perm_ext_iff_of_nodup hnodup.2.1 hothers.2.1).mpr hinactive⟩

/-- Two derivations of one lifecycle: the same flags, and the same ids in some order. -/
structure SameLifecycle (left right : FindingStateDerivation) : Prop where
  eventCount : left.eventCount = right.eventCount
  opened : left.opened = right.opened
  owned : left.owned = right.owned
  delivered : left.delivered = right.delivered
  closed : left.closed = right.closed
  active : left.active = right.active
  ownerRoles : left.ownerRoles.Perm right.ownerRoles
  openedEventIds : left.openedEventIds.Perm right.openedEventIds
  ownedEventIds : left.ownedEventIds.Perm right.ownedEventIds
  deliveredEventIds : left.deliveredEventIds.Perm right.deliveredEventIds
  closedEventIds : left.closedEventIds.Perm right.closedEventIds
  missingPrerequisites : left.missingPrerequisites = right.missingPrerequisites

theorem summarize_reordered (hperm : events.Perm others) :
    SameLifecycle (summarizeFindingEvents findingId events)
      (summarizeFindingEvents findingId others) := by
  have hevents : ∀ eventType, (events.filter (isFindingEvent eventType findingId)).Perm
      (others.filter (isFindingEvent eventType findingId)) :=
    fun eventType => hperm.filter _
  have hids : ∀ eventType, ((events.filter (isFindingEvent eventType findingId)).map fun event =>
      event.eventId.1).Perm ((others.filter (isFindingEvent eventType findingId)).map fun event =>
        event.eventId.1) :=
    fun eventType => (hevents eventType).map _
  have hempty : ∀ eventType, (!((events.filter (isFindingEvent eventType findingId)).map
      fun event => event.eventId.1).isEmpty) =
        !((others.filter (isFindingEvent eventType findingId)).map fun event =>
          event.eventId.1).isEmpty :=
    fun eventType => congrArg (!·) (hids eventType).isEmpty_eq
  have howned := hempty .findingOwned
  have hdelivered := hempty .findingDelivered
  have hclosed := hempty .findingClosed
  exact {
    eventCount := by
      simp only [summarizeFindingEvents, (hids _).length_eq]
    opened := hempty .findingOpened
    owned := howned
    delivered := hdelivered
    closed := hclosed
    active := by
      simp only [summarizeFindingEvents, howned, hdelivered, hclosed]
    ownerRoles := (hevents .findingOwned).filterMap _
    openedEventIds := hids .findingOpened
    ownedEventIds := hids .findingOwned
    deliveredEventIds := hids .findingDelivered
    closedEventIds := hids .findingClosed
    missingPrerequisites := by
      simp only [summarizeFindingEvents, howned, hdelivered] }

/-! ## The calls -/

/-- The events of class FINDING in a log. -/
def findingEvents (text : JsString) : List GovdispEvent :=
  (ledger text).filter (matchesQuery findingQuery)

theorem countActiveFindings_ends_iff {disk : Disk} (hsafe : isSafeRegistryScope scope = true)
    (hreadable : Readable disk.shared.text) {counted : ActiveFindings} :
    EndsWith (countActiveFindings runtime scope base) disk counted ↔
      counted = activeFindings (findingEvents disk.shared.text) := by
  rw [countActiveFindings, (overFindings_observes none activeFindings).ends_iff,
    findingsOf_readable hsafe hreadable, Except.ok.injEq]
  exact eq_comm

/-- Only a finding whose id is no blank text has a lifecycle. -/
theorem deriveFindingState_ends_iff {disk : Disk} (hsafe : isSafeRegistryScope scope = true)
    (hreadable : Readable disk.shared.text) {state : FindingStateDerivation} :
    EndsWith (deriveFindingState runtime scope findingId base) disk state ↔
      trim findingId ≠ [] ∧
        state = summarizeFindingEvents findingId (findingEvents disk.shared.text) := by
  rw [deriveFindingState, (overFindings_observes _ _).ends_iff]
  by_cases hblank : trim findingId = []
  · have hscope : requireRegistryScope scope = none := if_neg (trim_ne_nil_of_safe hsafe)
    have hfault : requireFindingId findingId = some _ := if_pos hblank
    rw [findingsOf, hscope, hfault, Option.none_or]
    apply iff_of_false
    · rintro ⟨⟩
    · exact fun hnamed => hnamed.1 hblank
  · have hnone : requireFindingId findingId = none := if_neg hblank
    rw [hnone, findingsOf_readable hsafe hreadable, Except.ok.injEq, and_iff_right hblank]
    exact eq_comm

/-- The derivation of a finding succeeds and says that it is active. -/
def DerivesActive (runtime : Runtime) (scope base : JsString) (disk : Disk)
    (findingId : JsString) : Prop :=
  ∃ state, EndsWith (deriveFindingState runtime scope findingId base) disk state ∧
    state.active = true

theorem derivesActive_iff {disk : Disk} (hsafe : isSafeRegistryScope scope = true)
    (hreadable : Readable disk.shared.text) :
    DerivesActive runtime scope base disk findingId ↔
      trim findingId ≠ [] ∧ CountsActive runtime scope base disk findingId := by
  rw [countsActive_iff hsafe hreadable, DerivesActive]
  simp only [deriveFindingState_ends_iff hsafe hreadable]
  have hactive := @summarize_active_iff findingId (findingEvents disk.shared.text)
  rw [findingEvents, Driven, recorded_filter_findingQuery, recorded_filter_findingQuery,
    recorded_filter_findingQuery] at hactive
  rw [Driven, ← hactive]
  constructor
  · rintro ⟨state, ⟨hnamed, rfl⟩, hstate⟩
    exact ⟨hnamed, hstate⟩
  · rintro ⟨hnamed, hstate⟩
    exact ⟨_, ⟨hnamed, rfl⟩, hstate⟩

/-- Without a readable log no computation over the findings ends with a value. -/
theorem overFindings_unreadable {Accounting : Type} {disk : Disk} {fault : Option EventRejection}
    {account : List GovdispEvent → Accounting} {value : Accounting}
    (hunreadable : ¬Readable disk.shared.text) :
    ¬EndsWith (overFindings runtime scope fault base account) disk value := by
  rw [(overFindings_observes fault account).ends_iff, findingsOf]
  cases (requireRegistryScope scope).or fault with
  | some fault => rintro ⟨⟩
  | none =>
      have hquery : validateRegistryEventQuery findingQuery = [] :=
        validateRegistryEventQuery_eq_nil rfl rfl rfl rfl rfl rfl
      rw [queryOf, hquery]
      dsimp only
      cases hevents : eventsOf runtime scope disk.shared.text with
      | error rejections => rintro ⟨⟩
      | ok events =>
          rw [eventsOf] at hevents
          split at hevents
          · cases hevents
          · exact absurd (readEvents_ledger.mp hevents).1 hunreadable

/-- Both derivations read one state of a finding off the log: the lists hold every finding
once, a finding that is not named by a blank is listed as active where its own derivation says
so and may be closed where it is driven, and the order of the events decides nothing. -/
theorem findings_consistent (runtime : Runtime) {scope : JsString} (base : JsString)
    (hsafe : isSafeRegistryScope scope = true) (disk : Disk) :
    (Readable disk.shared.text →
      (∃ counted, EndsWith (countActiveFindings runtime scope base) disk counted ∧
        counted.all.Nodup ∧
        ∀ findingId, findingId ∈ counted.all ↔ Occurs findingId (ledger disk.shared.text)) ∧
      (∀ findingId, DerivesActive runtime scope base disk findingId ↔
        trim findingId ≠ [] ∧ CountsActive runtime scope base disk findingId) ∧
      (∀ findingId, PermitsClosure runtime scope base disk findingId ↔
        trim findingId ≠ [] ∧ Driven findingId (ledger disk.shared.text)) ∧
      ∀ other : Disk, Readable other.shared.text →
        (ledger disk.shared.text).Perm (ledger other.shared.text) →
        (∀ counted recounted, EndsWith (countActiveFindings runtime scope base) disk counted →
          EndsWith (countActiveFindings runtime scope base) other recounted →
          counted.activeFindingIds.Perm recounted.activeFindingIds ∧
            counted.inactiveFindingIds.Perm recounted.inactiveFindingIds) ∧
        ∀ findingId state rederived,
          EndsWith (deriveFindingState runtime scope findingId base) disk state →
          EndsWith (deriveFindingState runtime scope findingId base) other rederived →
          SameLifecycle state rederived) ∧
    (¬Readable disk.shared.text →
      (∀ counted, ¬EndsWith (countActiveFindings runtime scope base) disk counted) ∧
      (∀ findingId state,
        ¬EndsWith (deriveFindingState runtime scope findingId base) disk state) ∧
      ∀ findingId, ¬PermitsClosure runtime scope base disk findingId) := by
  constructor
  · intro hreadable
    refine ⟨⟨_, (countActiveFindings_ends_iff hsafe hreadable).mpr rfl, activeFindings_nodup _,
      ?_⟩, fun _ => derivesActive_iff hsafe hreadable,
      fun _ => permitsClosure_iff hsafe hreadable, ?_⟩
    · intro findingId
      rw [mem_activeFindings_all_iff, findingEvents, occurs_filter_findingQuery]
    · intro other hother hperm
      have hevents : (findingEvents disk.shared.text).Perm (findingEvents other.shared.text) :=
        hperm.filter _
      constructor
      · intro counted recounted hcounted hrecounted
        rw [countActiveFindings_ends_iff hsafe hreadable] at hcounted
        rw [countActiveFindings_ends_iff hsafe hother] at hrecounted
        rw [hcounted, hrecounted]
        exact activeFindings_reordered hevents
      · intro findingId state rederived hstate hrederived
        rw [deriveFindingState_ends_iff hsafe hreadable] at hstate
        rw [deriveFindingState_ends_iff hsafe hother] at hrederived
        rw [hstate.2, hrederived.2]
        exact summarize_reordered hevents
  · intro hunreadable
    refine ⟨fun _ => overFindings_unreadable hunreadable,
      fun _ _ => overFindings_unreadable hunreadable, ?_⟩
    rintro findingId ⟨id, state, hpermitted⟩
    obtain ⟨found, hderived, hverdict⟩ := plays_map.mp hpermitted
    cases found with
    | error halt => cases hverdict
    | ok judged =>
        cases judged with
        | error rejections => cases hverdict
        | ok derived => exact overFindings_unreadable hunreadable hderived

/-! ### A finding named by a blank -/

/-- An event of a finding whose id is one blank. -/
def blankFinding (eventType : FindingEventType) : GovdispEvent :=
  { startedAttempt firstObjective with
    body := .finding eventType blankText none }

def blankFindings : List GovdispEvent := [blankFinding .findingOwned, blankFinding .findingDelivered]

theorem driven_blankFindings : Driven (js " ") blankFindings :=
  ⟨⟨_, List.mem_cons_self, by decide⟩, ⟨_, List.mem_cons_of_mem _ List.mem_cons_self, by decide⟩⟩

theorem findings_consistent_blank : ∃ counted,
    EndsWith (countActiveFindings (plainRuntime []) (js "wave") (js "base")) (logDisk blankFindings)
      counted ∧
    counted.all.Nodup ∧ ∀ findingId, findingId ∈ counted.all ↔ Occurs findingId
      (ledger (logDisk blankFindings).shared.text) :=
  ((findings_consistent (plainRuntime []) (js "base") (by decide) (logDisk blankFindings)).1
    (readable_logDisk blankFindings)).1

/-- It is counted as active, and no derivation of its own succeeds. -/
theorem blankFinding_underived : ¬∀ runtime scope base disk,
    isSafeRegistryScope scope = true → Readable disk.shared.text →
    ∀ findingId, Occurs findingId (ledger disk.shared.text) →
      (CountsActive runtime scope base disk findingId ↔
        DerivesActive runtime scope base disk findingId) := by
  intro hagree
  have hsafe : isSafeRegistryScope (js "wave") = true := by decide
  have hoccurs : Occurs (js " ") (ledger (logDisk blankFindings).shared.text) := by
    rw [ledger_logDisk]
    exact ⟨_, driven_blankFindings.1⟩
  have hcounted : CountsActive (plainRuntime []) (js "wave") (js "base") (logDisk blankFindings)
      (js " ") := by
    rw [countsActive_iff hsafe (readable_logDisk blankFindings), ledger_logDisk]
    refine ⟨driven_blankFindings, ?_⟩
    rintro ⟨event, hevent, hclosed⟩
    rcases List.mem_pair.mp hevent with rfl | rfl
    · exact absurd hclosed (by decide)
    · exact absurd hclosed (by decide)
  have hderived := (hagree _ _ _ _ hsafe (readable_logDisk blankFindings) _ hoccurs).mp hcounted
  exact ((derivesActive_iff hsafe (readable_logDisk blankFindings)).mp hderived).1 (by decide)

end OdinSentinel.Registry
