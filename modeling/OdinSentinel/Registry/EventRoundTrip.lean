import OdinSentinel.Registry.Event

/-!
# Event round trip

The object of an admitted event is plain data that the schema reads back as the same
event.
-/

namespace OdinSentinel.Registry

open JsText

/-! ## Members -/

@[simp]
theorem readText_textJson (text : NonEmptyText) : readText (textJson text) = some text := by
  simp [readText, textJson, text.2]

@[simp]
theorem readEnum_text {Value : Type} [Spelled Value] (value : Value) :
    readEnum (.string (Spelled.text value)) = some value := Spelled.read_text value

@[simp]
theorem readIndex_ofNat (index : AttemptIndex) :
    readIndex (.number (.ofNat index.1)) = some index := by
  have hindex : (index.1 : ℚ).den = 1 ∧ 1 ≤ (index.1 : ℚ).num.toNat ∧
      (index.1 : ℚ).num.toNat < 2 ^ 53 := by
    rw [Rat.den_natCast, Rat.num_natCast, Int.toNat_natCast]
    exact ⟨rfl, index.2⟩
  rw [JsNumber.ofNat, readIndex, dif_pos hindex]
  simp

theorem readOptional_text (text : Option NonEmptyText) :
    readOptional readText ((text.map textJson).getD .undefined) = some text := by
  cases text with
  | none => rfl
  | some text => simp [readOptional, textJson, readText, text.2]

theorem readContentHash_toJson (hash : ContentHash) : readContentHash hash.toJson = some hash := by
  have hpath : hash.toJson.field (js "path") = textJson hash.path := rfl
  have hsha256 : hash.toJson.field (js "sha256") = textJson hash.sha256 := rfl
  have hshape : hasOnly [js "path", js "sha256"] hash.toJson = true := rfl
  simp [readContentHash, hpath, hsha256, hshape]

theorem readContentHashes_toJson (hashes : { hashes : List ContentHash // hashes ≠ [] }) :
    readContentHashes (.array (hashes.1.map ContentHash.toJson)) = some hashes := by
  have hall : (hashes.1.map ContentHash.toJson).mapM readContentHash = some hashes.1 := by
    induction hashes.1 with
    | nil => rfl
    | cons hash rest ih => simp [readContentHash_toJson, ih]
  simp [readContentHashes, hall, hashes.2]

theorem readAuditTarget_toJson (target : AuditTarget) :
    readAuditTarget target.toJson = some target := by
  cases target with
  | ordinaryWork => rfl
  | audit targetEventId =>
      have hkind : (AuditTarget.audit targetEventId).toJson.field (js "kind") =
          .string (js "audit") := rfl
      have hid : (AuditTarget.audit targetEventId).toJson.field (js "target_event_id") =
          textJson targetEventId := rfl
      have hshape : hasOnly [js "kind", js "target_event_id"]
          (AuditTarget.audit targetEventId).toJson = true := rfl
      have hother : js "audit" ≠ js "ordinary_work" := by decide
      simp [readAuditTarget, hkind, hid, hshape, hother]

/-- A member beyond the base shape is one of the body. -/
theorem field_of_body (event : GovdispEvent) {name : JsString}
    (hname : name ∉ govdispEventBaseShape) :
    event.toJson.field name = (event.body.fields.lookup name).getD .undefined := by
  simp only [govdispEventBaseShape, List.mem_cons, List.not_mem_nil, or_false, not_or] at hname
  obtain ⟨hversion, hid, hts, hobjective, hrole, hclass, htype⟩ := hname
  have hrole' : (optionalField (js "actor_role") (event.actorRole.map textJson)).lookup name =
      none := by
    cases event.actorRole with
    | none => rfl
    | some role => simp [optionalField, List.lookup_cons, beq_eq_false_iff_ne.mpr hrole]
  show (event.fields.lookup name).getD .undefined = _
  simp only [GovdispEvent.fields, List.lookup_append, hrole']
  simp [List.lookup_cons, beq_eq_false_iff_ne.mpr hversion, beq_eq_false_iff_ne.mpr hid,
    beq_eq_false_iff_ne.mpr hts, beq_eq_false_iff_ne.mpr hobjective,
    beq_eq_false_iff_ne.mpr hclass, beq_eq_false_iff_ne.mpr htype]

theorem field_eventType (event : GovdispEvent) :
    event.toJson.field (js "event_type") = .string event.eventType := by
  obtain ⟨eventId, ts, stableObjectiveId, actorRole, body⟩ := event
  cases actorRole <;> rfl

theorem field_eventClass (event : GovdispEvent) :
    event.toJson.field (js "event_class") = .string (Spelled.text event.eventClass) := by
  obtain ⟨eventId, ts, stableObjectiveId, actorRole, body⟩ := event
  cases actorRole <;> rfl

theorem lookup_actorRole (body : GovdispEventBody) :
    body.fields.lookup (js "actor_role") = none := by
  cases body with
  | attempt eventType attemptIndex trigger => cases attemptIndex <;> cases trigger <;> rfl
  | finding eventType findingId ownerRole => cases ownerRole <;> rfl
  | breakGlass => rfl
  | budget => rfl
  | terminal => rfl
  | audit => rfl

theorem field_actorRole (event : GovdispEvent) :
    event.toJson.field (js "actor_role") = (event.actorRole.map textJson).getD .undefined := by
  obtain ⟨eventId, ts, stableObjectiveId, actorRole, body⟩ := event
  cases actorRole with
  | none => exact congrArg (fun found => Option.getD found .undefined) (lookup_actorRole body)
  | some role => rfl

theorem readOptional_index (index : Option AttemptIndex) :
    readOptional readIndex
      ((index.map fun index => JsValue.number (.ofNat index.1)).getD .undefined) = some index := by
  cases index with
  | none => rfl
  | some index => exact congrArg (Option.map some) (readIndex_ofNat index)

theorem readOptional_enum {Value : Type} [Spelled Value] (value : Option Value) :
    readOptional readEnum
      ((value.map fun value => JsValue.string (Spelled.text value)).getD .undefined) =
        some value := by
  cases value with
  | none => rfl
  | some value => exact congrArg (Option.map some) (readEnum_text value)

theorem lookup_attempt (eventType : AttemptEventType) (attemptIndex : Option AttemptIndex)
    (trigger : Option AttemptTrigger) :
    ((GovdispEventBody.attempt eventType attemptIndex trigger).fields.lookup
        (js "attempt_index")).getD .undefined =
      (attemptIndex.map fun index => JsValue.number (.ofNat index.1)).getD .undefined ∧
    ((GovdispEventBody.attempt eventType attemptIndex trigger).fields.lookup
        (js "trigger")).getD .undefined =
      (trigger.map fun trigger => JsValue.string (Spelled.text trigger)).getD .undefined := by
  cases attemptIndex <;> cases trigger <;> exact ⟨rfl, rfl⟩

theorem lookup_ownerRole (eventType : FindingEventType) (findingId : NonEmptyText)
    (ownerRole : Option NonEmptyText) :
    ((GovdispEventBody.finding eventType findingId ownerRole).fields.lookup
        (js "owner_role")).getD .undefined = (ownerRole.map textJson).getD .undefined := by
  cases ownerRole <;> rfl

/-- The body of an event's object reads back. -/
theorem readBody_toJson (event : GovdispEvent) :
    readBody event.toJson event.eventClass = some event.body := by
  have htype := field_eventType event
  have hfield := @field_of_body event
  obtain ⟨eventId, ts, stableObjectiveId, actorRole, body⟩ := event
  cases body with
  | attempt eventType attemptIndex trigger =>
      have hindex := hfield (show js "attempt_index" ∉ govdispEventBaseShape by decide)
      have htrigger := hfield (show js "trigger" ∉ govdispEventBaseShape by decide)
      rw [(lookup_attempt eventType attemptIndex trigger).1] at hindex
      rw [(lookup_attempt eventType attemptIndex trigger).2] at htrigger
      simp only [GovdispEvent.eventClass, GovdispEventBody.eventClass, readBody, htype, hindex,
        htrigger, readOptional_index, readOptional_enum]
      simp [GovdispEvent.eventType, GovdispEventBody.eventType]
  | finding eventType findingId ownerRole =>
      have hid := hfield (show js "finding_id" ∉ govdispEventBaseShape by decide)
      have hrole := hfield (show js "owner_role" ∉ govdispEventBaseShape by decide)
      rw [lookup_ownerRole] at hrole
      replace hid : _ = textJson findingId := hid
      simp only [GovdispEvent.eventClass, GovdispEventBody.eventClass, readBody, htype, hid, hrole,
        readOptional_text]
      simp [GovdispEvent.eventType, GovdispEventBody.eventType]
  | breakGlass eventType authorizingHuman contradictionRef =>
      have hhuman : _ = textJson authorizingHuman :=
        hfield (show js "authorizing_human" ∉ govdispEventBaseShape by decide)
      have hreference : _ = textJson contradictionRef :=
        hfield (show js "contradiction_ref" ∉ govdispEventBaseShape by decide)
      simp only [GovdispEvent.eventClass, GovdispEventBody.eventClass, readBody, htype, hhuman,
        hreference]
      simp [GovdispEvent.eventType, GovdispEventBody.eventType]
  | budget eventType budgetKind =>
      have hkind : _ = JsValue.string (Spelled.text budgetKind) :=
        hfield (show js "budget_kind" ∉ govdispEventBaseShape by decide)
      simp only [GovdispEvent.eventClass, GovdispEventBody.eventClass, readBody, htype, hkind]
      simp [GovdispEvent.eventType, GovdispEventBody.eventType]
  | terminal eventType contentHashes =>
      have hhashes : _ = JsValue.array (contentHashes.1.map ContentHash.toJson) :=
        hfield (show js "content_hashes" ∉ govdispEventBaseShape by decide)
      simp only [GovdispEvent.eventClass, GovdispEventBody.eventClass, readBody, htype, hhashes,
        readContentHashes_toJson]
      simp [GovdispEvent.eventType, GovdispEventBody.eventType]
  | audit eventType target =>
      have htarget : _ = target.toJson :=
        hfield (show js "target" ∉ govdispEventBaseShape by decide)
      simp only [GovdispEvent.eventClass, GovdispEventBody.eventClass, readBody, htype, htarget,
        readAuditTarget_toJson]
      simp [GovdispEvent.eventType, GovdispEventBody.eventType]

theorem names_body (body : GovdispEventBody) :
    (body.fields.map Prod.fst).Sublist (classShape body.eventClass) := by
  cases body with
  | attempt eventType attemptIndex trigger =>
      cases attemptIndex <;> cases trigger <;>
        simp [GovdispEventBody.fields, optionalField, classShape, GovdispEventBody.eventClass]
  | finding eventType findingId ownerRole =>
      cases ownerRole <;>
        simp [GovdispEventBody.fields, optionalField, classShape, GovdispEventBody.eventClass]
  | breakGlass => exact List.Sublist.refl _
  | budget => exact List.Sublist.refl _
  | terminal => exact List.Sublist.refl _
  | audit => exact List.Sublist.refl _

/-- The members of an event are among those of its class, in their order. -/
theorem names_fields (event : GovdispEvent) :
    (event.fields.map Prod.fst).Sublist
      (govdispEventBaseShape ++ classShape event.eventClass) := by
  rw [GovdispEvent.fields, List.map_append]
  apply List.Sublist.append _ (names_body event.body)
  cases event.actorRole with
  | none => 
      simp [optionalField, govdispEventBaseShape]
  | some role => exact List.Sublist.refl _

theorem hasOnly_toJson (event : GovdispEvent) :
    hasOnly (govdispEventBaseShape ++ classShape event.eventClass) event.toJson = true := by
  rw [GovdispEvent.toJson, hasOnly, List.all_eq_true]
  intro entry hentry
  rw [List.contains_iff_mem]
  exact (names_fields event).subset (List.mem_map_of_mem hentry)

/-- The schema reads an event's object back as the event. -/
theorem parseGovdispEvent_toJson (event : GovdispEvent) :
    parseGovdispEvent event.toJson = some event := by
  have hversion : event.toJson.field (js "schema_version") =
      .string govdispEventSchemaVersion := rfl
  have hid : event.toJson.field (js "event_id") = textJson event.eventId := rfl
  have hts : event.toJson.field (js "ts") = textJson event.ts := rfl
  have hobjective : event.toJson.field (js "stable_objective_id") =
      textJson event.stableObjectiveId := rfl
  have hadmitted : (hasOnly (govdispEventBaseShape ++ classShape event.eventClass) event.toJson &&
      isSchemaVersion (.string govdispEventSchemaVersion)) = true := by
    rw [hasOnly_toJson]
    rfl
  simp only [parseGovdispEvent, field_eventClass, readEnum_text, Option.bind_eq_bind,
    Option.bind_some, hversion, hadmitted, if_true, hid, hts, hobjective, readText_textJson,
    field_actorRole, readOptional_text, readBody_toJson]

/-! ## Plain data -/

theorem plainFields_append (left right : List (JsString × JsValue)) :
    Json.PlainFields (left ++ right) ↔ Json.PlainFields left ∧ Json.PlainFields right := by
  induction left with
  | nil => simp [Json.PlainFields]
  | cons entry rest ih => simp [Json.PlainFields, ih, and_assoc]

theorem plainFields_optional (name : JsString) {value : Option JsValue}
    (hvalue : ∀ present ∈ value, Json.Plain present) :
    Json.PlainFields (optionalField name value) := by
  cases value with
  | none => exact trivial
  | some present => exact ⟨hvalue present rfl, trivial⟩

theorem plain_text (text : NonEmptyText) : Json.Plain (textJson text) := trivial

theorem plainItems_hashes (hashes : List ContentHash) :
    Json.PlainItems (hashes.map ContentHash.toJson) := by
  apply Json.plainItems_of_forall
  intro item hitem
  obtain ⟨hash, -, rfl⟩ := List.mem_map.mp hitem
  exact ⟨(by decide : [js "path", js "sha256"].Nodup), trivial, trivial, trivial⟩

theorem plain_body (body : GovdispEventBody) : Json.PlainFields body.fields := by
  cases body with
  | attempt eventType attemptIndex trigger =>
      rw [GovdispEventBody.fields, plainFields_append]
      constructor
      · apply plainFields_optional
        intro present hpresent
        obtain ⟨index, -, rfl⟩ := Option.mem_map.mp hpresent
        exact ⟨index.1, index.2.2, rfl⟩
      · apply plainFields_optional
        intro present hpresent
        obtain ⟨trigger, -, rfl⟩ := Option.mem_map.mp hpresent
        exact trivial
  | finding eventType findingId ownerRole =>
      refine ⟨trivial, plainFields_optional _ ?_⟩
      intro present hpresent
      obtain ⟨role, -, rfl⟩ := Option.mem_map.mp hpresent
      exact plain_text role
  | breakGlass => exact ⟨trivial, trivial, trivial⟩
  | budget => exact ⟨trivial, trivial⟩
  | terminal eventType contentHashes => exact ⟨plainItems_hashes contentHashes.1, trivial⟩
  | audit eventType target =>
      cases target with
      | ordinaryWork => exact ⟨⟨by decide, trivial, trivial⟩, trivial⟩
      | audit targetEventId =>
          exact ⟨⟨(by decide : [js "kind", js "target_event_id"].Nodup), trivial, trivial,
            trivial⟩, trivial⟩

theorem shape_nodup (eventClass : GovdispEventClass) :
    (govdispEventBaseShape ++ classShape eventClass).Nodup := by
  cases eventClass <;> decide

theorem plain_toJson (event : GovdispEvent) : Json.Plain event.toJson := by
  constructor
  · exact (names_fields event).nodup (shape_nodup event.eventClass)
  · rw [GovdispEvent.fields, plainFields_append, plainFields_append, plainFields_append]
    refine ⟨⟨⟨?_, ?_⟩, ?_⟩, plain_body event.body⟩
    · exact ⟨trivial, trivial, trivial, trivial, trivial⟩
    · apply plainFields_optional
      intro present hpresent
      obtain ⟨role, -, rfl⟩ := Option.mem_map.mp hpresent
      exact plain_text role
    · exact ⟨trivial, trivial, trivial⟩

end OdinSentinel.Registry
