import OdinSentinel.Protocol.DeliveryProof

/-!
# Delivery verdicts

What a record shows that is judged delivered.  A refusal record is never judged so, nor is
a dry run or a record with anything missing or invalid.
-/

namespace OdinSentinel.DeliveryProof

open JsText Validators

variable {proof : JsValue}

/-- The payload holds a newline, by declaration or in its preview. -/
def HasNewline (proof : JsValue) : Prop :=
  proof.field (js "payload_contains_newline") = .bool true ∨
    ∃ preview, proof.field (js "payload_preview") = .string preview ∧ (10 ∈ preview ∨ 13 ∈ preview)

/-- A record that shows a delivery. -/
structure ShowsDelivery (proof : JsValue) : Prop where
  submitted : proof.field (js "submitted") = .bool true
  sent : proof.field (js "dry_run") ≠ .bool true
  kind : isNullish (proof.field (js "record_kind")) = true ∨
    proof.field (js "record_kind") = .string (js "delivery")
  given : ∀ name ∈ cmuxDeliveryProofFields, IsGiven proof name
  state : ∃ state ∈ cmuxDeliveryStates,
    proof.field (js "observed_processing_state") = .string state ∧
      state ≠ js "INPUT_BAR_ONLY" ∧ state ≠ js "SEAT_CAPPED"
  flattened : proof.field (js "target_submit_profile") = .string (js "single_line_flatten") →
    HasNewline proof → proof.field (js "newlines_flattened") = .bool true

theorem isExactlyTrue_iff {value : JsValue} : isExactlyTrue value = true ↔ value = .bool true := by
  cases value <;> simp [isExactlyTrue]

theorem asString_eq_some_iff {value : JsValue} {text : JsString} :
    value.asString = some text ↔ value = .string text := by
  cases value <;> simp [JsValue.asString]

theorem machineGuns_eq_false_iff :
    machineGuns proof = false ↔
      (proof.field (js "target_submit_profile") = .string (js "single_line_flatten") →
        HasNewline proof → proof.field (js "newlines_flattened") = .bool true) := by
  have hnewline : (isExactlyTrue (proof.field (js "payload_contains_newline")) ||
      (proof.field (js "payload_preview")).asString.any fun preview =>
        preview.any fun unit => unit == 10 || unit == 13) = true ↔ HasNewline proof := by
    simp only [Bool.or_eq_true, isExactlyTrue_iff, Option.any_eq_true, asString_eq_some_iff,
      List.any_eq_true, beq_iff_eq, HasNewline]
    apply or_congr_right
    apply exists_congr
    intro preview
    apply and_congr_right
    intro _
    constructor
    · rintro ⟨unit, hmem, rfl | rfl⟩
      · exact .inl hmem
      · exact .inr hmem
    · rintro (hmem | hmem)
      · exact ⟨10, hmem, .inl rfl⟩
      · exact ⟨13, hmem, .inr rfl⟩
  rw [← Bool.not_eq_true, machineGuns, Bool.and_eq_true, Bool.and_eq_true, hnewline,
    Bool.not_eq_true', beq_iff_eq, asString_eq_some_iff, ← isExactlyTrue_iff]
  cases isExactlyTrue (proof.field (js "newlines_flattened")) <;> simp

/-- What a post-send record without a fault has. -/
structure SendsCleanly (proof : JsValue) : Prop where
  missing : validateRequiredFields proof
    (if isExactlyTrue (proof.field (js "dry_run")) then
      [js "target_surface_locator", js "sender_role", js "timestamp"]
    else cmuxDeliveryProofFields) = []
  boolean : isNoBoolean (proof.field (js "submitted")) = false
  submitted : (!isExactlyTrue (proof.field (js "dry_run")) &&
    isExactlyFalse (proof.field (js "submitted"))) = false
  flattened : machineGuns proof = false
  inBar : (proof.field (js "observed_processing_state")).asString ≠ some (js "INPUT_BAR_ONLY")
  kind : (isNullish (proof.field (js "record_kind")) ||
    (proof.field (js "record_kind")).asString.any cmuxRecordKinds.contains) = true

theorem sendsCleanly_of_valid (hvalid : (validateCmuxSendProse proof).valid = true) :
    SendsCleanly proof := by
  obtain ⟨hmissing, hinvalid⟩ := buildValidationResult_valid_iff.mp hvalid
  obtain ⟨hplaced, hkind⟩ := List.append_eq_nil_iff.mp hinvalid
  rw [noteIf_eq_nil_iff, Bool.not_eq_false'] at hkind
  have hbar : (proof.field (js "observed_processing_state")).asString ≠
      some (js "INPUT_BAR_ONLY") := by
    intro hbar
    rw [if_pos hbar] at hplaced
    exact pushNew_ne_nil _ _ hplaced
  rw [if_neg hbar] at hplaced
  simp only [List.append_eq_nil_iff, noteIf_eq_nil_iff] at hplaced
  obtain ⟨⟨⟨-, hboolean⟩, hsubmitted⟩, hflattened⟩ := hplaced
  exact {
    missing := hmissing
    boolean := hboolean
    submitted := hsubmitted
    flattened := hflattened
    inBar := hbar
    kind := hkind }

/-- A record that is judged delivered is valid, no dry run, and in a state that says so. -/
theorem deliveryVerdictFor_delivered {valid : Bool}
    (hdelivered : deliveryVerdictFor valid proof = .delivered ∨
      deliveryVerdictFor valid proof = .deliveredNoAck) :
    valid = true ∧ isExactlyTrue (proof.field (js "dry_run")) = false ∧
      ∃ state ∈ cmuxDeliveryStates,
        (proof.field (js "observed_processing_state")).asString = some state ∧
          state ≠ js "SEAT_CAPPED" := by
  unfold deliveryVerdictFor at hdelivered
  dsimp only at hdelivered
  split_ifs at hdelivered with hvalid hdry hcapped hacked hknown
  · simp at hdelivered
  · simp at hdelivered
  · simp at hdelivered
  · exact ⟨by simpa using hvalid, by simpa using hdry, _, by decide, hacked, by decide⟩
  · obtain ⟨state, hstate, hmem⟩ := (Option.any_eq_true _ _).mp hknown
    refine ⟨by simpa using hvalid, by simpa using hdry, state, by simpa using hmem, hstate, ?_⟩
    rintro rfl
    exact hcapped hstate
  · simp at hdelivered

theorem showsDelivery_of_send
    (hdelivered : (validateCmuxSendProse proof).delivery = .delivered ∨
      (validateCmuxSendProse proof).delivery = .deliveredNoAck)
    (hkind : (proof.field (js "record_kind")).asString ≠ some (js "send_refusal")) :
    ShowsDelivery proof := by
  obtain ⟨hvalid, hdry, state, hknown, hstate, huncapped⟩ :=
    deliveryVerdictFor_delivered hdelivered
  have hclean := sendsCleanly_of_valid hvalid
  have hgiven : ∀ name ∈ cmuxDeliveryProofFields, IsGiven proof name := by
    have hmissing := hclean.missing
    rw [hdry] at hmissing
    exact validateRequiredFields_eq_nil_iff.mp hmissing
  refine ⟨?_, ?_, ?_, hgiven, ⟨state, hknown, asString_eq_some_iff.mp hstate, ?_, huncapped⟩,
    machineGuns_eq_false_iff.mp hclean.flattened⟩
  · -- `submitted` is there, a boolean, and not `false`.
    have hthere := (hgiven (js "submitted") (by decide)).1
    have hboolean := hclean.boolean
    have htrue := hclean.submitted
    rw [hdry] at htrue
    cases hsubmitted : proof.field (js "submitted") with
    | bool value =>
        rw [hsubmitted] at htrue
        cases value with
        | true => rfl
        | false => cases htrue
    | undefined =>
        rw [hsubmitted] at hthere
        cases hthere
    | _ =>
        rw [hsubmitted] at hboolean
        cases hboolean
  · rw [Ne, ← isExactlyTrue_iff, hdry]
    exact Bool.false_ne_true
  · rcases Bool.or_eq_true_iff.mp hclean.kind with hnullish | hany
    · exact .inl hnullish
    · obtain ⟨kind, hkindText, hmem⟩ := (Option.any_eq_true _ _).mp hany
      rw [List.contains_iff_mem] at hmem
      rcases List.mem_pair.mp hmem with rfl | rfl
      · exact .inr (asString_eq_some_iff.mp hkindText)
      · exact absurd hkindText hkind
  · rintro rfl
    exact hclean.inBar hstate

/-- A refusal record is never judged delivered. -/
theorem refusal_undelivered :
    (validateCmuxSendRefusalProse proof).delivery ≠ .delivered ∧
      (validateCmuxSendRefusalProse proof).delivery ≠ .deliveredNoAck := by
  rw [validateCmuxSendRefusalProse]
  dsimp only
  constructor
  · split <;> simp
  · split <;> simp

/-- An invalid record proves nothing, and one that is judged delivered is valid and shows its
delivery, whatever the registry says of it. -/
theorem deliveryVerdict_sound (proof : JsValue) (options : RegistryAuthorityOptions) :
    ((validateCmuxDeliveryProof proof options).delivery = .delivered ∨
        (validateCmuxDeliveryProof proof options).delivery = .deliveredNoAck →
      (validateCmuxDeliveryProof proof options).valid = true ∧ ShowsDelivery proof) ∧
    ((validateCmuxDeliveryProof proof options).valid = false →
      (validateCmuxDeliveryProof proof options).delivery = .notProven) := by
  have hverdict : (validateCmuxDeliveryProof proof options).delivery =
      if (validateCmuxDeliveryProof proof options).valid then
        (validateCmuxDeliveryProofProse proof).delivery
      else .notProven := rfl
  constructor
  · intro hdelivered
    have hvalid : (validateCmuxDeliveryProof proof options).valid = true := by
      by_contra hinvalid
      rw [hverdict, if_neg hinvalid] at hdelivered
      simp at hdelivered
    rw [hverdict, if_pos hvalid] at hdelivered
    refine ⟨hvalid, ?_⟩
    rw [validateCmuxDeliveryProofProse] at hdelivered
    split_ifs at hdelivered with hkind
    · rcases hdelivered with hdelivered | hdelivered
      · exact absurd hdelivered refusal_undelivered.1
      · exact absurd hdelivered refusal_undelivered.2
    · exact showsDelivery_of_send hdelivered hkind
  · intro hinvalid
    rw [hverdict, hinvalid]
    rfl

/-- A record of an acknowledged delivery. -/
def ackedProof : JsValue := .object
  [(js "target_surface_locator", .string (js "surface:7")), (js "submitted", .bool true),
    (js "verification_method", .string (js "read_screen")),
    (js "observed_processing_state", .string (js "DELIVERED_ACKED")),
    (js "timestamp", .string (js "2026-10-31T00:00:00Z")),
    (js "sender_role", .string (js "A/EXEC-PM"))]

/-- No registry: the flag is off. -/
def proseOnly : RegistryAuthorityOptions where
  enabled := false
  resolve _ _ := .unresolved [] none none

theorem deliveryVerdict_sound_acked :
    (validateCmuxDeliveryProof ackedProof proseOnly).delivery = .delivered ∧
    (validateCmuxDeliveryProof ackedProof proseOnly).valid = true ∧ ShowsDelivery ackedProof := by
  have hdelivered : (validateCmuxDeliveryProof ackedProof proseOnly).delivery = .delivered := by
    decide +kernel
  exact ⟨hdelivered, (deliveryVerdict_sound ackedProof proseOnly).1 (.inl hdelivered)⟩

end OdinSentinel.DeliveryProof
