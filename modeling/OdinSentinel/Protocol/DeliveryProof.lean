import OdinSentinel.Protocol.Validators

/-!
# Delivery proofs

`validateCmuxDeliveryProof`: the prose checks of a delivery record and of a typed
refusal, the verdict on what a record attests, and the registry branch over an
injected resolution of authority references.
-/

namespace OdinSentinel.DeliveryProof

open JsText Validators

/-! ## Registry authority -/

inductive RegistryAuthorityResolution
  | resolved (scope eventId eventClass : JsString)
  | unresolved (detail : JsString) (scope eventId : Option JsString)

/-- The flag, and how a reference to the registry resolves for a kind of artifact. -/
structure RegistryAuthorityOptions where
  enabled : Bool
  resolve : JsString → JsValue → RegistryAuthorityResolution

inductive Authority
  | registry
  | proseTransport
  deriving DecidableEq

structure RegistryModeValidationResult extends ValidationResult where
  authority : Option Authority
  registryAuthority : Option RegistryAuthorityResolution

def registryAuthorityUnresolvedCode : JsString := js "registry_authority_unresolved"

def adjudicateRegistryAuthority (artifactLabel : JsString) (payload : JsValue)
    (options : RegistryAuthorityOptions) : Option RegistryModeValidationResult :=
  let reference := payload.field (js "registry_authority")
  if !options.enabled || isNullish reference then none
  else
    let resolution := options.resolve artifactLabel reference
    match resolution with
    | .unresolved detail _ _ => some
        { valid := false
          missing := []
          invalid := [js "registry_authority"]
          warnings := [registryAuthorityUnresolvedCode ++ js ": " ++ detail ++
            js " — a registry authority reference that fails to resolve is rejected by name; the prose fields are never silently promoted to authority (GD-FP-013)"]
          authority := none
          registryAuthority := some resolution }
    | .resolved scope eventId eventClass => some
        { valid := true
          missing := []
          invalid := []
          warnings := [js "registry authority resolved: " ++ eventClass ++ js " event \"" ++
            eventId ++ js "\" in scope \"" ++ scope ++
            js "\" is the single authority for this " ++ artifactLabel ++
            js " (GD-FP-013); the prose fields are transport/history and were not re-validated as authority"]
          authority := some .registry
          registryAuthority := some resolution }

def withProseTransportAdvisory (base : ValidationResult) (options : RegistryAuthorityOptions) :
    RegistryModeValidationResult where
  toValidationResult := base
  authority := if options.enabled then some .proseTransport else none
  registryAuthority := none

/-! ## Prose -/

def cmuxDeliveryStates : List JsString :=
  [js "DELIVERED_ACKED", js "DELIVERED_NO_ACK", js "INPUT_BAR_ONLY",
    js "PANE_BLOCKED_ON_PERMISSION", js "PANE_STILL_THINKING", js "SEAT_CAPPED"]

inductive CmuxDeliveryVerdict
  | delivered
  | deliveredNoAck
  | notDelivered
  | notProven
  deriving DecidableEq

def cmuxRecordKinds : List JsString := [js "delivery", js "send_refusal"]

def cmuxSendRefusalStates : List JsString :=
  [js "PANE_STILL_THINKING", js "PANE_BLOCKED_ON_PERMISSION", js "INPUT_BAR_ONLY",
    js "SEAT_CAPPED"]

def cmuxDeliveryProofFields : List JsString :=
  [js "target_surface_locator", js "submitted", js "verification_method",
    js "observed_processing_state", js "timestamp", js "sender_role"]

/-- The kinds of the text fields of a proof. -/
def cmuxDeliveryProofKinds : List (JsString × FieldKind) :=
  [(js "target_surface_locator", .string), (js "verification_method", .string),
    (js "observed_processing_state", .string), (js "timestamp", .string),
    (js "sender_role", .string)]

structure CmuxDeliveryProseResult extends ValidationResult where
  delivery : CmuxDeliveryVerdict
  nonDeliveryReason : Option JsString
  deriving DecidableEq

/-- A text where its condition holds. -/
def noteIf (holds : Bool) (text : JsString) : List JsString := if holds then [text] else []

theorem noteIf_eq_nil_iff {holds : Bool} {text : JsString} :
    noteIf holds text = [] ↔ holds = false := by
  cases holds <;> simp [noteIf]

def isExactlyTrue : JsValue → Bool
  | .bool value => value
  | _ => false

def isExactlyFalse : JsValue → Bool
  | .bool value => !value
  | _ => false

/-- `value !== undefined && typeof value !== "boolean"`. -/
def isNoBoolean : JsValue → Bool
  | .undefined => false
  | .bool _ => false
  | _ => true

/-- `names` with `name` at its end, unless it is there. -/
def pushNew (names : List JsString) (name : JsString) : List JsString :=
  if names.contains name then names else names ++ [name]

theorem pushNew_ne_nil (names : List JsString) (name : JsString) : pushNew names name ≠ [] := by
  rw [pushNew]
  split
  · rename_i hmem
    rintro rfl
    cases hmem
  · exact List.append_ne_nil_of_right_ne_nil names (List.cons_ne_nil name [])

def deliveryVerdictFor (valid : Bool) (proof : JsValue) : CmuxDeliveryVerdict :=
  let state := (proof.field (js "observed_processing_state")).asString
  if !valid then .notProven
  else if isExactlyTrue (proof.field (js "dry_run")) then .notProven
  else if state = some (js "SEAT_CAPPED") then .notDelivered
  else if state = some (js "DELIVERED_ACKED") then .delivered
  else if state.any cmuxDeliveryStates.contains then .deliveredNoAck
  else .notProven

def joinComma (texts : List JsString) : JsString := List.intercalate (js ", ") texts

/-- A typed refusal: nothing was sent, and the record must not claim that it was. -/
def validateCmuxSendRefusalProse (proof : JsValue) : CmuxDeliveryProseResult :=
  let missing := validateRequiredFields proof cmuxDeliveryProofFields
  let state := (proof.field (js "observed_processing_state")).asString
  let submitted := proof.field (js "submitted")
  let unknownState := state.any fun state => !cmuxDeliveryStates.contains state
  let claimsDelivery := !unknownState &&
    state.any fun state => !cmuxSendRefusalStates.contains state
  let invalid := validateFieldTypes proof cmuxDeliveryProofKinds ++
    noteIf (unknownState || claimsDelivery) (js "observed_processing_state") ++
    noteIf (isNoBoolean submitted) (js "submitted") ++
    noteIf (isExactlyTrue submitted) (js "submitted")
  let warnings :=
    noteIf unknownState
      (js "observed_processing_state must be one of: " ++ joinComma cmuxDeliveryStates) ++
    noteIf claimsDelivery
      (js "SEND_REFUSAL_CANNOT_CLAIM_DELIVERY: record_kind \"send_refusal\" records a pre-send refusal (" ++
        joinComma cmuxSendRefusalStates ++ js "); " ++ state.getD [] ++
        js " attests a delivery and must be logged without record_kind, or with record_kind \"delivery\".") ++
    noteIf (isExactlyTrue submitted)
      (js "SEND_REFUSAL_CANNOT_CLAIM_DELIVERY: record_kind \"send_refusal\" is a pre-send record; submitted=true attests a delivery and must be logged as a delivery record.")
  let result := buildValidationResult missing invalid warnings
  { toValidationResult := result
    delivery := if result.valid then .notDelivered else .notProven
    nonDeliveryReason :=
      if result.valid && state.any cmuxSendRefusalStates.contains then state else none }

/-- Whether the payload would fire line by line in a harness that submits on every newline. -/
def machineGuns (proof : JsValue) : Bool :=
  (proof.field (js "target_submit_profile")).asString == some (js "single_line_flatten") &&
    (isExactlyTrue (proof.field (js "payload_contains_newline")) ||
      (proof.field (js "payload_preview")).asString.any fun preview =>
        preview.any fun unit => unit == 10 || unit == 13) &&
    !isExactlyTrue (proof.field (js "newlines_flattened"))

/-- What an observed state says beside the verdict. -/
def stateWarning (state : JsString) : List JsString :=
  if state = js "INPUT_BAR_ONLY" then
    [js "INPUT_BAR_ONLY: text is visible in the target input bar but not processed; not a valid delivery until submitted and confirmed."]
  else if state = js "PANE_BLOCKED_ON_PERMISSION" then
    [js "Target pane received the message but is blocked on a permission/approval prompt; classify and resolve before treating it as actioned."]
  else if state = js "DELIVERED_NO_ACK" then
    [js "Delivered, but no acknowledgement observed yet; revisit on the next poll."]
  else if state = js "PANE_STILL_THINKING" then
    [js "Delivered; target is still processing. Revisit to confirm completion."]
  else []

/-- A post-send record, or a dry run of one. -/
def validateCmuxSendProse (proof : JsValue) : CmuxDeliveryProseResult :=
  let rawRecordKind := proof.field (js "record_kind")
  let recordKindKnown := isNullish rawRecordKind ||
    rawRecordKind.asString.any cmuxRecordKinds.contains
  let dryRun := isExactlyTrue (proof.field (js "dry_run"))
  let requiredFields :=
    if dryRun then [js "target_surface_locator", js "sender_role", js "timestamp"]
    else cmuxDeliveryProofFields
  let missing := validateRequiredFields proof requiredFields
  let state := (proof.field (js "observed_processing_state")).asString
  let submitted := proof.field (js "submitted")
  let unknownState := state.any fun state => !cmuxDeliveryStates.contains state
  let stateField := js "observed_processing_state"
  let typed := validateFieldTypes proof cmuxDeliveryProofKinds
  let named := if unknownState then pushNew typed stateField else typed
  let sent := named ++ noteIf (isNoBoolean submitted) (js "submitted") ++
    noteIf (!dryRun && isExactlyFalse submitted) (js "submitted") ++
    noteIf (machineGuns proof) (js "payload_contains_newline")
  let placed := if state = some (js "INPUT_BAR_ONLY") then pushNew sent stateField else sent
  let invalid := placed ++ noteIf (!recordKindKnown) (js "record_kind")
  let warnings :=
    noteIf unknownState
      (js "observed_processing_state must be one of: " ++ joinComma cmuxDeliveryStates) ++
    noteIf (!dryRun && isExactlyFalse submitted)
      (js "CMUX text was not submitted with Enter; this is INPUT_BAR_ONLY, not delivery. Send Enter and re-read the target surface.") ++
    noteIf (machineGuns proof)
      (js "MULTILINE_TO_SINGLE_SUBMIT_HARNESS: the payload contains embedded newlines and the target harness submits on EVERY newline — each line fires as a separate prompt (machine-gunning) even with Enter sent. Flatten newlines/CR/tabs to single spaces (field separator \" ;; \") before the one submit, or set newlines_flattened: true when the canonical helper already flattened it.") ++
    noteIf dryRun
      (js "dry_run: pre-dispatch format check only — this proof does not attest delivery; emit a full delivery proof after the send.") ++
    stateWarning (state.getD []) ++
    noteIf (!recordKindKnown)
      (js "record_kind must be one of: " ++ joinComma cmuxRecordKinds ++
        js " (omit it, or use \"delivery\", for a post-send delivery record; \"send_refusal\" for a typed pre-send refusal)")
  let result := buildValidationResult missing invalid warnings
  { toValidationResult := result
    delivery := deliveryVerdictFor result.valid proof
    nonDeliveryReason := none }

def validateCmuxDeliveryProofProse (proof : JsValue) : CmuxDeliveryProseResult :=
  if (proof.field (js "record_kind")).asString = some (js "send_refusal") then
    validateCmuxSendRefusalProse proof
  else validateCmuxSendProse proof

structure CmuxDeliveryValidationResult extends RegistryModeValidationResult where
  delivery : CmuxDeliveryVerdict
  nonDeliveryReason : Option JsString

/-- The registry decides where it is asked; the verdict is the prose's, and only of
a valid record. -/
def validateCmuxDeliveryProof (proof : JsValue) (options : RegistryAuthorityOptions) :
    CmuxDeliveryValidationResult :=
  let prose := validateCmuxDeliveryProofProse proof
  let base := (adjudicateRegistryAuthority (js "cmux_delivery_proof") proof options).getD
    (withProseTransportAdvisory prose.toValidationResult options)
  let delivery := if base.valid then prose.delivery else .notProven
  { toRegistryModeValidationResult := base
    delivery := delivery
    nonDeliveryReason :=
      if base.valid && delivery == .notDelivered then prose.nonDeliveryReason else none }

/-- Without a registry reference the record's own prose decides. -/
theorem validateCmuxDeliveryProof_prose {proof : JsValue} (options : RegistryAuthorityOptions)
    (hreference : isNullish (proof.field (js "registry_authority")) = true) :
    (validateCmuxDeliveryProof proof options).delivery =
      if (validateCmuxDeliveryProofProse proof).valid then
        (validateCmuxDeliveryProofProse proof).delivery
      else .notProven := by
  have hnone : adjudicateRegistryAuthority (js "cmux_delivery_proof") proof options = none := by
    simp [adjudicateRegistryAuthority, hreference]
  simp [validateCmuxDeliveryProof, hnone, withProseTransportAdvisory]

theorem validateCmuxDeliveryProof_valid {proof : JsValue} (options : RegistryAuthorityOptions)
    (hreference : isNullish (proof.field (js "registry_authority")) = true) :
    (validateCmuxDeliveryProof proof options).valid = (validateCmuxDeliveryProofProse proof).valid := by
  have hnone : adjudicateRegistryAuthority (js "cmux_delivery_proof") proof options = none := by
    simp [adjudicateRegistryAuthority, hreference]
  simp [validateCmuxDeliveryProof, hnone, withProseTransportAdvisory]

theorem validateCmuxDeliveryProof_reason {proof : JsValue} (options : RegistryAuthorityOptions)
    (hvalid : (validateCmuxDeliveryProof proof options).valid = true)
    (hrefused : (validateCmuxDeliveryProof proof options).delivery = .notDelivered) :
    (validateCmuxDeliveryProof proof options).nonDeliveryReason =
      (validateCmuxDeliveryProofProse proof).nonDeliveryReason := by
  rw [validateCmuxDeliveryProof] at hvalid hrefused ⊢
  dsimp only at hvalid hrefused ⊢
  rw [hrefused, hvalid]
  rfl

end OdinSentinel.DeliveryProof
