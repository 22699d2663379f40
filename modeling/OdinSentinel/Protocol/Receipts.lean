import OdinSentinel.Protocol.DeliveryProof
import OdinSentinel.Protocol.ReadinessGate

/-!
# Receipts

The prose checks of an instruction-read proof, a delegation packet, a boot receipt and a
team manifest.  The field lists that a check takes from the protocol's data files are
arguments.
-/

namespace OdinSentinel.Receipts

open JsText Unicode Validators Regex
open DeliveryProof (RegistryAuthorityOptions isExactlyTrue isExactlyFalse validateCmuxDeliveryProof)
open Readiness (isGovernedRole isOdinRole minimumCompatibleMcpVersion)

/-! ## Values -/

/-- A field refused without a text, where its condition holds. -/
def refuseSilentlyIf (holds : Bool) (name : JsString) : Findings :=
  if holds then Findings.refuse name else Findings.none

/-- What a list of rules pushes, in order. -/
def concat (findings : List Findings) : Findings :=
  findings.foldr (fun finding found => finding ++ found) Findings.none

/-- The names of fields of a part of a record. -/
def within (part : JsString) (names : List JsString) : List JsString :=
  names.map fun name => part ++ js "." ++ name

def isSlotStart (unit : UInt16) : Bool := isUpper unit || isDigit unit

/-- `[A-Z0-9][A-Z0-9_-]*`. -/
def isSlotPart : JsString → Bool
  | [] => false
  | first :: rest => isSlotStart first && rest.all fun unit =>
      isSlotStart unit || unit == 95 || unit == 45

/-- `/^[A-Z0-9][A-Z0-9_-]*\/[A-Z0-9][A-Z0-9_-]*(?:-\d+)?$/`; the last group adds nothing. -/
def isVisibleRoleSlot (value : JsString) : Bool :=
  match value.splitOn 47 with
  | [team, role] => isSlotPart team && isSlotPart role
  | _ => false

/-- `Boolean(value)`. -/
def isTruthy : JsValue → Bool
  | .undefined | .null => false
  | .bool value => value
  | .number value => value != .nan && value != .finite 0
  | .string text => text != []
  | .array _ | .object _ => true

/-- `typeof value === "number" && Number.isFinite(value)`. -/
def isFiniteNumber : JsValue → Bool
  | .number value => value.isFinite
  | _ => false

/-- `Number.isInteger(value) && value >= 0`. -/
def isNaturalNumber : JsValue → Bool
  | .number (.finite value) => value.den == 1 && 0 ≤ value
  | _ => false

def validateNonEmptyArrays (value : JsValue) (fields : List JsString) : List JsString :=
  fields.filter fun name =>
    match value.field name with
    | .array items => items.isEmpty
    | _ => false

/-! ## Instruction reads -/

def instructionReadProofRequiredFields : List JsString :=
  [js "role", js "generated_at", js "files"]

/-- `files.index`. -/
def fileName (index : Nat) : JsString := js "files." ++ natText index

/-- What an entry of the files is refused for. -/
def fileFindings (entry : JsValue × Nat) : Findings :=
  let file := asRecord entry.1
  let index := entry.2
  refuseSilentlyIf (!isNonBlankText (file.field (js "path"))) (fileName index ++ js ".path") ++
  Findings.refuseIf (!isNonBlankText (file.field (js "sha256"))) (fileName index ++ js ".sha256")
    (fileName index ++ js " must include a sha256 digest proving full-content coverage") ++
  Findings.refuseIf
    (!isFiniteNumber (file.field (js "bytes")) && !isFiniteNumber (file.field (js "lines")))
    (fileName index ++ js ".bytes")
    (fileName index ++ js " must include a byte count or line count")

def validateInstructionReadProofProse (proof : JsValue) : ValidationResult :=
  let missing := validateRequiredFields proof instructionReadProofRequiredFields
  let typed := validateFieldTypes proof [(js "role", .string), (js "generated_at", .string)]
  let findings :=
    match proof.field (js "files") with
    | .array [] => Findings.refuseIf true (js "files")
        (js "instruction-read proof must list at least one file")
    | .array files => concat ((files.zipIdx).map fileFindings)
    | _ => refuseSilentlyIf (!missing.contains (js "files") && !typed.contains (js "files"))
        (js "files")
  buildValidationResult missing (typed ++ findings.invalid) findings.warnings

/-! ## Delegation -/

/-- `delegation_contract`. -/
structure DelegationContract where
  requiredFields : List JsString
  authorityFields : List JsString
  visibilityFields : List JsString
  receiptTypes : List JsString

/-- The delivery proof that a packet embeds: what it misses, and what it is refused for. -/
def embeddedProofFindings (packet : JsValue) (options : RegistryAuthorityOptions) :
    List JsString × Findings :=
  let deliveryProof := packet.field (js "delivery_proof")
  let visibility := asRecord (packet.field (js "visibility"))
  if !isNullish deliveryProof then
    let result := validateCmuxDeliveryProof (asRecord deliveryProof) options
    (within (js "delivery_proof") result.missing,
      { invalid := within (js "delivery_proof") result.invalid, warnings := result.warnings })
  else
    ([], Findings.adviseIf (isExactlyTrue (packet.field (js "cmux_dispatch")) &&
        !isExactlyFalse (visibility.field (js "delivery_proof_required")))
      (js "governed-team CMUX dispatch requires delivery proof, but the packet omits delivery_proof; after sending, record target_surface_locator, submitted=true, verification_method, observed_processing_state, timestamp, and sender_role"))

def validateDelegationPacketProse (contract : DelegationContract) (packet : JsValue)
    (options : RegistryAuthorityOptions) : ValidationResult :=
  let authority := asRecord (packet.field (js "authority"))
  let visibility := asRecord (packet.field (js "visibility"))
  let missing :=
    validateRequiredFields packet contract.requiredFields ++
    within (js "authority") (validateRequiredFields authority contract.authorityFields) ++
    within (js "visibility") (validateRequiredFields visibility contract.visibilityFields)
  let typed :=
    validateFieldTypes packet
      [(js "receipt_type", .string), (js "source_role", .string),
        (js "target_role_slot", .string), (js "task", .string), (js "scope", .string),
        (js "authority", .object), (js "report_back", .string), (js "visibility", .object)] ++
    within (js "authority") (validateFieldTypes authority
      [(js "may_implement", .boolean), (js "may_qa_accept", .boolean),
        (js "write_scope", .stringArray), (js "read_scope", .stringArray),
        (js "prohibited_paths", .stringArray)]) ++
    within (js "visibility") (validateFieldTypes visibility
      [(js "requires_visible_role_slot", .boolean), (js "hidden_agents_allowed", .boolean),
        (js "delivery_proof_required", .boolean)])
  let embedded := embeddedProofFindings packet options
  let findings :=
    refuseSilentlyIf ((packet.field (js "receipt_type")).asString.any fun text =>
      !contract.receiptTypes.contains text) (js "receipt_type") ++
    refuseSilentlyIf ((packet.field (js "target_role_slot")).asString.any fun text =>
      !isVisibleRoleSlot text) (js "target_role_slot") ++
    Findings.refuseIf (isExactlyTrue (visibility.field (js "hidden_agents_allowed")))
      (js "visibility.hidden_agents_allowed")
      (js "delegation permits hidden agents; ODIN requires visible role slots") ++
    Findings.refuseIf (isExactlyFalse (visibility.field (js "requires_visible_role_slot")))
      (js "visibility.requires_visible_role_slot")
      (js "delegation does not require a visible role slot") ++
    Findings.refuseIf (isExactlyFalse (visibility.field (js "delivery_proof_required")))
      (js "visibility.delivery_proof_required")
      (js "delegation does not require delivery proof") ++
    Findings.refuseIf (isExactlyTrue (authority.field (js "may_implement")) &&
        isExactlyTrue (authority.field (js "may_qa_accept")))
      (js "authority.may_qa_accept")
      (js "same delegation grants implementation and QA acceptance authority") ++
    embedded.2
  buildValidationResult (missing ++ embedded.1) (typed ++ findings.invalid) findings.warnings

/-! ## Boot receipts -/

/-- What `boot-receipt` says; `staffing_audit` as the file has it. -/
structure BootReceiptContract where
  requiredFields : List JsString
  staffingAudit : JsValue

def lifecycleStates : List JsString :=
  [js "SURFACE_PROVISIONED", js "BOOTSTRAPPED_IDLE", js "ACTIVE_WATCH", js "VACANT_ROLE_SLOT",
    js "AGENT_SUBSTITUTION_REQUIRED", js "RELEASED_BY_OPERATOR", js "HANDED_OFF",
    js "PARKED_IDLE", js "FAILED", js "WATCH_UNSUPPORTED"]

/-- `/token|key|secret/i`. -/
def secretWordRe : Pattern UInt16 :=
  .any [anyCase (js "token"), anyCase (js "key"), anyCase (js "secret")]

def requiredForNonExecTeam (staffingAudit : JsValue) : List JsString :=
  match staffingAudit.field (js "required_for_non_exec_team") with
  | .array items => items.filterMap JsValue.asString
  | _ => [js "staffed_by", js "parent_surface_ref", js "column_index", js "team_letter"]

/-- The staffing audit of a receipt outside team A: fields it misses, with their texts, and
what it is refused for. -/
def staffingFindings (staffingAudit receipt : JsValue) (team : JsString) :
    List JsString × Findings :=
  let missing := validateRequiredFields receipt (requiredForNonExecTeam staffingAudit)
  let canonicalStaffer :=
    (staffingAudit.field (js "staffed_by_canonical_value")).asString.getD (js "A/EXEC-PM")
  let staffedBy := (receipt.field (js "staffed_by")).asString
  let teamLetter := (receipt.field (js "team_letter")).asString
  (missing,
    concat (missing.map fun name => Findings.adviseIf true
      (js "staffing audit field required on non-exec receipt (team != \"A\"): " ++ name)) ++
    Findings.refuseIf (staffedBy.any fun staffer => staffer != canonicalStaffer)
      (js "staffed_by")
      (js "staffed_by is \"" ++ staffedBy.getD [] ++
        js "\" but staffing authority belongs solely to " ++ canonicalStaffer ++
        js "; self-staffing is halt-eligible") ++
    Findings.refuseIf (teamLetter.any fun letter => letter != [] && letter != team)
      (js "team_letter")
      (js "team_letter \"" ++ teamLetter.getD [] ++
        js "\" does not match the receipt's team prefix \"" ++ team ++ js "\""))

/-- `write_scope` has a text of its own for the two values that senders confuse with `[]`. -/
def writeScopeFindings (receipt : JsValue) : Findings :=
  match receipt.field (js "write_scope") with
  | .null => Findings.refuseIf true (js "write_scope")
      (js "write_scope: null is invalid; use write_scope: [] for unassigned or no-write roles")
  | .string _ => Findings.refuseIf true (js "write_scope")
      (js "write_scope must be an array of strings; use [] when no write scope is assigned")
  | _ => Findings.none

def validateBootReceiptProse (contract : BootReceiptContract) (receipt : JsValue) :
    ValidationResult :=
  let missing := validateRequiredFields receipt contract.requiredFields
  let typed := validateFieldTypes receipt
    [(js "role", .string), (js "authority_layer", .string), (js "team", .string),
      (js "terminal_locator", .string), (js "branch", .string), (js "cwd", .string),
      (js "model_harness", .string), (js "permission_mode", .string),
      (js "may_implement", .boolean), (js "may_qa_accept", .boolean), (js "reports_to", .string),
      (js "write_scope", .stringArray), (js "evidence_path", .string),
      (js "current_task", .string), (js "staffed_by", .string),
      (js "parent_surface_ref", .string), (js "team_letter", .string)]
  let staffing :=
    match (receipt.field (js "team")).asString with
    | some team =>
        if team ≠ [] ∧ team ≠ js "A" then
          staffingFindings (asRecord contract.staffingAudit) receipt team
        else ([], Findings.none)
    | none => ([], Findings.none)
  let findings :=
    writeScopeFindings receipt ++
    Findings.refuseIf ((receipt.field (js "lifecycle_state")).asString.any fun state =>
        !lifecycleStates.contains state)
      (js "lifecycle_state") (js "lifecycle_state is not one of the canonical ODIN/SCP states") ++
    Findings.refuseIf ((receipt.field (js "mcp_version")).asString.any fun version =>
        isVersionBelow version minimumCompatibleMcpVersion)
      (js "mcp_version")
      (js "MCP_VERSION_TOO_OLD: minimum compatible odin-sentinel MCP version is " ++
        minimumCompatibleMcpVersion) ++
    Findings.refuseIf (isExactlyTrue (receipt.field (js "may_implement")) &&
        isExactlyTrue (receipt.field (js "may_qa_accept")))
      (js "may_qa_accept")
      (js "same receipt grants both implementation and QA acceptance authority") ++
    Findings.adviseIf ((receipt.field (js "model_harness")).asString.any secretWordRe.test)
      (js "model_harness appears to contain secret-like wording") ++
    refuseSilentlyIf (!isNullish (receipt.field (js "column_index")) &&
      !isNaturalNumber (receipt.field (js "column_index"))) (js "column_index") ++
    staffing.2
  buildValidationResult (missing ++ staffing.1) (typed ++ findings.invalid) findings.warnings

/-! ## Team manifests -/

/-- What `team-manifest` says of a manifest and its role slots. -/
structure TeamManifestContract where
  requiredFields : List JsString
  roleSlotFields : List JsString
  layoutLocatorFields : List JsString
  readinessStatuses : List JsString
  scpContextSources : List JsString

variable (tables : Tables)

/-- `role_slots.index`. -/
def roleSlotName (index : Nat) : JsString := js "role_slots." ++ natText index

/-- `Object.keys(asRecord(value)).length === 0`. -/
def hasNoFields : JsValue → Bool
  | .object fields => fields.isEmpty
  | _ => true

/-- What an entry of the role slots is refused for. -/
def roleSlotFindings (contract : TeamManifestContract) (entry : JsValue × Nat) : Findings :=
  let slot := asRecord entry.1
  let name (part : JsString) : JsString := roleSlotName entry.2 ++ js "." ++ part
  let roleSlot := ((slot.field (js "role_slot")).asString).filter fun text => text != []
  let governed := !isExactlyFalse (slot.field (js "governed")) &&
    roleSlot.all (isGovernedRole tables)
  let layoutLocator := asRecord (slot.field (js "layout_locator"))
  let contextSource := ((slot.field (js "scp_context_source")).asString.map trim).getD []
  let recognizedContextSource := contract.scpContextSources.contains contextSource
  let hasContext := recognizedContextSource ||
    isExactlyTrue (slot.field (js "scp_skill_available")) ||
    isExactlyTrue (slot.field (js "full_protocol_text_injected")) ||
    isExactlyTrue (slot.field (js "mcp_available"))
  concat ((validateRequiredFields slot contract.roleSlotFields).map fun field =>
    Findings.refuse (name field)) ++
  refuseSilentlyIf (!roleSlot.any isVisibleRoleSlot) (name (js "role_slot")) ++
  refuseSilentlyIf (!isNonBlankText (slot.field (js "harness"))) (name (js "harness")) ++
  refuseSilentlyIf (!isNonBlankText (slot.field (js "readiness_status")) ||
    !(slot.field (js "readiness_status")).asString.any contract.readinessStatuses.contains)
    (name (js "readiness_status")) ++
  refuseSilentlyIf (governed && hasNoFields layoutLocator) (name (js "layout_locator")) ++
  concat (contract.layoutLocatorFields.map fun field =>
    refuseSilentlyIf (governed && !isNonBlankText (layoutLocator.field field))
      (name (js "layout_locator." ++ field))) ++
  refuseSilentlyIf (governed && !recognizedContextSource) (name (js "scp_context_source")) ++
  Findings.adviseIf (governed && !hasContext)
    (roleSlotName entry.2 ++ js " lacks SCP context source proof") ++
  Findings.refuseIf ((slot.field (js "mcp_version")).asString.any fun version =>
      isVersionBelow version minimumCompatibleMcpVersion)
    (name (js "mcp_version"))
    (roleSlotName entry.2 ++ js " MCP_VERSION_TOO_OLD: minimum compatible version is " ++
      minimumCompatibleMcpVersion) ++
  Findings.adviseIf (roleSlot.any (isOdinRole tables) && !isTruthy (slot.field (js "watches")))
    (roleSlotName entry.2 ++ js " ODIN slot should declare watcher assignments")

/-- A seat of the executive office has to be a visible slot. -/
def executiveOfficeFindings (entry : JsValue × Nat) : Findings :=
  refuseSilentlyIf (!entry.1.asString.any isVisibleRoleSlot)
    (js "executive_office." ++ natText entry.2)

/-- The entries of a list under its rule; anything else has none. -/
def eachEntry (value : JsValue) (rule : JsValue × Nat → Findings) : Findings :=
  match value with
  | .array items => concat ((items.zipIdx).map rule)
  | _ => Findings.none

def validateTeamManifestProse (contract : TeamManifestContract) (manifest : JsValue) :
    ValidationResult :=
  let missing := validateRequiredFields manifest contract.requiredFields
  let typed := validateFieldTypes manifest
    [(js "session_id", .string), (js "topology", .object), (js "executive_office", .stringArray),
      (js "development_pods", .stringArray), (js "odin_mesh", .object),
      (js "model_profile", .object), (js "handoff_sources", .stringArray),
      (js "startup_objectives", .stringArray)]
  let empty := validateNonEmptyArrays manifest
    [js "executive_office", js "development_pods", js "handoff_sources", js "startup_objectives"]
  let findings :=
    eachEntry (manifest.field (js "executive_office")) executiveOfficeFindings ++
    eachEntry (manifest.field (js "role_slots")) (roleSlotFindings tables contract)
  buildValidationResult missing (typed ++ empty ++ findings.invalid) findings.warnings

end OdinSentinel.Receipts
