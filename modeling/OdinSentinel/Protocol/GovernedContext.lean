import OdinSentinel.Core.Json
import OdinSentinel.Protocol.Redaction
import OdinSentinel.Protocol.RoleIdentity
import OdinSentinel.Protocol.Validators

/-!
# Governed context

The shape check of a governed-context proof, the category of a harness and the
four-state readiness that follows from the two and from the live blockers.
-/

namespace OdinSentinel.Readiness

open JsText Host Unicode Validators RoleIdentity

inductive GovernedReadinessState
  | governedReady
  | fixableBlocked
  | nonGovernedOneShotOnly
  | unsupported
  deriving DecidableEq

/-- The category of a harness; `inherited` is what the registry gives for a name
that every object has. -/
inductive HarnessCategory
  | nativeSkill
  | staticControlFile
  | mcpOnly
  | unsupported
  | inherited
  deriving DecidableEq

inductive AssuranceLevel
  | none
  | mcpBootstrap
  | staticControlFile
  | nativeSkill
  deriving DecidableEq

def AssuranceLevel.text : AssuranceLevel → JsString
  | .none => js "none"
  | .mcpBootstrap => js "mcp_bootstrap"
  | .staticControlFile => js "static_control_file"
  | .nativeSkill => js "native_skill"

/-- `ASSURANCE_RANK`. -/
def AssuranceLevel.rank : AssuranceLevel → Nat
  | .none => 0
  | .mcpBootstrap => 1
  | .staticControlFile => 2
  | .nativeSkill => 3

/-- A reason that is given when its condition holds. -/
def reasonIf (holds : Bool) (reason : JsString) : List JsString := if holds then [reason] else []

@[simp] theorem reasonIf_eq_nil {holds : Bool} {reason : JsString} :
    reasonIf holds reason = [] ↔ holds = false := by
  cases holds <;> simp [reasonIf]

/-! ## Harnesses -/

/-- `HARNESS_CATEGORY_REGISTRY`, with the two lower-case names that it inherits. -/
def harnessCategoryRegistry : List (JsString × HarnessCategory) :=
  [(js "codex", .nativeSkill), (js "claude code", .nativeSkill), (js "droid", .mcpOnly),
    (js "goose", .mcpOnly), (js "openhands", .mcpOnly), (js "kilocode", .mcpOnly),
    (js "cursor", .staticControlFile), (js "zed", .staticControlFile),
    (js "aider", .staticControlFile), (js "crush", .staticControlFile),
    (js "pi", .unsupported), (js "nanocoder", .unsupported),
    (js "constructor", .inherited), (js "__proto__", .inherited)]

variable (host : HostRuntime) (tables : Tables)

def harnessCategory (harness : JsString) : HarnessCategory :=
  (harnessCategoryRegistry.lookup (toLowerCase tables (trim harness))).getD .mcpOnly

def maxAssuranceForCategory : HarnessCategory → AssuranceLevel
  | .nativeSkill => .nativeSkill
  | .staticControlFile => .staticControlFile
  | .mcpOnly => .mcpBootstrap
  | .unsupported | .inherited => .none

/-! ## Proofs -/

def governedContextProofSchema : JsString := js "odin.governed_context_proof.v1"

/-- `GOVERNED_CONTEXT_SOURCE_TYPES`. -/
def governedContextSourceTypes : List JsString :=
  [js "native_skill", js "static_control_file", js "mcp_bootstrap"]

def sourceTypeToAssurance (sourceType : JsValue) : AssuranceLevel :=
  match sourceType with
  | .string text =>
      if text = js "native_skill" then .nativeSkill
      else if text = js "static_control_file" then .staticControlFile
      else if text = js "mcp_bootstrap" then .mcpBootstrap
      else .none
  | _ => .none

structure ProofCheck where
  valid : Bool
  proofAssurance : Option AssuranceLevel
  reasons : List JsString
  deriving DecidableEq

/-- `typeof value === "string" ? value.trim() : ""`. -/
def trimmedText : JsValue → JsString
  | .string text => trim text
  | _ => []

/-- What is wrong with an uptake receipt under a marker. -/
def uptakeReasons (marker : JsString) (receipt : JsValue) : List JsString :=
  match receipt with
  | .object _ =>
      let observed := match receipt.field (js "observed") with
        | .bool value => value
        | _ => false
      let evidence := trimmedText (receipt.field (js "evidence_marker"))
      reasonIf (!observed) (js "uptake_receipt.observed must be true") ++
      (if evidence = [] then
        [js "uptake_receipt.evidence_marker is required (self-asserted uptake without a stable marker is rejected)"]
      else reasonIf (marker != [] && evidence != marker)
        (js "uptake_receipt.evidence_marker does not match control_source.marker")) ++
      reasonIf (!isNonBlankText (receipt.field (js "method")))
        (js "uptake_receipt.method is required")
  | _ => [js "missing uptake_receipt"]

/-- Everything that is wrong with a proof object, in the order of the checks. -/
def proofReasons (record : JsValue) : List JsString :=
  let serialized := Json.stringify host record
  let sourceType := record.field (js "source_type")
  let controlSource := asRecord (record.field (js "control_source"))
  let marker := trimmedText (controlSource.field (js "marker"))
  reasonIf (redactSecretLikeText serialized != serialized)
    (js "governed-context proof contains a secret-looking value") ++
  reasonIf ((record.field (js "schema")).asString != some governedContextProofSchema)
    (js "schema must be " ++ governedContextProofSchema) ++
  [js "role", js "harness", js "source_type", js "generated_at"].flatMap (fun name =>
    reasonIf (!isNonBlankText (record.field name)) (js "missing " ++ name)) ++
  reasonIf (sourceType.asString.any fun text => !governedContextSourceTypes.contains text)
    (js "invalid source_type") ++
  reasonIf (marker == [])
    (js "control_source.marker is required (a stable source marker, not a bare boolean)") ++
  reasonIf (isNonBlankText (controlSource.field (js "path")) &&
      !isNonBlankText (controlSource.field (js "sha256")))
    (js "control_source.sha256 is required when control_source.path is present") ++
  uptakeReasons marker (record.field (js "uptake_receipt"))

def validateGovernedContextProof (proof : JsValue) : ProofCheck :=
  match proof with
  | .object _ =>
      let reasons := proofReasons host proof
      { valid := reasons.isEmpty
        proofAssurance :=
          if reasons = [] then some (sourceTypeToAssurance (proof.field (js "source_type")))
          else none
        reasons := reasons }
  | _ =>
      { valid := false
        proofAssurance := none
        reasons := [js "governed-context proof is not an object"] }

/-- A valid proof names one of the source types, and its assurance is that type's. -/
theorem validateGovernedContextProof_valid {proof : JsValue}
    (hvalid : (validateGovernedContextProof host proof).valid = true) :
    ∃ assurance, (validateGovernedContextProof host proof).proofAssurance = some assurance ∧
      assurance ≠ .none := by
  cases proof with
  | object fields =>
      have hreasons : proofReasons host (.object fields) = [] := by
        simpa [validateGovernedContextProof] using hvalid
      have hassurance : (validateGovernedContextProof host (.object fields)).proofAssurance =
          some (sourceTypeToAssurance (JsValue.field (.object fields) (js "source_type"))) := by
        simp only [validateGovernedContextProof, hreasons, if_true]
      refine ⟨_, hassurance, ?_⟩
      simp only [proofReasons, List.append_eq_nil_iff, List.flatMap_cons, List.flatMap_nil,
        reasonIf_eq_nil] at hreasons
      obtain ⟨⟨⟨⟨-, -, -, hpresent, -⟩, hknown⟩, -⟩, -⟩ := hreasons.1
      generalize JsValue.field (.object fields) (js "source_type") = sourceType at hpresent hknown ⊢
      cases sourceType with
      | string text =>
          simp only [JsValue.asString, Option.any_some, Bool.not_eq_false'] at hknown
          simp only [governedContextSourceTypes, List.contains_iff_mem, List.mem_cons,
            List.not_mem_nil, or_false] at hknown
          rw [sourceTypeToAssurance]
          rcases hknown with rfl | rfl | rfl <;> decide
      | _ => simp [isNonBlankText] at hpresent
  | _ => simp [validateGovernedContextProof] at hvalid

/-! ## Readiness -/

inductive Authentication
  | yes
  | no
  | unknown
  deriving DecidableEq

structure GovernedReadinessInput where
  harness : JsString
  installed : Option Bool := none
  authenticated : Option Authentication := none
  requestedRole : Option JsString := none
  governedContextProof : JsValue := .undefined
  hooksAvailable : Option Bool := none
  deliveryState : Option JsString := none
  livenessState : Option JsString := none
  permissionBlocked : Option Bool := none
  idleStalled : Option Bool := none
  authBlockers : Option (List JsString) := none
  otherBlockers : Option (List JsString) := none

structure GovernedReadinessResult where
  state : GovernedReadinessState
  category : HarnessCategory
  requiredAssurance : AssuranceLevel
  proofAssurance : Option AssuranceLevel
  uptakeVerified : Bool
  blockers : List JsString
  nextSafeAction : JsString
  deriving DecidableEq

/-- `UNSAFE_DELIVERY_STATES`. -/
def unsafeDeliveryStates : List JsString := [js "INPUT_BAR_ONLY", js "PANE_BLOCKED_ON_PERMISSION"]

/-- `UNSAFE_LIVENESS_STATES`. -/
def unsafeLivenessStates : List JsString :=
  [js "NO_VISIBLE_PROCESSING", js "IDLE_STALLED", js "NO_ACK", js "STALE_IDLE"]

def governedReadinessNextAction (state : GovernedReadinessState)
    (requiredAssurance : AssuranceLevel) (blockers : List JsString) : JsString :=
  let top := blockers.head?.getD (js "no verified governed-context uptake proof")
  let startsWith (start : String) : Bool := (js start).isPrefixOf top
  if state = .nonGovernedOneShotOnly then
    js "This harness cannot reach the assurance this role requires; use it only for bounded one-shot work, or assign the role to a higher-assurance harness."
  else if startsWith "no verified governed-context" then
    match requiredAssurance with
    | .nativeSkill => js "Install the native odin-scp skill, load it, then capture a governed-context uptake proof (verify with scripts/protocol/verify-governed-context.mjs)."
    | .staticControlFile => js "Install/validate the static control file, load it, then capture a governed-context uptake proof (verify with scripts/protocol/verify-governed-context.mjs)."
    | _ => js "Load the MCP bootstrap resource, then capture a governed-context uptake proof (verify with scripts/protocol/verify-governed-context.mjs)."
  else if startsWith "assurance " then
    js "Provide a higher-assurance governed-context proof; a lower-assurance path does not qualify for this harness/role (PM and ODIN need the highest available)."
  else if startsWith "authentication" || startsWith "auth blocked" then
    js "Sign in or provision the harness outside chat (never paste secrets), then re-probe."
  else if startsWith "delivery" || startsWith "liveness" || startsWith "blocked on a permission" ||
      startsWith "stale idle" then
    js "Resolve the live blocker: submit with Enter and confirm processing, approve the permission prompt, or restart the stalled occupant; then re-probe."
  else if startsWith "required hooks/validators" then
    js "Deploy and confirm the activation hook + governed-context verifier (scripts/protocol/install-activation-hooks.mjs, scripts/protocol/verify-governed-context.mjs), then re-probe."
  else js "Resolve the listed blocker, then re-run the governed-readiness probe."

/-- What a role needs of a harness: its best, and a static control file at least
for a role of high authority. -/
def requiredAssurance (category : HarnessCategory) (highAuthority : Bool) : AssuranceLevel :=
  let baseRequired := maxAssuranceForCategory category
  if highAuthority && baseRequired.rank < AssuranceLevel.staticControlFile.rank then
    .staticControlFile
  else baseRequired

/-- The blockers of an occupant that the caller reports, before its proof is looked at. -/
def liveBlockers (input : GovernedReadinessInput) : List JsString :=
  reasonIf (input.installed == some false) (js "not installed or not provisioned") ++
  reasonIf (input.authenticated == some .no)
    (js "authentication blocker (sign in or provision outside chat)") ++
  reasonIf ((input.authBlockers.getD []) != [])
    (js "auth blocked: " ++ List.intercalate (js ", ") (input.authBlockers.getD [])) ++
  reasonIf (input.hooksAvailable != some true)
    (js "required hooks/validators not confirmed available (the governed-context verifier and activation hook must be affirmatively present)") ++
  reasonIf (input.permissionBlocked == some true) (js "blocked on a permission prompt") ++
  reasonIf (input.idleStalled == some true) (js "stale idle: no visible progress") ++
  reasonIf (input.deliveryState.any fun state => unsafeDeliveryStates.contains state)
    (js "delivery not confirmed (input-bar-only or permission-blocked is not delivery)") ++
  reasonIf (input.livenessState.any fun state => unsafeLivenessStates.contains state)
    (js "liveness not confirmed (no visible processing, missing ack, or stale idle)") ++
  input.otherBlockers.getD []

/-- The blocker that a checked proof leaves under a required assurance. -/
def proofBlockers (check : ProofCheck) (required : AssuranceLevel) : List JsString :=
  if !check.valid then
    [js "no verified governed-context uptake proof (MCP config or a skill file on disk is not uptake)"]
  else match check.proofAssurance with
    | none => []
    | some assurance => reasonIf (assurance.rank < required.rank)
        (js "assurance " ++ assurance.text ++ js " is below the " ++ required.text ++
          js " required for this harness/role")

def classifyGovernedReadiness (input : GovernedReadinessInput) : GovernedReadinessResult :=
  let category := harnessCategory tables input.harness
  let check := validateGovernedContextProof host input.governedContextProof
  let required := requiredAssurance category (isHighAuthorityRole tables input.requestedRole)
  if category = .unsupported then
    { state := .unsupported
      category := category
      requiredAssurance := required
      proofAssurance := check.proofAssurance
      uptakeVerified := false
      blockers := [js "harness cannot enforce an SCP governed-context control layer"]
      nextSafeAction := js "Use this harness only for bounded, non-governed one-shot help; do not assign it a governed role." }
  else
    let blockers := liveBlockers input ++ proofBlockers check required
    if blockers.isEmpty && check.valid then
      { state := .governedReady
        category := category
        requiredAssurance := required
        proofAssurance := check.proofAssurance
        uptakeVerified := check.valid
        blockers := []
        nextSafeAction := js "Governed authority verified. Launch the role; keep the governed-context proof fresh and re-verify on resume." }
    else
      let reachable := required.rank ≤ (maxAssuranceForCategory category).rank
      let state := if reachable then .fixableBlocked else .nonGovernedOneShotOnly
      { state := state
        category := category
        requiredAssurance := required
        proofAssurance := check.proofAssurance
        uptakeVerified := check.valid
        blockers := blockers
        nextSafeAction := governedReadinessNextAction state required blockers }

variable {host tables}

/-- An occupant is ready exactly when its harness is supported, nothing live blocks
it and its proof is valid at the assurance its role needs. -/
theorem governedReady_iff (input : GovernedReadinessInput) :
    (classifyGovernedReadiness host tables input).state = .governedReady ↔
      harnessCategory tables input.harness ≠ .unsupported ∧ liveBlockers input = [] ∧
      ∃ assurance,
        (validateGovernedContextProof host input.governedContextProof).valid = true ∧
        (validateGovernedContextProof host input.governedContextProof).proofAssurance =
          some assurance ∧
        (requiredAssurance (harnessCategory tables input.harness)
          (isHighAuthorityRole tables input.requestedRole)).rank ≤ assurance.rank := by
  rw [classifyGovernedReadiness]
  by_cases hcategory : harnessCategory tables input.harness = .unsupported
  · simp [hcategory]
  simp only [if_neg hcategory]
  by_cases hvalid : (validateGovernedContextProof host input.governedContextProof).valid = true
  · obtain ⟨assurance, hassurance, -⟩ := validateGovernedContextProof_valid host hvalid
    have hproof : ∀ required, proofBlockers
        (validateGovernedContextProof host input.governedContextProof) required = [] ↔
          required.rank ≤ assurance.rank := by
      intro required
      simp [proofBlockers, hvalid, hassurance]
    simp only [hvalid, Bool.and_true, List.isEmpty_iff, List.append_eq_nil_iff, hproof]
    split_ifs with hblockers <;> simp_all
  · simp only [Bool.not_eq_true] at hvalid
    simp only [hvalid, Bool.and_false, Bool.false_eq_true, if_false, false_and, exists_false,
      and_false, iff_false]
    split_ifs <;> simp

/-- Nothing live blocks an occupant exactly when no field reports a blocker. -/
theorem liveBlockers_eq_nil_iff (input : GovernedReadinessInput) :
    liveBlockers input = [] ↔
      input.installed ≠ some false ∧ input.authenticated ≠ some .no ∧
      input.authBlockers.getD [] = [] ∧ input.hooksAvailable = some true ∧
      input.permissionBlocked ≠ some true ∧ input.idleStalled ≠ some true ∧
      (∀ state, input.deliveryState = some state → state ∉ unsafeDeliveryStates) ∧
      (∀ state, input.livenessState = some state → state ∉ unsafeLivenessStates) ∧
      input.otherBlockers.getD [] = [] := by
  simp only [liveBlockers, List.append_eq_nil_iff, reasonIf_eq_nil, beq_eq_false_iff_ne,
    bne_eq_false_iff_eq, Option.any_eq_false, List.contains_eq_mem, decide_eq_false_iff_not,
    and_assoc]

/-- The requested role counts only for whether it is of high authority. -/
theorem classifyGovernedReadiness_role (input : GovernedReadinessInput)
    {left right : Option JsString}
    (hrole : isHighAuthorityRole tables left = isHighAuthorityRole tables right) :
    classifyGovernedReadiness host tables { input with requestedRole := left } =
      classifyGovernedReadiness host tables { input with requestedRole := right } := by
  simp only [classifyGovernedReadiness, hrole]
  rfl

end OdinSentinel.Readiness
