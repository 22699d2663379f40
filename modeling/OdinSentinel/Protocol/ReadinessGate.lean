import OdinSentinel.Protocol.GovernedContext

/-!
# The readiness gate

`evaluateReadinessGate`: one row for each slot, its classifications, waivers and
governed readiness, and the two verdicts over all rows.
-/

namespace OdinSentinel.Readiness

open JsText Host Unicode Validators RoleIdentity

inductive ReadinessStatus
  | pass
  | fail
  | waivedByExecPm
  | substitutionApprovedByExecPm
  | nonGovernedOneShotOnly
  deriving DecidableEq

inductive ProtocolTextSource
  | nativeSkill
  | mcpResource
  | injectedFullText
  | none
  deriving DecidableEq

inductive AuthStatus
  | ready
  | presentUnverified
  | missing
  | providerBlocked
  | loginRequired
  | unknown
  deriving DecidableEq

inductive PermissionStatus
  | clear
  | promptWaiting
  | denied
  | unknown
  deriving DecidableEq

inductive ModelStatus
  | ready
  | slow
  | stalled
  | reasoningOnly
  | streamingProtocolMismatch
  | unreachable
  deriving DecidableEq

inductive RoleCompatibility
  | acceptsRole
  | refusesRole
  | unproven
  deriving DecidableEq

inductive Waiver
  | waivedByExecPm
  | substitutionApprovedByExecPm
  deriving DecidableEq

inductive ProvisioningAnswer
  | yes
  | no
  | unknown
  deriving DecidableEq

structure ReadinessSlotInput where
  roleSlot : JsString
  role : Option JsString := none
  harness : Option JsString := none
  mcpAvailable : Option Bool := none
  mcpVersion : Option JsString := none
  scpSkillAvailable : Option Bool := none
  fullProtocolTextInjected : Option Bool := none
  protocolTextSource : Option ProtocolTextSource := none
  authStatus : Option AuthStatus := none
  firstRunPermissionStatus : Option PermissionStatus := none
  modelStatus : Option ModelStatus := none
  roleCompatibility : Option RoleCompatibility := none
  canHydrateDeferredMcpToolsAtBoot : Option Bool := none
  canHydrateDeferredMcpToolsAfterSecondTurn : Option Bool := none
  nativeSkillInvocation : Option Bool := none
  waiver : Option Waiver := none
  fallbackHarness : Option JsString := none
  occupantState : Option JsString := none
  required : Option Bool := none
  governedContextProof : JsValue := .undefined
  hooksAvailable : Option Bool := none
  deliveryState : Option JsString := none
  livenessState : Option JsString := none
  permissionBlocked : Option Bool := none
  idleStalled : Option Bool := none

structure ReadinessGateInput where
  minimumMcpVersion : Option JsString := none
  execPmAuthorized : Option Bool := none
  cmuxAvailable : Option Bool := none
  userProvisioningAnswer : Option ProvisioningAnswer := none
  slots : List ReadinessSlotInput

inductive Classification
  | execPmAuthorizationRequired
  | cmuxUnavailable
  | vacantRoleSlot
  | vacantSlotRequirementUnverified
  | mcpVersionUnverified
  | mcpVersionTooOld
  | mcpUnavailable
  | scpSkillMissing
  | nonGovernedOneShotOnly
  | contextSourceConflict
  | blockedByPermission
  | blockedByLogin
  | blockedByApiKey
  | authProviderBlocked
  | blockedByAuth
  | modelStalled
  | streamingProtocolMismatch
  | modelUnreachable
  | roleCompatibilityFailed
  | userInputRequired
  | unsuitableForOdinRole
  deriving DecidableEq

def Classification.text : Classification → JsString
  | .execPmAuthorizationRequired => js "EXEC_PM_AUTHORIZATION_REQUIRED"
  | .cmuxUnavailable => js "CMUX_UNAVAILABLE"
  | .vacantRoleSlot => js "VACANT_ROLE_SLOT"
  | .vacantSlotRequirementUnverified => js "VACANT_SLOT_REQUIREMENT_UNVERIFIED"
  | .mcpVersionUnverified => js "MCP_VERSION_UNVERIFIED"
  | .mcpVersionTooOld => js "MCP_VERSION_TOO_OLD"
  | .mcpUnavailable => js "MCP_UNAVAILABLE"
  | .scpSkillMissing => js "SCP_SKILL_MISSING"
  | .nonGovernedOneShotOnly => js "NON_GOVERNED_ONE_SHOT_ONLY"
  | .contextSourceConflict => js "CONTEXT_SOURCE_CONFLICT"
  | .blockedByPermission => js "BLOCKED_BY_PERMISSION"
  | .blockedByLogin => js "BLOCKED_BY_LOGIN"
  | .blockedByApiKey => js "BLOCKED_BY_API_KEY"
  | .authProviderBlocked => js "AUTH_PROVIDER_BLOCKED"
  | .blockedByAuth => js "BLOCKED_BY_AUTH"
  | .modelStalled => js "MODEL_STALLED"
  | .streamingProtocolMismatch => js "STREAMING_PROTOCOL_MISMATCH"
  | .modelUnreachable => js "MODEL_UNREACHABLE"
  | .roleCompatibilityFailed => js "ROLE_COMPATIBILITY_FAILED"
  | .userInputRequired => js "USER_INPUT_REQUIRED"
  | .unsuitableForOdinRole => js "UNSUITABLE_FOR_ODIN_ROLE"

/-- Where an occupant has the protocol text from. -/
inductive ContextSource
  | nativeOdinScpSkill
  | fullInjectedText
  | mcpBootstrapResource
  deriving DecidableEq

structure ReadinessMatrixRow where
  roleSlot : JsString
  harness : JsString
  status : ReadinessStatus
  launchAllowed : Bool
  activationAllowed : Bool
  governedActivationBlocked : Bool
  classifications : List Classification
  safeOutcomes : List JsString
  scpContextSources : List ContextSource
  mcpVersion : Option JsString
  deferredMcpHydration : JsString
  nativeSkillInvocation : Bool
  governedReadiness : GovernedReadinessState
  governedReadinessNextAction : JsString
  notes : List JsString

structure ReadinessGateResult where
  minimumMcpVersion : JsString
  overallStatus : JsString
  activationStatus : JsString
  governedReadinessStatus : JsString
  governedActivationBlockedCount : Nat
  execPmAuthorized : Bool
  cmuxAvailable : Bool
  readinessMatrix : List ReadinessMatrixRow

def minimumCompatibleMcpVersion : JsString := js "0.4.5"

/-! ## Roles and context sources -/

variable (host : HostRuntime) (tables : Tables)

def isOdinRole (role : JsString) : Bool :=
  [js "EXEC_ODIN", js "TEAM_ODIN"].contains (roleKindOf tables role)

def governedKinds : List JsString :=
  [js "EXEC_PM", js "EXEC_ODIN", js "EXEC_ASST", js "EXEC_RSCH", js "EXEC_QA", js "TEAM_PM",
    js "TEAM_ODIN", js "DEV_WORKER", js "QA_WORKER", js "SHADOW_REVIEWER"]

def isGovernedRole (role : JsString) : Bool := governedKinds.contains (roleKindOf tables role)

def scpContextSources (slot : ReadinessSlotInput) : List ContextSource :=
  (if slot.scpSkillAvailable = some true ∨ slot.protocolTextSource = some .nativeSkill then
    [.nativeOdinScpSkill] else []) ++
  (if slot.fullProtocolTextInjected = some true ∨
      slot.protocolTextSource = some .injectedFullText then
    [.fullInjectedText] else []) ++
  (if slot.protocolTextSource = some .mcpResource then [.mcpBootstrapResource] else [])

def proofDerivedContextSource (proof : JsValue) : Option ContextSource :=
  let check := validateGovernedContextProof host proof
  if !check.valid then none
  else match check.proofAssurance with
    | some .nativeSkill => some .nativeOdinScpSkill
    | some .staticControlFile => some .fullInjectedText
    | some .mcpBootstrap => some .mcpBootstrapResource
    | _ => none

/-- The context sources of a slot, and whether its legacy fields contradict its proof. -/
def resolveContextSources (slot : ReadinessSlotInput) : List ContextSource × Bool :=
  let legacy := scpContextSources slot
  match proofDerivedContextSource host slot.governedContextProof with
  | none => (legacy, false)
  | some source =>
      if legacy = [] then ([source], false)
      else if legacy.contains source then (legacy, false)
      else (legacy, true)

/-! ## One row -/

def classifyIf (holds : Bool) (item : Classification) : List Classification :=
  if holds then [item] else []

@[simp] theorem mem_classifyIf {holds : Bool} {item other : Classification} :
    item ∈ classifyIf holds other ↔ holds = true ∧ item = other := by
  cases holds <;> simp [classifyIf]

def isVacant (slot : ReadinessSlotInput) : Bool :=
  slot.occupantState == some (js "VACANT_ROLE_SLOT")

/-- The classifications of an occupied slot. -/
def occupantClassifications (gate : ReadinessGateInput) (slot : ReadinessSlotInput) :
    List Classification :=
  let minimum := gate.minimumMcpVersion.getD minimumCompatibleMcpVersion
  let (sources, conflict) := resolveContextSources host slot
  classifyIf (slot.mcpAvailable == some true && slot.mcpVersion.isNone) .mcpVersionUnverified ++
  classifyIf (slot.mcpAvailable == some true &&
    slot.mcpVersion.any fun version => isVersionBelow version minimum) .mcpVersionTooOld ++
  classifyIf (slot.mcpAvailable == some false) .mcpUnavailable ++
  classifyIf (slot.scpSkillAvailable == some false) .scpSkillMissing ++
  classifyIf (sources.isEmpty && isGovernedRole tables slot.roleSlot) .nonGovernedOneShotOnly ++
  classifyIf conflict .contextSourceConflict ++
  classifyIf (slot.firstRunPermissionStatus == some .promptWaiting ||
    slot.firstRunPermissionStatus == some .denied) .blockedByPermission ++
  classifyIf (slot.authStatus == some .loginRequired) .blockedByLogin ++
  classifyIf (slot.authStatus == some .missing) .blockedByApiKey ++
  classifyIf (slot.authStatus == some .providerBlocked) .authProviderBlocked ++
  classifyIf (slot.authStatus == some .unknown) .blockedByAuth ++
  classifyIf (slot.modelStatus == some .stalled) .modelStalled ++
  classifyIf (slot.modelStatus == some .streamingProtocolMismatch ||
    slot.modelStatus == some .reasoningOnly) .streamingProtocolMismatch ++
  classifyIf (slot.modelStatus == some .unreachable) .modelUnreachable ++
  classifyIf (slot.roleCompatibility == some .refusesRole ||
    slot.roleCompatibility == some .unproven) .roleCompatibilityFailed ++
  classifyIf (gate.userProvisioningAnswer != some .yes &&
    (slot.authStatus == some .missing || slot.authStatus == some .unknown ||
      slot.authStatus == none)) .userInputRequired ++
  classifyIf (isOdinRole tables slot.roleSlot &&
    slot.canHydrateDeferredMcpToolsAtBoot != some true &&
    slot.fullProtocolTextInjected != some true && slot.scpSkillAvailable != some true)
    .unsuitableForOdinRole

def slotClassifications (gate : ReadinessGateInput) (slot : ReadinessSlotInput) :
    List Classification :=
  (classifyIf (gate.execPmAuthorized != some true) .execPmAuthorizationRequired ++
    classifyIf (gate.cmuxAvailable != some true) .cmuxUnavailable ++
    if isVacant slot then
      .vacantRoleSlot :: classifyIf (slot.required != some false) .vacantSlotRequirementUnverified
    else occupantClassifications host tables gate slot).eraseDups

/-- What `failureClassifications` leaves out. -/
def isFailure (item : Classification) : Bool :=
  item != .scpSkillMissing && item != .nonGovernedOneShotOnly && item != .vacantRoleSlot

def unwaivableLaunchBlockers : List Classification :=
  [.mcpVersionUnverified, .mcpVersionTooOld, .mcpUnavailable, .blockedByPermission,
    .modelStalled, .streamingProtocolMismatch, .modelUnreachable, .roleCompatibilityFailed,
    .unsuitableForOdinRole, .contextSourceConflict]

def failureClassifications (gate : ReadinessGateInput) (slot : ReadinessSlotInput) :
    List Classification :=
  (slotClassifications host tables gate slot).filter isFailure

def approvedWaiver (gate : ReadinessGateInput) (slot : ReadinessSlotInput) : Bool :=
  gate.execPmAuthorized == some true && slot.waiver == some .waivedByExecPm &&
    !(slotClassifications host tables gate slot).any unwaivableLaunchBlockers.contains

def approvedSubstitution (gate : ReadinessGateInput) (slot : ReadinessSlotInput) : Bool :=
  gate.execPmAuthorized == some true && slot.waiver == some .substitutionApprovedByExecPm &&
    (slot.fallbackHarness.any fun fallback => trim fallback != []) &&
    (failureClassifications host tables gate slot).isEmpty

/-- The status of a row; each later rule overrides the ones before it. -/
def slotStatus (gate : ReadinessGateInput) (slot : ReadinessSlotInput) : ReadinessStatus :=
  if approvedSubstitution host tables gate slot then .substitutionApprovedByExecPm
  else if approvedWaiver host tables gate slot then .waivedByExecPm
  else if (slotClassifications host tables gate slot).contains .nonGovernedOneShotOnly then
    .nonGovernedOneShotOnly
  else if !(failureClassifications host tables gate slot).isEmpty then .fail
  else .pass

def launchAllowedOf (status : ReadinessStatus) : Bool :=
  status == .pass || status == .waivedByExecPm || status == .substitutionApprovedByExecPm

def isReadyOccupant (slot : ReadinessSlotInput) : Bool :=
  slot.occupantState == some (js "BOOTSTRAPPED_IDLE") ||
    slot.occupantState == some (js "ACTIVE_WATCH") ||
    (isVacant slot && slot.required == some false)

/-- Activation before governed readiness is asked for. -/
def activationAllowedBase (gate : ReadinessGateInput) (slot : ReadinessSlotInput) : Bool :=
  match slotStatus host tables gate slot with
  | .pass => isReadyOccupant slot
  | .waivedByExecPm =>
      isReadyOccupant slot && (failureClassifications host tables gate slot).isEmpty
  | .substitutionApprovedByExecPm => isVacant slot && slot.required == some false
  | _ => false

def slotAuthenticated (classifications : List Classification) (slot : ReadinessSlotInput) :
    Authentication :=
  if slot.authStatus = some .ready then .yes
  else if [Classification.blockedByApiKey, .authProviderBlocked, .blockedByLogin,
      .blockedByAuth].any classifications.contains then .no
  else .unknown

/-- What the gate asks the readiness classifier about a slot. -/
def governedInput (gate : ReadinessGateInput) (slot : ReadinessSlotInput) :
    GovernedReadinessInput :=
  let classifications := slotClassifications host tables gate slot
  { harness := slot.harness.getD (js "unknown")
    authenticated := some (slotAuthenticated classifications slot)
    requestedRole := some (slot.role.getD slot.roleSlot)
    governedContextProof := slot.governedContextProof
    hooksAvailable := slot.hooksAvailable
    deliveryState := slot.deliveryState
    livenessState := slot.livenessState
    permissionBlocked := some (classifications.contains .blockedByPermission ||
      slot.permissionBlocked == some true)
    idleStalled := slot.idleStalled
    otherBlockers := some ((failureClassifications host tables gate slot).map Classification.text) }

def isGovernedOccupant (slot : ReadinessSlotInput) : Bool :=
  isGovernedRole tables slot.roleSlot && !isVacant slot

def defaultSafeOutcomes : List JsString :=
  [js "choose a different harness", js "receive setup guidance without pasting secrets",
    js "mark slot VACANT_ROLE_SLOT", js "request EXEC PM-approved substitution"]

def slotNotes (gate : ReadinessGateInput) (slot : ReadinessSlotInput)
    (hardBlocked : Bool) : List JsString :=
  let classifications := slotClassifications host tables gate slot
  reasonIf (isVacant slot) (js "Vacant role slot is provisioned without an occupant. It may launch as a surface placeholder; activation is allowed only when the slot is not marked required.") ++
  reasonIf (!isVacant slot && (resolveContextSources host slot).2) (js "Legacy SCP context-source field contradicts the governed-context proof source; failing closed. Remove the stale legacy field or supply a congruent proof — do not rely on the more permissive source.") ++
  reasonIf (classifications.contains .nonGovernedOneShotOnly) (js "Non-governed fallback constraints: one deterministic assignment, no ongoing authority, no management role, no cross-agent coordination, command/test/QA-style verification preferred, context cleared after response.") ++
  reasonIf hardBlocked (js "Governed activation hard-blocked: occupant is not GOVERNED_READY (verified protocol uptake required). Launch/provisioning may proceed, but the occupant must not begin governed work until a governed-context proof verifies.")

def readinessRow (gate : ReadinessGateInput) (slot : ReadinessSlotInput) : ReadinessMatrixRow :=
  let status := slotStatus host tables gate slot
  let base := activationAllowedBase host tables gate slot
  let governed := classifyGovernedReadiness host tables (governedInput host tables gate slot)
  let ready := governed.state == .governedReady
  let governedOccupant := isGovernedOccupant tables slot
  { roleSlot := slot.roleSlot
    harness := slot.harness.getD (js "unknown")
    status := status
    launchAllowed := launchAllowedOf status
    activationAllowed := if governedOccupant then base && ready else base
    governedActivationBlocked := governedOccupant && !ready
    classifications := slotClassifications host tables gate slot
    safeOutcomes := if status = .pass then [] else defaultSafeOutcomes
    scpContextSources := (resolveContextSources host slot).1
    mcpVersion := slot.mcpVersion
    deferredMcpHydration :=
      if slot.canHydrateDeferredMcpToolsAtBoot = some true then js "AT_BOOT"
      else if slot.canHydrateDeferredMcpToolsAfterSecondTurn = some true then
        js "AFTER_SECOND_TURN"
      else js "UNPROVEN"
    nativeSkillInvocation := slot.nativeSkillInvocation == some true
    governedReadiness := governed.state
    governedReadinessNextAction := governed.nextSafeAction
    notes := slotNotes host tables gate slot (governedOccupant && base && !ready) }

def evaluateReadinessGate (gate : ReadinessGateInput) : ReadinessGateResult :=
  let execPmAuthorized := gate.execPmAuthorized == some true
  let cmuxAvailable := gate.cmuxAvailable == some true
  let hasSlots := !gate.slots.isEmpty
  let rows := gate.slots.map (readinessRow host tables gate)
  { minimumMcpVersion := gate.minimumMcpVersion.getD minimumCompatibleMcpVersion
    overallStatus :=
      if hasSlots && rows.all (fun row => row.launchAllowed) && cmuxAvailable && execPmAuthorized
      then js "PASS" else js "FAIL"
    activationStatus :=
      if hasSlots && rows.all (fun row => row.activationAllowed) && cmuxAvailable &&
        execPmAuthorized
      then js "TEAM_ACTIVATION_ALLOWED" else js "TEAM_ACTIVATION_BLOCKED"
    governedReadinessStatus :=
      if hasSlots && rows.all (fun row => row.governedReadiness == .governedReady)
      then js "ALL_GOVERNED_READY" else js "GOVERNED_READINESS_INCOMPLETE"
    governedActivationBlockedCount := rows.countP fun row => row.governedActivationBlocked
    execPmAuthorized := execPmAuthorized
    cmuxAvailable := cmuxAvailable
    readinessMatrix := rows }

end OdinSentinel.Readiness
