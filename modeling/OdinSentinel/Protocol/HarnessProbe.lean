import OdinSentinel.Core.Double
import OdinSentinel.Protocol.ReadinessGate

/-!
# The harness probe

`getHarnessProbeMatrix`: the harness entries of the control matrix, how a requested
name resolves to one of them, and one row for each requested harness with its
classifications and its governed readiness.
-/

namespace OdinSentinel.Readiness

open JsText Host Unicode Validators Regex RoleIdentity

/-! ## Entries of the control matrix -/

inductive SubmitProfile
  | singleLineFlatten
  | doubleEnter
  | singleEnterVerify
  deriving DecidableEq

inductive NewlinePolicy
  | flattenToSpace
  | preserve
  deriving DecidableEq

/-- A harness entry, with the fields that a probe reads. -/
structure HarnessControlEntry where
  harnessId : JsString
  displayName : JsString
  verified : Bool
  versionPin : Option JsString := none
  quitVerb : JsString
  modelSetRecipe : JsString
  controlRecipe : JsString
  submitProfile : Option SubmitProfile := none
  newlinePolicy : Option NewlinePolicy := none

/-- The entries of `protocol/resources/harness-control-matrix.yaml`. -/
def shippedEntries : List HarnessControlEntry :=
  [{ harnessId := js "claude_code"
     displayName := js "Claude Code"
     verified := true
     versionPin := some (js "2.1.170+")
     quitVerb := js "/exit"
     modelSetRecipe := js "/model <name> (type-ahead; model/effort default is GLOBAL per instance — set in-session LAST or use --model flag)"
     controlRecipe := js "clear-before-send: ctrl+u then read-screen; quit: /exit; model: /model (global, set last or --model flag)"
     submitProfile := some .doubleEnter
     newlinePolicy := some .preserve },
   { harnessId := js "droid"
     displayName := js "Droid"
     verified := true
     versionPin := some (js "0.144.2+")
     quitVerb := js "/quit"
     modelSetRecipe := js "--model <name> launch flag or /model (session)"
     controlRecipe := js "clear-before-send: ctrl+u then read-screen; quit: /quit; autonomy: --auto high for mission/high-autonomy"
     submitProfile := some .doubleEnter
     newlinePolicy := some .preserve },
   { harnessId := js "opencode"
     displayName := js "OpenCode"
     verified := true
     versionPin := some (js "1.17.4+")
     quitVerb := js "/exit"
     modelSetRecipe := js "/model <name> (type-ahead)"
     controlRecipe := js "clear-before-send: ctrl+u then read-screen; quit: /exit; single-Enter submit, no blind second Enter"
     submitProfile := some .singleEnterVerify
     newlinePolicy := some .preserve },
   { harnessId := js "crush"
     displayName := js "Crush"
     verified := true
     versionPin := some (js "0.76.0+")
     quitVerb := js "/q"
     modelSetRecipe := js "/model <name> (type-ahead)"
     controlRecipe := js "clear-before-send: ctrl+u then read-screen; quit: /q; alt-screen TUI, no scrollback — behavioral delivery verification mandatory"
     submitProfile := some .doubleEnter
     newlinePolicy := some .preserve },
   { harnessId := js "pi"
     displayName := js "Pi"
     verified := true
     versionPin := some (js "0.79.6+")
     quitVerb := js "/exit"
     modelSetRecipe := js "/model <name> (type-ahead)"
     controlRecipe := js "clear-before-send: ctrl+u then read-screen; quit: /exit; single_line_flatten — flatten newlines to spaces with ' ;; ' separators before single submit"
     submitProfile := some .singleLineFlatten
     newlinePolicy := some .flattenToSpace },
   { harnessId := js "codex"
     displayName := js "Codex"
     verified := false
     quitVerb := js "/exit"
     modelSetRecipe := js "--model <name> launch flag"
     controlRecipe := js "clear-before-send: ctrl+u; quit: /exit; model via --model flag" },
   { harnessId := js "goose"
     displayName := js "Goose"
     verified := false
     quitVerb := js "/exit"
     modelSetRecipe := js "/model <name>"
     controlRecipe := js "clear-before-send: ctrl+u; quit: /exit" },
   { harnessId := js "openhands"
     displayName := js "OpenHands"
     verified := false
     quitVerb := js "/exit"
     modelSetRecipe := js "config file or launch flag"
     controlRecipe := js "clear-before-send: ctrl+u; quit: /exit" },
   { harnessId := js "kilocode"
     displayName := js "KiloCode"
     verified := false
     quitVerb := js "/exit"
     modelSetRecipe := js "/model <name>"
     controlRecipe := js "clear-before-send: ctrl+u; quit: /exit" },
   { harnessId := js "aider"
     displayName := js "Aider"
     verified := false
     quitVerb := js "/exit"
     modelSetRecipe := js "--model <name> launch flag"
     controlRecipe := js "clear-before-send: ctrl+u; quit: /exit" },
   { harnessId := js "nanocoder"
     displayName := js "NanoCoder"
     verified := false
     quitVerb := js "/exit"
     modelSetRecipe := js "--model <name> launch flag"
     controlRecipe := js "clear-before-send: ctrl+u; quit: /exit" }]

/-- `CANONICAL_HARNESS_ID_PATTERN`. -/
def isCanonicalHarnessId (value : JsString) : Bool :=
  (value.splitOn 95).all (Text.isRun fun unit => isLower unit || isDigit unit)

def canonicalHarnessId (name : JsString) : Except JsString JsString :=
  if isCanonicalHarnessId name then .ok name
  else .error (js "non_canonical_harness_id: \"" ++ name ++ js "\" is not an exact canonical snake_case harness id; canonical ids (e.g. \"claude_code\", \"droid\", \"opencode\") are matched exactly and are never case-folded or transformed — use the entry's explicit display_name channel for human-friendly forms")

/-- The value of a key in a map that is built from entries in order: the last one given. -/
def lastWith (key : HarnessControlEntry → JsString) (entries : List HarnessControlEntry)
    (name : JsString) : Option HarnessControlEntry :=
  entries.reverse.find? fun entry => key entry == name

def resolveHarnessEntry (entries : List HarnessControlEntry) (intendedName : JsString) :
    Option HarnessControlEntry :=
  (lastWith HarnessControlEntry.harnessId entries intendedName).orElse fun _ =>
    lastWith HarnessControlEntry.displayName entries intendedName

/-! ## Observations -/

inductive AutoLevel
  | none
  | low
  | medium
  | high
  | unknown
  deriving DecidableEq

inductive TaskAutonomy
  | readOnly
  | mission
  | highAutonomy
  deriving DecidableEq

structure HarnessObservation where
  harness : JsString
  text : Option JsString := none
  httpReachable : Option Bool := none
  modelLoaded : Option Bool := none
  visibleContent : Option Bool := none
  reasoningContentOnly : Option Bool := none
  elapsedSeconds : Option JsNumber := none
  mcpManagementAvailable : Option Bool := none
  mcpConfigured : Option Bool := none
  scpSkillInstalled : Option Bool := none
  fullProtocolTextInjected : Option Bool := none
  authStatus : Option AuthStatus := none
  autoLevel : Option AutoLevel := none
  taskAutonomy : Option TaskAutonomy := none
  requestedRole : Option JsString := none
  governedContextProof : JsValue := .undefined
  hooksAvailable : Option Bool := none
  deliveryState : Option JsString := none
  livenessState : Option JsString := none
  permissionBlocked : Option Bool := none
  idleStalled : Option Bool := none
  controlRecipe : Option JsString := none
  quitVerb : Option JsString := none
  modelSetRecipe : Option JsString := none

structure HarnessProbeInput where
  intendedHarnesses : Option (List JsString) := none
  userProvisioningAnswer : Option ProvisioningAnswer := none
  installedHarnesses : Option (List JsString) := none
  providerStatuses : Option (List (JsString × Bool)) := none
  observations : Option (List HarnessObservation) := none
  visibleOutputTimeoutSeconds : Option JsNumber := none

/-! ## Classifications -/

inductive ProbeClassification
  | notInstalledOrUnproven
  | userInputRequired
  | blockedByPermission
  | blockedByLogin
  | blockedByApiKey
  | roleCompatibilityFailed
  | authProviderBlocked
  | blockedByAuth
  | autoHighRequired
  | modelReasoningOnly
  | modelUnreachable
  | modelStalled
  | streamingProtocolMismatch
  | mcpUnavailable
  | mcpUnproven
  | nonGovernedOneShotOnly
  | unresolvableHarnessRequest
  deriving DecidableEq

def ProbeClassification.text : ProbeClassification → JsString
  | .notInstalledOrUnproven => js "NOT_INSTALLED_OR_UNPROVEN"
  | .userInputRequired => js "USER_INPUT_REQUIRED"
  | .blockedByPermission => js "BLOCKED_BY_PERMISSION"
  | .blockedByLogin => js "BLOCKED_BY_LOGIN"
  | .blockedByApiKey => js "BLOCKED_BY_API_KEY"
  | .roleCompatibilityFailed => js "ROLE_COMPATIBILITY_FAILED"
  | .authProviderBlocked => js "AUTH_PROVIDER_BLOCKED"
  | .blockedByAuth => js "BLOCKED_BY_AUTH"
  | .autoHighRequired => js "AUTO_HIGH_REQUIRED"
  | .modelReasoningOnly => js "MODEL_REASONING_ONLY"
  | .modelUnreachable => js "MODEL_UNREACHABLE"
  | .modelStalled => js "MODEL_STALLED"
  | .streamingProtocolMismatch => js "STREAMING_PROTOCOL_MISMATCH"
  | .mcpUnavailable => js "MCP_UNAVAILABLE"
  | .mcpUnproven => js "MCP_UNPROVEN"
  | .nonGovernedOneShotOnly => js "NON_GOVERNED_ONE_SHOT_ONLY"
  | .unresolvableHarnessRequest => js "UNRESOLVABLE_HARNESS_REQUEST"

/-- A classification that is given when its condition holds. -/
def probeIf (holds : Bool) (item : ProbeClassification) : List ProbeClassification :=
  if holds then [item] else []

@[simp] theorem mem_probeIf {holds : Bool} {item other : ProbeClassification} :
    item ∈ probeIf holds other ↔ holds = true ∧ item = other := by
  cases holds <;> simp [probeIf]

/-- A pattern of literal alternatives, tried on a text. -/
def mentions (parts : List String) (text : JsString) : Bool :=
  parts.any fun part => Text.contains text (js part)

/-- `\bsign[\s-]?in\b` after a literal start. -/
def signIn (start : String) : Pattern UInt16 :=
  .all [wordBoundary, exactly (js start), .maybe (.one fun unit => isSpace unit || unit == 45),
    exactly (js "in"), wordBoundary]

variable (host : HostRuntime) (tables : Tables)

def classifyProbeText (harness text : JsString) : List ProbeClassification :=
  let safeText := toLowerCase tables (redactSecretLikeText text)
  let key := toLowerCase tables harness
  (probeIf (mentions ["permission", "allow", "approve", "deny", "press y",
      "waiting for confirmation"] safeText) .blockedByPermission ++
    probeIf (mentions ["login", "authenticate", "kilo auth login", "/connect"] safeText ||
      (signIn "sign").test safeText || (signIn "not signed").test safeText) .blockedByLogin ++
    probeIf (mentions ["api key", "apikey", "credential", "inference credential",
      "provider config", "openhands"] safeText) .blockedByApiKey ++
    probeIf (mentions ["permission denied", "eacces", "operation not permitted"] safeText)
      .blockedByPermission ++
    probeIf (mentions ["roleplay", "fiction", "cannot accept role", "not a real protocol"]
      safeText) .roleCompatibilityFailed ++
    probeIf (key == js "kilocode" && mentions ["auth login", "/connect", "login"] safeText)
      .blockedByLogin ++
    probeIf (key == js "openhands" && mentions ["api", "credential", "provider"] safeText)
      .authProviderBlocked ++
    probeIf (key == js "crush" && mentions ["permission", "denied", "approve"] safeText)
      .blockedByPermission ++
    probeIf (key == js "pi" && mentions ["role", "mcp", "skill", "runtime proof", "fiction"]
      safeText) .roleCompatibilityFailed ++
    probeIf (mentions ["unauthorized", "authentication parameter not received in header",
      "missing auth header", "auth header not"] safeText) .blockedByAuth ++
    probeIf (key == js "crush" && mentions ["unauthorized", "authentication parameter",
      "auth header"] safeText) .authProviderBlocked ++
    probeIf (key == js "droid" && mentions ["insufficient permission to proceed",
      "re-run with --auto", "--auto high"] safeText) .autoHighRequired).eraseDups

/-! ## Rows -/

inductive ProbeModelStatus
  | streamingProtocolMismatch
  | modelReasoningOnly
  | modelStalled
  | modelUnreachable
  | modelReady
  | modelSlow
  deriving DecidableEq

inductive McpToolHydration
  | unproven
  | atBoot
  | afterSecondTurn
  deriving DecidableEq

structure GovernedContext where
  category : HarnessCategory
  requiredAssurance : AssuranceLevel
  proofAssurance : Option AssuranceLevel
  uptakeVerified : Bool
  blockers : List JsString

structure ProbeReadiness where
  installedBinary : Bool
  authenticated : Authentication
  mcpConfigured : Bool
  mcpManagementAvailable : Option Bool
  mcpToolHydration : McpToolHydration
  governedContextUptakeVerified : Bool
  governedRoleReady : Bool

/-- What the row of a resolved harness has besides. -/
structure ProbeControl where
  harnessId : JsString
  visibleOutputTimeoutSeconds : JsNumber
  canHydrateDeferredMcpToolsAtBoot : Bool
  autoLevel : Option AutoLevel
  verified : Bool
  versionPin : Option JsString
  submitProfile : Option SubmitProfile
  newlinePolicy : Option NewlinePolicy
  controlRecipe : JsString
  quitVerb : JsString
  modelSetRecipe : JsString
  sanitizedObservation : Option JsString

structure ProbeRow where
  harness : JsString
  installed : Bool
  classifications : List ProbeClassification
  modelStatus : ProbeModelStatus
  governedReadiness : GovernedReadinessState
  governedContext : GovernedContext
  nextSafeAction : JsString
  readiness : ProbeReadiness
  nativeSkillInvocation : Bool
  sentinelCoordinationProtocolSkill : JsString
  safeNextActions : List JsString
  control : Option ProbeControl := none

/-- The row of a name that resolves to no entry, where such names are tolerated. -/
def unresolvableRow (intendedName : JsString) : ProbeRow where
  harness := intendedName
  installed := false
  classifications := [.unresolvableHarnessRequest]
  modelStatus := .modelUnreachable
  governedReadiness := .fixableBlocked
  governedContext :=
    { category := .mcpOnly
      requiredAssurance := .mcpBootstrap
      proofAssurance := none
      uptakeVerified := false
      blockers := [ProbeClassification.unresolvableHarnessRequest.text] }
  nextSafeAction := js "Use an exact shipped harness id or display name, then retry onboarding."
  readiness :=
    { installedBinary := false
      authenticated := .unknown
      mcpConfigured := false
      mcpManagementAvailable := none
      mcpToolHydration := .unproven
      governedContextUptakeVerified := false
      governedRoleReady := false }
  nativeSkillInvocation := false
  sentinelCoordinationProtocolSkill := js "resolve the harness request before governed setup"
  safeNextActions := defaultSafeOutcomes

/-- The first observation of a harness, under its display name or its id. -/
def observationOf (input : HarnessProbeInput) (entry : HarnessControlEntry) :
    Option HarnessObservation :=
  (input.observations.getD []).find? fun item =>
    item.harness == entry.displayName || item.harness == entry.harnessId

def installedBinary (input : HarnessProbeInput) (entry : HarnessControlEntry)
    (intendedName : JsString) : Bool :=
  let installed := (input.installedHarnesses.getD []).map (toLowerCase tables)
  installed.contains (toLowerCase tables entry.displayName) ||
    installed.contains (toLowerCase tables intendedName)

/-- The classifications of a resolved harness, in the order in which the checks add them. -/
def probeClassifications (input : HarnessProbeInput) (entry : HarnessControlEntry)
    (intendedName : JsString) : List ProbeClassification :=
  let observation := observationOf input entry
  let installed := installedBinary tables input entry intendedName
  let key := toLowerCase tables entry.displayName
  let visible := observation.bind HarnessObservation.visibleContent == some true
  let reasoningOnly :=
    observation.bind HarnessObservation.reasoningContentOnly == some true && !visible
  let authStatus := observation.bind HarnessObservation.authStatus
  let autonomy := (observation.bind HarnessObservation.taskAutonomy).getD .readOnly
  let hasGovernedContext :=
    observation.bind HarnessObservation.mcpConfigured == some true ||
    observation.bind HarnessObservation.scpSkillInstalled == some true ||
    observation.bind HarnessObservation.fullProtocolTextInjected == some true
  (probeIf (!installed) .notInstalledOrUnproven ++
    probeIf (input.userProvisioningAnswer != some .yes) .userInputRequired ++
    classifyProbeText tables entry.displayName
      ((observation.bind HarnessObservation.text).getD []) ++
    probeIf reasoningOnly .modelReasoningOnly ++
    probeIf (observation.bind HarnessObservation.httpReachable == some false) .modelUnreachable ++
    probeIf (observation.bind HarnessObservation.modelLoaded == some false) .modelUnreachable ++
    probeIf ((input.visibleOutputTimeoutSeconds.getD (.ofNat 60)).lt
      ((observation.bind HarnessObservation.elapsedSeconds).getD (.ofNat 0)) && !visible)
      .modelStalled ++
    probeIf (key == js "goose" && reasoningOnly) .streamingProtocolMismatch ++
    probeIf (authStatus == some .missing) .blockedByApiKey ++
    probeIf (authStatus == some .providerBlocked) .authProviderBlocked ++
    probeIf (authStatus == some .loginRequired) .blockedByLogin ++
    probeIf (authStatus == some .unknown) .blockedByAuth ++
    probeIf (observation.bind HarnessObservation.mcpManagementAvailable == some false)
      (if key = js "crush" then .mcpUnavailable else .mcpUnproven) ++
    probeIf (key == js "droid" && (autonomy == .mission || autonomy == .highAutonomy) &&
      observation.bind HarnessObservation.autoLevel != some .high) .autoHighRequired ++
    probeIf (installed && !hasGovernedContext) .nonGovernedOneShotOnly).eraseDups

def probeModelStatus (classifications : List ProbeClassification) (visible : Bool) :
    ProbeModelStatus :=
  if classifications.contains .streamingProtocolMismatch then .streamingProtocolMismatch
  else if classifications.contains .modelReasoningOnly then .modelReasoningOnly
  else if classifications.contains .modelStalled then .modelStalled
  else if classifications.contains .modelUnreachable then .modelUnreachable
  else if visible then .modelReady
  else .modelSlow

def probeAuthBlockers : List ProbeClassification :=
  [.blockedByApiKey, .authProviderBlocked, .blockedByLogin, .blockedByAuth]

def probeAuthenticated (classifications : List ProbeClassification)
    (authStatus : Option AuthStatus) : Authentication :=
  if authStatus = some .ready then .yes
  else if probeAuthBlockers.any classifications.contains then .no
  else .unknown

/-- `advisoryClassifications` of a probe. -/
def isProbeAdvisory (item : ProbeClassification) : Bool :=
  item == .userInputRequired || item == .nonGovernedOneShotOnly

/-- What a probe asks the readiness classifier about a resolved harness. -/
def probeGovernedInput (input : HarnessProbeInput) (entry : HarnessControlEntry)
    (intendedName : JsString) : GovernedReadinessInput :=
  let observation := observationOf input entry
  let classifications := probeClassifications tables input entry intendedName
  let authBlockerList := probeAuthBlockers.filter classifications.contains
  let blocking := classifications.filter fun item => !isProbeAdvisory item
  { harness := entry.displayName
    installed := some (installedBinary tables input entry intendedName)
    authenticated := some (probeAuthenticated classifications
      (observation.bind HarnessObservation.authStatus))
    requestedRole := observation.bind HarnessObservation.requestedRole
    governedContextProof := (observation.map HarnessObservation.governedContextProof).getD .undefined
    hooksAvailable := observation.bind HarnessObservation.hooksAvailable
    deliveryState := observation.bind HarnessObservation.deliveryState
    livenessState := observation.bind HarnessObservation.livenessState
    permissionBlocked := some (classifications.contains .blockedByPermission ||
      observation.bind HarnessObservation.permissionBlocked == some true)
    idleStalled := observation.bind HarnessObservation.idleStalled
    authBlockers := some (authBlockerList.map ProbeClassification.text)
    otherBlockers := some ((blocking.filter fun item => !authBlockerList.contains item).map
      ProbeClassification.text) }

/-- The row of a resolved harness. -/
def resolvedRow (input : HarnessProbeInput) (entry : HarnessControlEntry)
    (intendedName harnessId : JsString) : ProbeRow :=
  let observation := observationOf input entry
  let classifications := probeClassifications tables input entry intendedName
  let installed := installedBinary tables input entry intendedName
  let authStatus := observation.bind HarnessObservation.authStatus
  let autoLevel := observation.bind HarnessObservation.autoLevel
  let canHydrateAtBoot := [js "codex", js "claude_code", js "droid"].contains harnessId
  let governed := classifyGovernedReadiness host tables
    (probeGovernedInput tables input entry intendedName)
  { harness := entry.displayName
    installed := installed
    classifications := classifications
    modelStatus := probeModelStatus classifications
      (observation.bind HarnessObservation.visibleContent == some true)
    governedReadiness := governed.state
    governedContext :=
      { category := governed.category
        requiredAssurance := governed.requiredAssurance
        proofAssurance := governed.proofAssurance
        uptakeVerified := governed.uptakeVerified
        blockers := governed.blockers }
    nextSafeAction := governed.nextSafeAction
    readiness :=
      { installedBinary := installed
        authenticated := probeAuthenticated classifications authStatus
        mcpConfigured := observation.bind HarnessObservation.mcpConfigured == some true
        mcpManagementAvailable := observation.bind HarnessObservation.mcpManagementAvailable
        mcpToolHydration := if canHydrateAtBoot then .atBoot else .afterSecondTurn
        governedContextUptakeVerified := governed.uptakeVerified
        governedRoleReady := governed.state == .governedReady }
    nativeSkillInvocation := [js "codex", js "claude_code"].contains harnessId
    sentinelCoordinationProtocolSkill :=
      js "install before governed launch when the harness supports native skills"
    safeNextActions := if classifications = [] then [] else defaultSafeOutcomes
    control := some
      { harnessId := harnessId
        visibleOutputTimeoutSeconds := input.visibleOutputTimeoutSeconds.getD (.ofNat 60)
        canHydrateDeferredMcpToolsAtBoot := canHydrateAtBoot
        autoLevel :=
          if toLowerCase tables entry.displayName = js "droid" then some (autoLevel.getD .unknown)
          else autoLevel
        verified := entry.verified
        versionPin := entry.versionPin
        submitProfile := entry.submitProfile
        newlinePolicy := entry.newlinePolicy
        controlRecipe :=
          (observation.bind HarnessObservation.controlRecipe).getD entry.controlRecipe
        quitVerb := (observation.bind HarnessObservation.quitVerb).getD entry.quitVerb
        modelSetRecipe :=
          (observation.bind HarnessObservation.modelSetRecipe).getD entry.modelSetRecipe
        -- An empty text is no observation.
        sanitizedObservation := ((observation.bind HarnessObservation.text).filter (· != [])).map
          redactSecretLikeText } }

def unknownHarness (intendedName : JsString) : JsString :=
  js "unknown_or_non_canonical_harness: \"" ++ intendedName ++ js "\" does not resolve to any harness — resolution requires the exact canonical snake_case machine id (e.g. \"droid\") or the exact declared display_name (e.g. \"Droid\"); case-respelled or otherwise mutated forms are refused, never silently normalized"

def harnessProbeRow (entries : List HarnessControlEntry) (input : HarnessProbeInput)
    (tolerateUnresolvable : Bool) (intendedName : JsString) : Except JsString ProbeRow :=
  match resolveHarnessEntry entries intendedName with
  | some entry => do
      let harnessId ← canonicalHarnessId entry.harnessId
      return resolvedRow host tables input entry intendedName harnessId
  | none =>
      if tolerateUnresolvable then .ok (unresolvableRow intendedName)
      else .error (unknownHarness intendedName)

/-- The harnesses that a probe is about: by default all of the control matrix. -/
def intendedHarnesses (entries : List HarnessControlEntry) (input : HarnessProbeInput) :
    List JsString :=
  input.intendedHarnesses.getD (entries.map HarnessControlEntry.displayName)

structure HarnessProbeMatrix where
  secretProviderStatuses : List (JsString × Bool × JsString)
  rows : List ProbeRow

def getHarnessProbeMatrixInternal (entries : List HarnessControlEntry) (input : HarnessProbeInput)
    (tolerateUnresolvable : Bool) : Except JsString HarnessProbeMatrix := do
  let rows ← (intendedHarnesses entries input).mapM
    (harnessProbeRow host tables entries input tolerateUnresolvable)
  return {
    secretProviderStatuses := (input.providerStatuses.getD []).map fun (name, present) =>
      (name, present, if present then js "present redacted" else js "absent")
    rows := rows }

def getHarnessProbeMatrix (entries : List HarnessControlEntry) (input : HarnessProbeInput) :
    Except JsString HarnessProbeMatrix :=
  getHarnessProbeMatrixInternal host tables entries input false

end OdinSentinel.Readiness
