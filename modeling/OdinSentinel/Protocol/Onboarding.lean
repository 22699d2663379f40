import Mathlib.Data.List.Nodup
import OdinSentinel.Core.Fallible
import OdinSentinel.Protocol.HarnessProbe

/-!
# The onboarding plan

`getOnboardingPlan`: the probe's rows told as readiness rows, the blockers among their
classifications and the action that the plan asks for next.  The plan reads its blockers
from the classifications, which know nothing of the uptake that readiness asks for.
-/

namespace OdinSentinel.Readiness

open JsText Host Unicode Validators RoleIdentity

inductive OnboardingSetupMode
  | guided
  | assisted
  deriving DecidableEq

def OnboardingSetupMode.text : OnboardingSetupMode → JsString
  | .guided => js "guided"
  | .assisted => js "assisted"

inductive PreferredSetupMode
  | guided
  | assisted
  | assistedComputerUse
  | unset
  deriving DecidableEq

inductive Platform
  | macos
  | linux
  | windows
  | unknown
  deriving DecidableEq

structure OnboardingPlanInput where
  intendedHarnesses : Option (List JsString) := none
  installedHarnesses : Option (List JsString) := none
  userProvisioningAnswer : Option ProvisioningAnswer := none
  observations : Option (List HarnessObservation) := none
  computerUseAvailable : Option Bool := none
  preferredSetupMode : Option PreferredSetupMode := none
  ledgerPath : Option JsString := none
  platform : Option Platform := none

structure OnboardingRow where
  harness : JsString
  installed : Bool
  governedReadiness : GovernedReadinessState
  governedRoleReady : Bool
  governedContext : GovernedContext
  governedNextSafeAction : JsString
  classifications : List ProbeClassification
  blockers : List ProbeClassification
  readiness : ProbeReadiness
  modelStatus : ProbeModelStatus
  nativeSkillInvocation : Bool
  scpSkillGuidance : JsString
  safeNextActions : List JsString
  sanitizedObservation : Option JsString

structure BlockerSummary where
  harness : JsString
  blockers : List ProbeClassification
  governedReadiness : GovernedReadinessState
  governedRoleReady : Bool

structure OnboardingPlan where
  userProvisioningAnswer : ProvisioningAnswer
  secretProviderStatuses : List (JsString × Bool × JsString)
  platform : Platform
  recommendedMode : OnboardingSetupMode
  modeRationale : JsString
  assistedSetupEligible : Bool
  requestedButUnavailable : Bool
  candidateHarnesses : List JsString
  readinessRows : List OnboardingRow
  classifications : List JsString
  blockerSummary : List BlockerSummary
  unresolvedBlockerCount : Nat
  governedReadyHarnesses : List JsString
  governedReadinessByHarness : List (JsString × GovernedReadinessState × JsString)
  ledgerPath : JsString
  nextUserAction : JsString

def defaultInstallLedgerPath : JsString := js ".odin/install-ledger.json"

/-- `COMPUTER_USE_CANDIDATE_HARNESSES`. -/
def computerUseCandidateHarnesses : List JsString :=
  [js "Codex Desktop", js "Claude Desktop", js "Claude Code"]

/-- `ONBOARDING_ADVISORY_CLASSIFICATIONS`. -/
def isOnboardingAdvisory (item : ProbeClassification) : Bool := item == .userInputRequired

def onboardingRow (row : ProbeRow) : OnboardingRow where
  harness := row.harness
  installed := row.installed
  governedReadiness := row.governedReadiness
  governedRoleReady := row.governedReadiness == .governedReady
  governedContext := row.governedContext
  governedNextSafeAction := row.nextSafeAction
  classifications := row.classifications
  blockers := row.classifications.filter fun item => !isOnboardingAdvisory item
  readiness := row.readiness
  modelStatus := row.modelStatus
  nativeSkillInvocation := row.nativeSkillInvocation
  scpSkillGuidance := row.sentinelCoordinationProtocolSkill
  safeNextActions := row.safeNextActions
  sanitizedObservation := row.control.bind ProbeControl.sanitizedObservation

/-- The mode that the plan recommends and why. -/
def recommendMode (preferred : PreferredSetupMode) (assistedEligible : Bool) :
    OnboardingSetupMode × JsString :=
  if preferred = .assisted ∧ assistedEligible = true then
    (.assisted, js "Assisted computer-use setup is available and was preferred. A computer-use-capable harness can perform setup on your behalf after you choose it; ODIN's MCP server only returns this plan and never drives the GUI itself.")
  else if preferred = .assisted then
    (.guided, js "Assisted computer-use setup was requested, but computerUseAvailable is false, so guided manual setup is the safe available path.")
  else if preferred = .guided then
    (.guided, js "Guided manual setup was preferred; it is the safe, fully reviewable path.")
  else if assistedEligible then
    (.guided, js "Guided manual setup is the safe default. Assisted computer-use setup is available if you prefer convenience; choose it explicitly to let an available computer-use harness perform setup for you.")
  else
    (.guided, js "Guided manual setup is the safe default and the only available path because no computer-use-capable harness was reported.")

/-- The last branch of the next action. -/
def announcement (mode : OnboardingSetupMode) : JsString :=
  js "All probed harnesses are governed-ready. Proceed with " ++ mode.text ++ js " setup, then launch governed role slots in CMUX only after readiness passes."

/-- What the user is to do next. -/
def nextUserAction (answer : ProvisioningAnswer) (blockerSummary : List BlockerSummary)
    (mode : OnboardingSetupMode) : JsString :=
  if answer ≠ .yes then
    js "Confirm whether each intended harness is already provisioned (signed in or configured outside chat) without pasting secrets, then re-run onboarding."
  else if !blockerSummary.isEmpty then
    js "Resolve the harness blockers in blockerSummary (auth, login, permission, MCP, or skill) before launching governed roles, then proceed with " ++ mode.text ++ js " setup."
  else
    announcement mode

/-- The order of `sort()` on strings. -/
def sortsBefore (left right : JsString) : Bool :=
  !right.lex left fun unit other => decide (unit < other)

/-- What the plan asks the probe. -/
def OnboardingPlanInput.probe (input : OnboardingPlanInput) : HarnessProbeInput where
  intendedHarnesses := input.intendedHarnesses
  installedHarnesses := input.installedHarnesses
  userProvisioningAnswer := input.userProvisioningAnswer
  observations := input.observations

/-- The plan on the rows of a probe. -/
def planOn (input : OnboardingPlanInput) (probe : HarnessProbeMatrix) : OnboardingPlan :=
  let readinessRows := probe.rows.map onboardingRow
  let blockerSummary := (readinessRows.filter fun row => !row.blockers.isEmpty).map fun row =>
    { harness := row.harness
      blockers := row.blockers
      governedReadiness := row.governedReadiness
      governedRoleReady := row.governedRoleReady }
  let assistedEligible := input.computerUseAvailable == some true
  let preferredRaw := input.preferredSetupMode.getD .unset
  let preferred := if preferredRaw = .assistedComputerUse then .assisted else preferredRaw
  let recommended := recommendMode preferred assistedEligible
  let answer := input.userProvisioningAnswer.getD .unknown
  { userProvisioningAnswer := answer
    secretProviderStatuses := probe.secretProviderStatuses
    platform := input.platform.getD .unknown
    recommendedMode := recommended.1
    modeRationale := recommended.2
    assistedSetupEligible := assistedEligible
    requestedButUnavailable := preferred == .assisted && !assistedEligible
    candidateHarnesses := if assistedEligible then computerUseCandidateHarnesses else []
    readinessRows := readinessRows
    classifications := ((readinessRows.flatMap OnboardingRow.classifications).eraseDups.map
      ProbeClassification.text).mergeSort sortsBefore
    blockerSummary := blockerSummary
    unresolvedBlockerCount := blockerSummary.length
    governedReadyHarnesses :=
      (readinessRows.filter OnboardingRow.governedRoleReady).map OnboardingRow.harness
    governedReadinessByHarness := readinessRows.map fun row =>
      (row.harness, row.governedReadiness, row.governedNextSafeAction)
    ledgerPath := ((input.ledgerPath.map trim).filter (· != [])).getD defaultInstallLedgerPath
    nextUserAction := nextUserAction answer blockerSummary recommended.1 }

def getOnboardingPlan (host : HostRuntime) (tables : Tables) (entries : List HarnessControlEntry)
    (input : OnboardingPlanInput) : Except JsString OnboardingPlan := do
  let probe ← getHarnessProbeMatrixInternal host tables entries input.probe true
  return planOn input probe

variable {host : HostRuntime} {tables : Tables}

/-! ## Rows without a blocker -/

/-- What readiness asks of the harness and of its observation besides the classifications. -/
structure ProvesUptake (host : HostRuntime) (tables : Tables) (entry : HarnessControlEntry)
    (observation : HarnessObservation) : Prop where
  supported : harnessCategory tables entry.displayName ≠ .unsupported
  hooks : observation.hooksAvailable = some true
  permission : observation.permissionBlocked ≠ some true
  progress : observation.idleStalled ≠ some true
  delivery : ∀ state, observation.deliveryState = some state → state ∉ unsafeDeliveryStates
  liveness : ∀ state, observation.livenessState = some state → state ∉ unsafeLivenessStates
  proof : ∃ assurance,
    (validateGovernedContextProof host observation.governedContextProof).valid = true ∧
    (validateGovernedContextProof host observation.governedContextProof).proofAssurance =
      some assurance ∧
    (requiredAssurance (harnessCategory tables entry.displayName)
      (isHighAuthorityRole tables observation.requestedRole)).rank ≤ assurance.rank

section Unblocked

variable {input : HarnessProbeInput} {entry : HarnessControlEntry} {name : JsString}

/-- The row has no classification but the advisory one. -/
def Unblocked (classifications : List ProbeClassification) : Prop :=
  ∀ item ∈ classifications, item = .userInputRequired

theorem unblocked_iff {classifications : List ProbeClassification} :
    classifications.filter (fun item => !isOnboardingAdvisory item) = [] ↔
      Unblocked classifications := by
  rw [List.filter_eq_nil_iff]
  apply forall₂_congr
  intro item _
  rw [isOnboardingAdvisory, Bool.not_eq_true', beq_eq_false_iff_ne, not_not]

theorem Unblocked.contains {classifications : List ProbeClassification}
    (hclear : Unblocked classifications) {item : ProbeClassification}
    (hitem : item ≠ .userInputRequired) : classifications.contains item = false := by
  rw [List.contains_eq_mem, decide_eq_false_iff_not]
  exact fun hmem => hitem (hclear item hmem)

theorem Unblocked.authBlockers {classifications : List ProbeClassification}
    (hclear : Unblocked classifications) : probeAuthBlockers.filter classifications.contains = [] := by
  rw [List.filter_eq_nil_iff]
  intro item hitem
  rw [hclear.contains, Bool.not_eq_true]
  rintro rfl
  revert hitem
  decide

theorem Unblocked.authenticated {classifications : List ProbeClassification}
    (hclear : Unblocked classifications) (authStatus : Option AuthStatus) :
    probeAuthenticated classifications authStatus ≠ .no := by
  have hnone : probeAuthBlockers.any classifications.contains = false := by
    rw [List.any_eq_false]
    exact List.filter_eq_nil_iff.mp hclear.authBlockers
  rw [probeAuthenticated, hnone]
  by_cases hready : authStatus = some .ready
  · rw [if_pos hready]
    decide
  · rw [if_neg hready]
    decide

theorem Unblocked.blocking {classifications : List ProbeClassification}
    (hclear : Unblocked classifications) :
    classifications.filter (fun item => !isProbeAdvisory item) = [] := by
  rw [List.filter_eq_nil_iff]
  intro item hmem
  rw [hclear item hmem]
  decide

/-- An unblocked row is that of an installed harness. -/
theorem installedBinary_of_unblocked
    (hclear : Unblocked (probeClassifications tables input entry name)) :
    installedBinary tables input entry name = true := by
  by_contra hmissing
  rw [Bool.not_eq_true] at hmissing
  have hmem : .notInstalledOrUnproven ∈ probeClassifications tables input entry name := by
    simp only [probeClassifications, List.mem_eraseDups, List.mem_append, mem_probeIf, hmissing,
      Bool.not_false, and_self, true_or]
  exact absurd (hclear _ hmem) (by decide)

theorem resolvedRow_classifications (harnessId : JsString) :
    (resolvedRow host tables input entry name harnessId).classifications =
      probeClassifications tables input entry name := by
  dsimp only [resolvedRow]

/-- The occupant of an unblocked row is ready exactly when its observation proves uptake. -/
theorem resolvedRow_ready_iff (harnessId : JsString)
    (hclear : Unblocked (probeClassifications tables input entry name)) :
    (resolvedRow host tables input entry name harnessId).governedReadiness = .governedReady ↔
      ∃ observation, observationOf input entry = some observation ∧
        ProvesUptake host tables entry observation := by
  have hstate : (resolvedRow host tables input entry name harnessId).governedReadiness =
      (classifyGovernedReadiness host tables (probeGovernedInput tables input entry name)).state :=
    rfl
  have hpermission : (probeClassifications tables input entry name).contains
      .blockedByPermission = false := hclear.contains (by decide)
  rw [hstate, governedReady_iff, liveBlockers_eq_nil_iff]
  simp only [probeGovernedInput, installedBinary_of_unblocked hclear, hclear.authBlockers,
    hclear.blocking, hpermission, List.map_nil, List.filter_nil, Option.getD_some, Bool.false_or,
    Ne, Option.some.injEq, Bool.true_eq_false, not_false_eq_true, hclear.authenticated, true_and,
    and_true, beq_iff_eq]
  cases observationOf input entry with
  | none =>
      constructor
      · rintro ⟨-, ⟨hhooks, -⟩, -⟩
        cases hhooks
      · rintro ⟨observation, hnone, -⟩
        cases hnone
  | some observation =>
      constructor
      · rintro ⟨hsupported, ⟨hhooks, hpermission, hprogress, hdelivery, hliveness⟩, hproof⟩
        exact ⟨observation, rfl, hsupported, hhooks, hpermission, hprogress, hdelivery, hliveness,
          hproof⟩
      · rintro ⟨other, hsame, huptake⟩
        obtain rfl := Option.some.inj hsame
        exact ⟨huptake.supported, ⟨huptake.hooks, huptake.permission, huptake.progress,
          huptake.delivery, huptake.liveness⟩, huptake.proof⟩

end Unblocked

/-! ## The announcement -/

/-- The plan has reached its last branch. -/
structure OnboardingPlan.AnnouncesReady (plan : OnboardingPlan) : Prop where
  answered : plan.userProvisioningAnswer = .yes
  unblocked : plan.blockerSummary = []

/-- The last branch says that all probed harnesses are ready. -/
theorem nextUserAction_announces {entries : List HarnessControlEntry}
    {input : OnboardingPlanInput} {plan : OnboardingPlan}
    (hplan : getOnboardingPlan host tables entries input = .ok plan)
    (hready : plan.AnnouncesReady) :
    plan.nextUserAction = announcement plan.recommendedMode := by
  obtain ⟨probe, -, hsame⟩ := Fallible.do_eq_ok.mp hplan
  cases hsame
  have haction : (planOn input probe).nextUserAction = nextUserAction
      (planOn input probe).userProvisioningAnswer (planOn input probe).blockerSummary
      (planOn input probe).recommendedMode := rfl
  rw [haction, nextUserAction, hready.answered, hready.unblocked]
  rfl

theorem planOn_unblocked {input : OnboardingPlanInput} {probe : HarnessProbeMatrix}
    (hnone : (planOn input probe).blockerSummary = []) :
    ∀ row ∈ probe.rows, Unblocked row.classifications := by
  intro row hrow
  have hblockers := List.filter_eq_nil_iff.mp (List.map_eq_nil_iff.mp hnone) (onboardingRow row)
    (List.mem_map_of_mem hrow)
  rw [Bool.not_eq_true', Bool.not_eq_false, List.isEmpty_iff] at hblockers
  exact unblocked_iff.mp hblockers

/-- An unblocked row of a tolerant probe is ready exactly when its name resolves to an entry
whose observation proves uptake. -/
theorem harnessProbeRow_ready_iff {entries : List HarnessControlEntry} {input : HarnessProbeInput}
    {name : JsString} {row : ProbeRow}
    (hrow : harnessProbeRow host tables entries input true name = .ok row)
    (hclear : Unblocked row.classifications) :
    row.governedReadiness = .governedReady ↔
      ∀ entry, resolveHarnessEntry entries name = some entry →
        ∃ observation, observationOf input entry = some observation ∧
          ProvesUptake host tables entry observation := by
  rw [harnessProbeRow] at hrow
  cases hentry : resolveHarnessEntry entries name with
  | some entry =>
      rw [hentry] at hrow
      obtain ⟨harnessId, -, hsame⟩ := Fallible.do_eq_ok.mp hrow
      cases hsame
      rw [resolvedRow_classifications] at hclear
      rw [resolvedRow_ready_iff harnessId hclear]
      constructor
      · intro huptake other hsame
        rwa [← Option.some.inj hsame]
      · exact fun huptake => huptake entry rfl
  | none =>
      rw [hentry] at hrow
      cases hrow
      exact absurd (hclear .unresolvableHarnessRequest List.mem_cons_self) (by decide)

/-- A ready row stands among the ready harnesses. -/
theorem mem_governedReadyHarnesses {input : OnboardingPlanInput} {probe : HarnessProbeMatrix}
    {row : OnboardingRow} (hrow : row ∈ (planOn input probe).readinessRows)
    (hready : row.governedReadiness = .governedReady) :
    row.harness ∈ (planOn input probe).governedReadyHarnesses := by
  obtain ⟨source, -, hsame⟩ := List.mem_map.mp hrow
  apply List.mem_map_of_mem
  apply List.mem_filter.mpr
  refine ⟨hrow, ?_⟩
  rw [← hsame] at hready ⊢
  exact beq_iff_eq.mpr hready

/-- The announcement is true exactly when every harness has an observation that proves
uptake. -/
theorem announcement_true_iff {entries : List HarnessControlEntry} {input : OnboardingPlanInput}
    {plan : OnboardingPlan} (hplan : getOnboardingPlan host tables entries input = .ok plan)
    (hready : plan.AnnouncesReady) :
    ((∀ row ∈ plan.readinessRows, row.governedReadiness = .governedReady) ∧
      ∀ row ∈ plan.readinessRows, row.harness ∈ plan.governedReadyHarnesses) ↔
    ∀ name ∈ intendedHarnesses entries input.probe,
      ∀ entry, resolveHarnessEntry entries name = some entry →
        ∃ observation, observationOf input.probe entry = some observation ∧
          ProvesUptake host tables entry observation := by
  obtain ⟨probe, hprobe, hsame⟩ := Fallible.do_eq_ok.mp hplan
  cases hsame
  obtain ⟨rows, hrows, hsame⟩ := Fallible.do_eq_ok.mp hprobe
  cases hsame
  rw [← Fallible.forall_results_iff hrows fun name row hrow hmem =>
    harnessProbeRow_ready_iff hrow (planOn_unblocked hready.unblocked row hmem)]
  constructor
  · rintro ⟨hall, -⟩ row hrow
    exact hall (onboardingRow row) (List.mem_map_of_mem hrow)
  · intro hall
    have hplanned : ∀ row ∈ rows.map onboardingRow, row.governedReadiness = .governedReady := by
      intro row hrow
      obtain ⟨source, hsource, rfl⟩ := List.mem_map.mp hrow
      exact hall source hsource
    exact ⟨hplanned, fun row hrow => mem_governedReadyHarnesses hrow (hplanned row hrow)⟩

/-! ### An announcement without uptake -/

/-- The user's word that `Codex` is provisioned, with its MCP server configured. -/
def codexInput : OnboardingPlanInput where
  intendedHarnesses := some [js "Codex"]
  installedHarnesses := some [js "Codex"]
  userProvisioningAnswer := some .yes
  observations := some [{ harness := js "Codex", mcpConfigured := some true }]

def codex : HarnessControlEntry := shippedEntries[5]

def codexProbe : HarnessProbeMatrix where
  secretProviderStatuses := []
  rows := [resolvedRow plainHost smallTables codexInput.probe codex (js "Codex") codex.harnessId]

theorem codexInput_plan : getOnboardingPlan plainHost smallTables shippedEntries codexInput =
    .ok (planOn codexInput codexProbe) := by
  have hresolve : resolveHarnessEntry shippedEntries (js "Codex") = some codex := rfl
  have hrow : harnessProbeRow plainHost smallTables shippedEntries codexInput.probe true
      (js "Codex") =
        .ok (resolvedRow plainHost smallTables codexInput.probe codex (js "Codex")
          codex.harnessId) := by
    rw [harnessProbeRow, hresolve]
    rfl
  apply Fallible.do_eq_ok.mpr
  refine ⟨codexProbe, ?_, rfl⟩
  apply Fallible.do_eq_ok.mpr
  exact ⟨_, Fallible.mapM_eq_ok_iff.mpr (.cons hrow .nil), rfl⟩

theorem codex_unblocked :
    probeClassifications smallTables codexInput.probe codex (js "Codex") = [] := by
  decide +kernel

theorem codexInput_announces : (planOn codexInput codexProbe).AnnouncesReady where
  answered := rfl
  unblocked := by
    have hblockers : (onboardingRow (resolvedRow plainHost smallTables codexInput.probe codex
        (js "Codex") codex.harnessId)).blockers = [] :=
      unblocked_iff.mpr fun item hitem => by
        rw [show (resolvedRow plainHost smallTables codexInput.probe codex (js "Codex")
          codex.harnessId).classifications = [] from codex_unblocked] at hitem
        cases hitem
    apply List.map_eq_nil_iff.mpr
    apply List.filter_eq_nil_iff.mpr
    intro row hrow
    obtain rfl := List.mem_singleton.mp hrow
    rw [hblockers]
    decide

theorem announcement_true_iff_codex :
    ((∀ row ∈ (planOn codexInput codexProbe).readinessRows,
        row.governedReadiness = .governedReady) ∧
      ∀ row ∈ (planOn codexInput codexProbe).readinessRows,
        row.harness ∈ (planOn codexInput codexProbe).governedReadyHarnesses) ↔
    ∀ name ∈ intendedHarnesses shippedEntries codexInput.probe,
      ∀ entry, resolveHarnessEntry shippedEntries name = some entry →
        ∃ observation, observationOf codexInput.probe entry = some observation ∧
          ProvesUptake plainHost smallTables entry observation :=
  announcement_true_iff codexInput_plan codexInput_announces

/-- A harness without a proof is announced as ready, in the words of the last branch. -/
theorem codex_announced : ¬∀ (host : HostRuntime) (tables : Tables) (input : OnboardingPlanInput)
    (plan : OnboardingPlan), getOnboardingPlan host tables shippedEntries input = .ok plan →
      plan.AnnouncesReady → plan.nextUserAction = announcement plan.recommendedMode →
      (∀ row ∈ plan.readinessRows, row.governedReadiness = .governedReady) ∧
        ∀ row ∈ plan.readinessRows, row.harness ∈ plan.governedReadyHarnesses := by
  intro hall
  obtain ⟨hrows, -⟩ := hall plainHost smallTables codexInput _ codexInput_plan codexInput_announces
    (nextUserAction_announces codexInput_plan codexInput_announces)
  have hready := hrows _ List.mem_cons_self
  have hclear : Unblocked (probeClassifications smallTables codexInput.probe codex (js "Codex")) := by
    rw [codex_unblocked]
    exact fun item hitem => absurd hitem List.not_mem_nil
  obtain ⟨observation, hobservation, huptake⟩ :=
    (@resolvedRow_ready_iff plainHost smallTables codexInput.probe codex (js "Codex")
      codex.harnessId hclear).mp hready
  obtain rfl := Option.some.inj hobservation
  exact absurd huptake.hooks (by decide)

end OdinSentinel.Readiness
