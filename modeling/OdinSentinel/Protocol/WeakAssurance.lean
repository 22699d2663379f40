import OdinSentinel.Protocol.ReadinessGate

/-!
# High authority on weak assurance

The gate asks for the assurance of a row by the slot's `role` where the caller
gives one, and by its `roleSlot` only otherwise.  A row of high authority with a
lower `role` beside it therefore activates on what suffices for that role.
-/

namespace OdinSentinel.Readiness

open JsText Host Unicode Validators RoleIdentity

variable {host : HostRuntime} {tables : Tables} {gate : ReadinessGateInput}
  {slot : ReadinessSlotInput}

/-! ## When nothing fails -/

theorem forall_mem_classifyIf {holds : Bool} {item : Classification}
    {property : Classification → Prop} :
    (∀ other ∈ classifyIf holds item, property other) ↔ (holds = true → property item) := by
  cases holds <;> simp [classifyIf]

/-- No classification of an occupied slot is a failure. -/
structure Clear (host : HostRuntime) (tables : Tables) (gate : ReadinessGateInput)
    (slot : ReadinessSlotInput) : Prop where
  execPmAuthorized : gate.execPmAuthorized = some true
  cmuxAvailable : gate.cmuxAvailable = some true
  versioned : slot.mcpAvailable = some true → ¬slot.mcpVersion = none
  recent : slot.mcpAvailable = some true → slot.mcpVersion.any (fun version =>
    isVersionBelow version (gate.minimumMcpVersion.getD minimumCompatibleMcpVersion)) = false
  mcp : slot.mcpAvailable ≠ some false
  sources : (resolveContextSources host slot).2 = false
  permission : slot.firstRunPermissionStatus ≠ some .promptWaiting ∧
    slot.firstRunPermissionStatus ≠ some .denied
  auth : slot.authStatus ≠ some .missing ∧ slot.authStatus ≠ some .loginRequired ∧
    slot.authStatus ≠ some .providerBlocked ∧ slot.authStatus ≠ some .unknown
  answered : slot.authStatus = none → gate.userProvisioningAnswer = some .yes
  model : slot.modelStatus ≠ some .stalled ∧ slot.modelStatus ≠ some .reasoningOnly ∧
    slot.modelStatus ≠ some .streamingProtocolMismatch ∧ slot.modelStatus ≠ some .unreachable
  compatible : slot.roleCompatibility ≠ some .refusesRole ∧
    slot.roleCompatibility ≠ some .unproven
  odin : isOdinRole tables slot.roleSlot = true →
    slot.canHydrateDeferredMcpToolsAtBoot = some true ∨
      slot.fullProtocolTextInjected = some true ∨ slot.scpSkillAvailable = some true

theorem failureClassifications_eq_nil_iff (hvacant : isVacant slot = false) :
    failureClassifications host tables gate slot = [] ↔ Clear host tables gate slot := by
  have hkeep : ∀ item, isFailure item = true ↔ item ≠ .scpSkillMissing ∧
      item ≠ .nonGovernedOneShotOnly ∧ item ≠ .vacantRoleSlot := by
    intro item
    simp [isFailure, and_assoc]
  simp only [failureClassifications, List.filter_eq_nil_iff, slotClassifications,
    List.mem_eraseDups, hvacant, Bool.false_eq_true, if_false, occupantClassifications,
    List.forall_mem_append, forall_mem_classifyIf, hkeep]
  simp [and_assoc]
  constructor
  · rintro ⟨hpm, hcmux, hversioned, hrecent, hmcp, hsources, hprompt, hdenied, hlogin, hmissing,
      hprovider, hunknown, hstalled, hmismatch, hreasoning, hunreachable, hrefuses, hunproven,
      hanswered, hodin⟩
    exact {
      execPmAuthorized := hpm
      cmuxAvailable := hcmux
      versioned := hversioned
      recent := hrecent
      mcp := hmcp
      sources := hsources
      permission := ⟨hprompt, hdenied⟩
      auth := ⟨hmissing, hlogin, hprovider, hunknown⟩
      answered := fun hnone => by_contra fun hanswer => (hanswered hanswer).2.2 hnone
      model := ⟨hstalled, hreasoning, hmismatch, hunreachable⟩
      compatible := ⟨hrefuses, hunproven⟩
      odin := fun hkind => by
        by_cases hboot : slot.canHydrateDeferredMcpToolsAtBoot = some true
        · exact .inl hboot
        by_cases hfull : slot.fullProtocolTextInjected = some true
        · exact .inr (.inl hfull)
        · exact .inr (.inr (hodin hkind hboot hfull)) }
  · intro hclear
    refine ⟨hclear.execPmAuthorized, hclear.cmuxAvailable, hclear.versioned, hclear.recent,
      hclear.mcp, hclear.sources, hclear.permission.1, hclear.permission.2, hclear.auth.2.1,
      hclear.auth.1, hclear.auth.2.2.1, hclear.auth.2.2.2, hclear.model.1, hclear.model.2.2.1,
      hclear.model.2.1, hclear.model.2.2.2, hclear.compatible.1, hclear.compatible.2, ?_, ?_⟩
    · exact fun hanswer => ⟨hclear.auth.1, hclear.auth.2.2.2,
        fun hnone => hanswer (hclear.answered hnone)⟩
    · intro hkind hboot hfull
      rcases hclear.odin hkind with h | h | h
      · exact absurd h hboot
      · exact absurd h hfull
      · exact h

/-! ## Which rows activate -/

/-- A row whose slot is one of the four high kinds. -/
def isHighSlot (tables : Tables) (slot : ReadinessSlotInput) : Bool :=
  isHighAuthorityRole tables (some slot.roleSlot)

theorem isGovernedRole_of_high {role : JsString}
    (hhigh : isHighAuthorityRole tables (some role) = true) :
    isGovernedRole tables role = true := by
  simp only [isHighAuthorityRole, Bool.and_eq_true, List.contains_iff_mem, List.mem_cons,
    List.not_mem_nil, or_false] at hhigh
  simp only [isGovernedRole, governedKinds, List.contains_iff_mem, List.mem_cons,
    List.not_mem_nil, or_false]
  rcases hhigh.2 with hkind | hkind | hkind | hkind <;> simp [hkind]

/-- Nothing live that the caller reports blocks the occupant. -/
structure Live (slot : ReadinessSlotInput) : Prop where
  hooks : slot.hooksAvailable = some true
  permission : slot.permissionBlocked ≠ some true
  progress : slot.idleStalled ≠ some true
  delivery : ∀ state, slot.deliveryState = some state → state ∉ unsafeDeliveryStates
  liveness : ∀ state, slot.livenessState = some state → state ∉ unsafeLivenessStates

theorem slotClassification_of_failure {item : Classification} (hfailure : isFailure item = true)
    (hnone : failureClassifications host tables gate slot = []) :
    (slotClassifications host tables gate slot).contains item = false := by
  rw [failureClassifications, List.filter_eq_nil_iff] at hnone
  simpa using fun hmem => hnone item hmem hfailure

theorem liveBlockers_governedInput (hvacant : isVacant slot = false) :
    liveBlockers (governedInput host tables gate slot) = [] ↔
      Clear host tables gate slot ∧ Live slot := by
  rw [← failureClassifications_eq_nil_iff hvacant]
  by_cases hfailures : failureClassifications host tables gate slot = []
  · have habsent : ∀ item, isFailure item = true →
        (slotClassifications host tables gate slot).contains item = false :=
      fun item hitem => slotClassification_of_failure hitem hfailures
    have hauthenticated :
        slotAuthenticated (slotClassifications host tables gate slot) slot ≠ .no := by
      simp only [slotAuthenticated, List.any_cons, List.any_nil,
        habsent .blockedByApiKey (by decide), habsent .authProviderBlocked (by decide),
        habsent .blockedByLogin (by decide), habsent .blockedByAuth (by decide), Bool.or_false,
        Bool.false_eq_true, if_false]
      split <;> decide
    simp only [liveBlockers, governedInput, hfailures, List.append_eq_nil_iff, reasonIf_eq_nil,
      habsent .blockedByPermission (by decide), Bool.false_or, List.map_nil, Option.getD_some,
      true_and, and_true, and_assoc]
    constructor
    · rintro ⟨-, -, -, hhooks, hpermission, hprogress, hdelivery, hliveness⟩
      exact {
        hooks := by simpa using hhooks
        permission := by simpa using hpermission
        progress := by simpa using hprogress
        delivery := by
          intro state hstate
          simpa [hstate] using hdelivery
        liveness := by
          intro state hstate
          simpa [hstate] using hliveness }
    · intro hlive
      have hdelivery := hlive.delivery
      have hliveness := hlive.liveness
      refine ⟨by decide, by simpa using hauthenticated, by decide, ?_, ?_, ?_, ?_, ?_⟩
      · simp [hlive.hooks]
      · simpa using hlive.permission
      · simpa using hlive.progress
      · cases hstate : slot.deliveryState with
        | none => rfl
        | some state => simpa using hdelivery state hstate
      · cases hstate : slot.livenessState with
        | none => rfl
        | some state => simpa using hliveness state hstate
  · simp [liveBlockers, governedInput, hfailures]

/-- A valid proof supplies a context source where the slot declares none. -/
theorem resolveContextSources_ne_nil
    (hvalid : (validateGovernedContextProof host slot.governedContextProof).valid = true) :
    (resolveContextSources host slot).1 ≠ [] := by
  obtain ⟨assurance, hassurance, hsome⟩ := validateGovernedContextProof_valid host hvalid
  have hsource : ∃ source,
      proofDerivedContextSource host slot.governedContextProof = some source := by
    simp only [proofDerivedContextSource, hvalid, hassurance, Bool.not_true, Bool.false_eq_true,
      if_false]
    cases assurance with
    | none => exact absurd rfl hsome
    | mcpBootstrap => exact ⟨_, rfl⟩
    | staticControlFile => exact ⟨_, rfl⟩
    | nativeSkill => exact ⟨_, rfl⟩
  obtain ⟨source, hsource⟩ := hsource
  simp only [resolveContextSources, hsource]
  split_ifs with hlegacy
  · simp
  · exact hlegacy
  · exact hlegacy

theorem nonGoverned_absent (hvacant : isVacant slot = false)
    (hsources : (resolveContextSources host slot).1 ≠ []) :
    (slotClassifications host tables gate slot).contains .nonGovernedOneShotOnly = false := by
  simp [slotClassifications, hvacant, occupantClassifications, hsources]

/-- A substitution that the caller asks for with a fallback named. -/
def AsksSubstitution (slot : ReadinessSlotInput) : Prop :=
  slot.waiver = some .substitutionApprovedByExecPm ∧
    ∃ fallback, slot.fallbackHarness = some fallback ∧ trim fallback ≠ []

theorem approvedSubstitution_iff (hvacant : isVacant slot = false)
    (hclear : Clear host tables gate slot) :
    approvedSubstitution host tables gate slot = true ↔ AsksSubstitution slot := by
  have hfailures := (failureClassifications_eq_nil_iff hvacant).mpr hclear
  simp [approvedSubstitution, AsksSubstitution, hfailures, hclear.execPmAuthorized,
    Option.any_eq_true]

theorem activationAllowedBase_iff (hvacant : isVacant slot = false)
    (hclear : Clear host tables gate slot)
    (hsources : (resolveContextSources host slot).1 ≠ []) :
    activationAllowedBase host tables gate slot = true ↔
      isReadyOccupant slot = true ∧ ¬AsksSubstitution slot := by
  have hfailures := (failureClassifications_eq_nil_iff hvacant).mpr hclear
  have habsent : (slotClassifications host tables gate slot).contains .nonGovernedOneShotOnly =
      false := nonGoverned_absent hvacant hsources
  rw [← approvedSubstitution_iff hvacant hclear]
  unfold activationAllowedBase slotStatus
  rw [habsent, hfailures]
  cases hsubstitution : approvedSubstitution host tables gate slot <;>
    cases hwaiver : approvedWaiver host tables gate slot <;> simp [hvacant]

/-- An occupant of a high slot activates exactly when nothing fails, it is in a
ready state without a substitution, and its proof is valid at the assurance that
its requested role needs. -/
theorem activationAllowed_iff (hhigh : isHighSlot tables slot = true)
    (hvacant : isVacant slot = false) :
    (readinessRow host tables gate slot).activationAllowed = true ↔
      (Clear host tables gate slot ∧ Live slot ∧ isReadyOccupant slot = true ∧
        ¬AsksSubstitution slot ∧
        harnessCategory tables (slot.harness.getD (js "unknown")) ≠ .unsupported) ∧
      ∃ assurance,
        (validateGovernedContextProof host slot.governedContextProof).valid = true ∧
        (validateGovernedContextProof host slot.governedContextProof).proofAssurance =
          some assurance ∧
        (requiredAssurance (harnessCategory tables (slot.harness.getD (js "unknown")))
          (isHighAuthorityRole tables (some (slot.role.getD slot.roleSlot)))).rank ≤
            assurance.rank := by
  have hoccupant : isGovernedOccupant tables slot = true := by
    rw [isGovernedOccupant, isGovernedRole_of_high hhigh, hvacant]
    rfl
  have hready : (classifyGovernedReadiness host tables
      (governedInput host tables gate slot)).state = .governedReady ↔ _ :=
    governedReady_iff (governedInput host tables gate slot)
  rw [liveBlockers_governedInput hvacant] at hready
  simp only [readinessRow, hoccupant, if_true, Bool.and_eq_true, beq_iff_eq, hready]
  constructor
  · rintro ⟨hbase, hcategory, ⟨hclear, hlive⟩, assurance, hvalid, hproof⟩
    obtain ⟨hstate, hsubstitution⟩ := (activationAllowedBase_iff hvacant hclear
      (resolveContextSources_ne_nil hvalid)).mp hbase
    exact ⟨⟨hclear, hlive, hstate, hsubstitution, hcategory⟩, assurance, hvalid, hproof⟩
  · rintro ⟨⟨hclear, hlive, hstate, hsubstitution, hcategory⟩, assurance, hvalid, hproof⟩
    exact ⟨(activationAllowedBase_iff hvacant hclear (resolveContextSources_ne_nil hvalid)).mpr
      ⟨hstate, hsubstitution⟩, hcategory, ⟨hclear, hlive⟩, assurance, hvalid, hproof⟩

/-! ## Weak assurance -/

/-- What a row of high authority must have behind it when it activates. -/
def ActsOnStrongProof (host : HostRuntime) (tables : Tables) (gate : ReadinessGateInput)
    (slot : ReadinessSlotInput) : Prop :=
  isHighSlot tables slot = true → isVacant slot = false →
    (readinessRow host tables gate slot).activationAllowed = true →
    (validateGovernedContextProof host slot.governedContextProof).valid = true ∧
    ∃ assurance,
      (validateGovernedContextProof host slot.governedContextProof).proofAssurance =
        some assurance ∧
      AssuranceLevel.staticControlFile.rank ≤ assurance.rank

/-- The slot is of high authority, the `role` given beside it is not, the harness
carries at best a bootstrap resource, and on such a proof nothing else blocks the row. -/
structure LowRoleBeside (host : HostRuntime) (tables : Tables) (gate : ReadinessGateInput)
    (slot : ReadinessSlotInput) : Prop where
  high : isHighSlot tables slot = true
  occupied : isVacant slot = false
  low : ∃ role, slot.role = some role ∧ isHighAuthorityRole tables (some role) = false
  weak : harnessCategory tables (slot.harness.getD (js "unknown")) = .mcpOnly ∨
    harnessCategory tables (slot.harness.getD (js "unknown")) = .inherited
  valid : (validateGovernedContextProof host slot.governedContextProof).valid = true
  bootstrap : (validateGovernedContextProof host slot.governedContextProof).proofAssurance =
    some .mcpBootstrap
  clear : Clear host tables gate slot
  live : Live slot
  ready : isReadyOccupant slot = true
  substitution : ¬AsksSubstitution slot

theorem rank_static_le {category : HarnessCategory} (hsupported : category ≠ .unsupported)
    (hweak : ¬(category = .mcpOnly ∨ category = .inherited)) (high : Bool) :
    AssuranceLevel.staticControlFile.rank ≤ (requiredAssurance category high).rank := by
  cases category with
  | nativeSkill => cases high <;> decide
  | staticControlFile => cases high <;> decide
  | mcpOnly => exact absurd (.inl rfl) hweak
  | unsupported => exact absurd rfl hsupported
  | inherited => exact absurd (.inr rfl) hweak

theorem rank_static_le_of_high (category : HarnessCategory) :
    AssuranceLevel.staticControlFile.rank ≤ (requiredAssurance category true).rank := by
  cases category <;> decide

theorem rank_weak_le {category : HarnessCategory}
    (hweak : category = .mcpOnly ∨ category = .inherited) :
    (requiredAssurance category false).rank ≤ AssuranceLevel.mcpBootstrap.rank := by
  rcases hweak with rfl | rfl <;> decide

theorem assurance_cases {assurance : AssuranceLevel} (hnone : assurance ≠ .none)
    (hweak : ¬AssuranceLevel.staticControlFile.rank ≤ assurance.rank) :
    assurance = .mcpBootstrap := by
  cases assurance with
  | none => exact absurd rfl hnone
  | mcpBootstrap => rfl
  | staticControlFile => exact absurd (by decide) hweak
  | nativeSkill => exact absurd (by decide) hweak

theorem actsOnStrongProof_iff :
    ActsOnStrongProof host tables gate slot ↔ ¬LowRoleBeside host tables gate slot := by
  constructor
  · intro hstrong hlow
    obtain ⟨role, hrole, hnothigh⟩ := hlow.low
    have hallowed : (readinessRow host tables gate slot).activationAllowed = true :=
      (activationAllowed_iff hlow.high hlow.occupied).mpr
        ⟨⟨hlow.clear, hlow.live, hlow.ready, hlow.substitution, by
        rcases hlow.weak with hweak | hweak <;> simp [hweak]⟩,
      .mcpBootstrap, hlow.valid, hlow.bootstrap, by
        rw [hrole, Option.getD_some, hnothigh]
        exact rank_weak_le hlow.weak⟩
    obtain ⟨-, assurance, hassurance, hrank⟩ := hstrong hlow.high hlow.occupied hallowed
    rw [hlow.bootstrap] at hassurance
    obtain rfl := Option.some.inj hassurance
    exact absurd hrank (by decide)
  · intro hlow hhigh hvacant hallowed
    obtain ⟨⟨hclear, hlive, hready, hsubstitution, hsupported⟩, assurance, hvalid, hassurance,
      hrank⟩ := (activationAllowed_iff hhigh hvacant).mp hallowed
    refine ⟨hvalid, assurance, hassurance, ?_⟩
    by_contra hweak
    obtain ⟨_, hsame, hnone⟩ := validateGovernedContextProof_valid host hvalid
    obtain rfl := Option.some.inj (hassurance.symm.trans hsame)
    obtain rfl := assurance_cases hnone hweak
    apply hlow
    exact {
      high := hhigh
      occupied := hvacant
      low := by
        cases hrole : slot.role with
        | none =>
            rw [hrole, Option.getD_none, show isHighAuthorityRole tables (some slot.roleSlot) = true
              from hhigh] at hrank
            exact absurd ((rank_static_le_of_high _).trans hrank) (by decide)
        | some role =>
            refine ⟨role, rfl, ?_⟩
            by_contra hrolehigh
            rw [hrole, Option.getD_some, Bool.not_eq_false _ |>.mp hrolehigh] at hrank
            exact absurd ((rank_static_le_of_high _).trans hrank) (by decide)
      weak := by
        by_contra hstrong
        exact hweak ((rank_static_le hsupported hstrong _).trans hrank)
      valid := hvalid
      bootstrap := hassurance
      clear := hclear
      live := hlive
      ready := hready
      substitution := hsubstitution }

/-- Every row of the gate's result that is of high authority, occupied and allowed
to activate has a valid proof behind it, of a static control file at least. -/
def RowsActOnStrongProof (host : HostRuntime) (tables : Tables) (gate : ReadinessGateInput) :
    Prop :=
  ∀ (index : Nat) (slot : ReadinessSlotInput) (row : ReadinessMatrixRow),
    gate.slots[index]? = some slot →
    (evaluateReadinessGate host tables gate).readinessMatrix[index]? = some row →
    isHighAuthorityRole tables (some row.roleSlot) = true → isVacant slot = false →
    row.activationAllowed = true →
    (validateGovernedContextProof host slot.governedContextProof).valid = true ∧
    ∃ assurance,
      (validateGovernedContextProof host slot.governedContextProof).proofAssurance =
        some assurance ∧
      AssuranceLevel.staticControlFile.rank ≤ assurance.rank

theorem readinessMatrix_get {index : Nat} (hslot : gate.slots[index]? = some slot) :
    (evaluateReadinessGate host tables gate).readinessMatrix[index]? =
      some (readinessRow host tables gate slot) := by
  simp [evaluateReadinessGate, hslot]

theorem rowsActOnStrongProof_iff (host : HostRuntime) (tables : Tables)
    (gate : ReadinessGateInput) :
    RowsActOnStrongProof host tables gate ↔
      ∀ slot ∈ gate.slots, ¬LowRoleBeside host tables gate slot := by
  constructor
  · intro hrows slot hmem
    obtain ⟨index, hslot⟩ := List.mem_iff_getElem?.mp hmem
    exact actsOnStrongProof_iff.mp (hrows index slot _ hslot (readinessMatrix_get hslot))
  · intro hlow index slot row hslot hrow
    obtain rfl := Option.some.inj ((readinessMatrix_get hslot).symm.trans hrow)
    exact actsOnStrongProof_iff.mpr (hlow slot (List.mem_of_getElem? hslot))

/-- A bootstrap proof as a client writes it. -/
def bootstrapProof : JsValue := .object
  [(js "schema", .string governedContextProofSchema), (js "role", .string (js "EXEC-PM")),
    (js "harness", .string (js "droid")), (js "source_type", .string (js "mcp_bootstrap")),
    (js "generated_at", .string (js "2026-01-01")),
    (js "control_source", .object [(js "marker", .string (js "scp"))]),
    (js "uptake_receipt", .object
      [(js "observed", .bool true), (js "evidence_marker", .string (js "scp")),
        (js "method", .string (js "read"))])]

/-- An EXEC PM slot with a worker's role beside it. -/
def workerBesideSlot : ReadinessSlotInput where
  roleSlot := js "A/EXEC-PM"
  role := some (js "DEV-1")
  harness := some (js "droid")
  authStatus := some .ready
  occupantState := some (js "BOOTSTRAPPED_IDLE")
  governedContextProof := bootstrapProof
  hooksAvailable := some true

def workerBesideGate : ReadinessGateInput where
  execPmAuthorized := some true
  cmuxAvailable := some true
  slots := [workerBesideSlot]

theorem bootstrapProof_check : validateGovernedContextProof plainHost bootstrapProof =
    { valid := true, proofAssurance := some .mcpBootstrap, reasons := [] } := by
  decide +kernel

/-- What its evaluation leaves, given that of the proof: small tests of the slot's fields. -/
theorem workerBeside_clear : Clear plainHost smallTables workerBesideGate workerBesideSlot where
  execPmAuthorized := rfl
  cmuxAvailable := rfl
  versioned := by decide
  recent := by decide
  mcp := by decide
  sources := by
    have hsource : proofDerivedContextSource plainHost workerBesideSlot.governedContextProof =
        some .mcpBootstrapResource := by
      rw [proofDerivedContextSource, show workerBesideSlot.governedContextProof = bootstrapProof
        from rfl, bootstrapProof_check]
      rfl
    rw [resolveContextSources, hsource]
    rfl
  permission := by decide
  auth := by decide
  answered := by decide
  model := by decide
  compatible := by decide
  odin := by decide

theorem workerBeside_allowed :
    (readinessRow plainHost smallTables workerBesideGate workerBesideSlot).activationAllowed =
      true := by
  apply (activationAllowed_iff (by decide) (by decide)).mpr
  refine ⟨⟨workerBeside_clear, ?_, by decide, ?_, by decide⟩, .mcpBootstrap, ?_, ?_, by decide⟩
  · exact ⟨rfl, by decide, by decide, by rintro _ ⟨⟩, by rintro _ ⟨⟩⟩
  · rintro ⟨⟨⟩, -⟩
  · exact congrArg ProofCheck.valid bootstrapProof_check
  · exact congrArg ProofCheck.proofAssurance bootstrapProof_check

theorem workerBeside_activates :
    ¬∀ host tables gate, RowsActOnStrongProof host tables gate := by
  intro hstrong
  obtain ⟨-, assurance, hassurance, hrank⟩ :=
    hstrong plainHost smallTables workerBesideGate 0 workerBesideSlot _ rfl rfl (by decide)
      (by decide) workerBeside_allowed
  have hcheck : (validateGovernedContextProof plainHost bootstrapProof).proofAssurance =
      some assurance := hassurance
  rw [bootstrapProof_check] at hcheck
  obtain rfl := Option.some.inj hcheck
  exact absurd hrank (by decide)

end OdinSentinel.Readiness
