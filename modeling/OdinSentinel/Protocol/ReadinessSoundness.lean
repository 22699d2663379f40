import OdinSentinel.Protocol.WeakAssurance

/-!
# Readiness

What a gate that allows activation has seen.  Launch and activation read the same
classifications: no waiver lets a row launch over an unwaivable blocker, and none lets a
governed occupant activate that is not ready.
-/

namespace OdinSentinel.Readiness

open JsText Host Unicode Validators RoleIdentity

variable {host : HostRuntime} {tables : Tables} {gate : ReadinessGateInput}
  {slot : ReadinessSlotInput}

/-! ## Launch -/

theorem isFailure_of_unwaivable {item : Classification}
    (hitem : item ∈ unwaivableLaunchBlockers) : isFailure item = true := by
  cases item <;> first | rfl | exact absurd hitem (by decide)

theorem not_unwaivable_of_clear (hclear : failureClassifications host tables gate slot = [])
    {item : Classification} (hitem : item ∈ slotClassifications host tables gate slot) :
    item ∉ unwaivableLaunchBlockers := by
  intro hblocker
  have habsent := slotClassification_of_failure (isFailure_of_unwaivable hblocker) hclear
  rw [← Bool.not_eq_true, List.contains_iff_mem] at habsent
  exact habsent hitem

theorem approvedWaiver_clear (hwaiver : approvedWaiver host tables gate slot = true)
    {item : Classification} (hitem : item ∈ slotClassifications host tables gate slot) :
    item ∉ unwaivableLaunchBlockers := by
  intro hblocker
  rw [approvedWaiver, Bool.and_eq_true, Bool.not_eq_true', List.any_eq_false] at hwaiver
  exact hwaiver.2 item hitem (List.contains_iff_mem.mpr hblocker)

theorem approvedSubstitution_clear
    (hsubstitution : approvedSubstitution host tables gate slot = true) :
    failureClassifications host tables gate slot = [] := by
  rw [approvedSubstitution, Bool.and_eq_true, List.isEmpty_iff] at hsubstitution
  exact hsubstitution.2

/-- What stands behind a row that may launch. -/
theorem slotStatus_launch (hlaunch : launchAllowedOf (slotStatus host tables gate slot) = true) :
    failureClassifications host tables gate slot = [] ∨
      approvedWaiver host tables gate slot = true := by
  rw [slotStatus] at hlaunch
  split_ifs at hlaunch with hsubstitution hwaiver hgoverned hfails
  · exact .inl (approvedSubstitution_clear hsubstitution)
  · exact .inr hwaiver
  · cases hlaunch
  · cases hlaunch
  · exact .inl (by simpa using hfails)

theorem launchAllowed_clear
    (hlaunch : (readinessRow host tables gate slot).launchAllowed = true) :
    ∀ item ∈ (readinessRow host tables gate slot).classifications,
      item ∉ unwaivableLaunchBlockers := by
  intro item hitem
  rcases slotStatus_launch hlaunch with hclear | hwaiver
  · exact not_unwaivable_of_clear hclear hitem
  · exact approvedWaiver_clear hwaiver hitem

/-! ## Activation -/

/-- What stands behind an occupant that is governed-ready. -/
structure ReadyOccupant (host : HostRuntime) (tables : Tables) (gate : ReadinessGateInput)
    (slot : ReadinessSlotInput) (row : ReadinessMatrixRow) : Prop where
  ready : row.governedReadiness = .governedReady
  proof : (validateGovernedContextProof host slot.governedContextProof).valid = true
  hooks : slot.hooksAvailable = some true
  clear : ∀ item ∈ row.classifications, isFailure item = false

theorem readyOccupant_of_ready
    (hready : (readinessRow host tables gate slot).governedReadiness = .governedReady) :
    ReadyOccupant host tables gate slot (readinessRow host tables gate slot) := by
  obtain ⟨-, hlive, assurance, hvalid, -⟩ := (governedReady_iff _).mp hready
  obtain ⟨-, -, -, hhooks, -, -, -, -, hothers⟩ := (liveBlockers_eq_nil_iff _).mp hlive
  have hclear : failureClassifications host tables gate slot = [] := by
    rw [governedInput, Option.getD_some, List.map_eq_nil_iff] at hothers
    exact hothers
  refine ⟨hready, hvalid, hhooks, ?_⟩
  intro item hitem
  rw [← Bool.not_eq_true]
  exact List.filter_eq_nil_iff.mp hclear item hitem

theorem activationAllowed_ready
    (hallowed : (readinessRow host tables gate slot).activationAllowed = true)
    (hgoverned : isGovernedRole tables slot.roleSlot = true) (hoccupied : isVacant slot = false) :
    ReadyOccupant host tables gate slot (readinessRow host tables gate slot) := by
  have hoccupant : isGovernedOccupant tables slot = true := by
    rw [isGovernedOccupant, hgoverned, hoccupied]
    rfl
  simp only [readinessRow, hoccupant, if_true, Bool.and_eq_true, beq_iff_eq] at hallowed
  exact readyOccupant_of_ready hallowed.2

/-- No status lets a required vacant slot activate. -/
theorem activationAllowed_vacant
    (hallowed : (readinessRow host tables gate slot).activationAllowed = true)
    (hvacant : isVacant slot = true) : slot.required = some false := by
  have hoccupant : isGovernedOccupant tables slot = false := by
    rw [isGovernedOccupant, hvacant]
    simp
  have hstate : slot.occupantState = some (js "VACANT_ROLE_SLOT") := by
    simpa [isVacant] using hvacant
  have hready : isReadyOccupant slot = true → slot.required = some false := by
    intro hready
    have hidle : js "VACANT_ROLE_SLOT" ≠ js "BOOTSTRAPPED_IDLE" := by decide
    have hwatch : js "VACANT_ROLE_SLOT" ≠ js "ACTIVE_WATCH" := by decide
    simpa [isReadyOccupant, hstate, hvacant, hidle, hwatch] using hready
  simp only [readinessRow, hoccupant, Bool.false_eq_true, if_false, activationAllowedBase]
    at hallowed
  split at hallowed
  · exact hready hallowed
  · exact hready (Bool.and_eq_true_iff.mp hallowed).1
  · simpa using (Bool.and_eq_true_iff.mp hallowed).2
  · cases hallowed

/-- What a team that may activate has behind it. -/
structure ActivatesSoundly (host : HostRuntime) (tables : Tables) (gate : ReadinessGateInput) :
    Prop where
  staffed : gate.slots ≠ []
  execPmAuthorized : gate.execPmAuthorized = some true
  cmuxAvailable : gate.cmuxAvailable = some true
  ready : ∀ (index : Nat) (slot : ReadinessSlotInput) (row : ReadinessMatrixRow),
    gate.slots[index]? = some slot →
    (evaluateReadinessGate host tables gate).readinessMatrix[index]? = some row →
    isGovernedRole tables slot.roleSlot = true → isVacant slot = false →
      ReadyOccupant host tables gate slot row

theorem activationStatus_allowed_iff :
    (evaluateReadinessGate host tables gate).activationStatus = js "TEAM_ACTIVATION_ALLOWED" ↔
      gate.slots ≠ [] ∧
        (∀ slot ∈ gate.slots, (readinessRow host tables gate slot).activationAllowed = true) ∧
        gate.cmuxAvailable = some true ∧ gate.execPmAuthorized = some true := by
  have hblocked : js "TEAM_ACTIVATION_BLOCKED" ≠ js "TEAM_ACTIVATION_ALLOWED" := by decide
  rw [evaluateReadinessGate]
  dsimp only
  rw [ite_eq_left_iff, imp_iff_not hblocked, not_not]
  simp [and_assoc]

/-- The gate allows activation only of a staffed, authorized team whose governed occupants are
ready; no row launches over an unwaivable blocker; no required vacant slot activates. -/
theorem readinessGate_sound (host : HostRuntime) (tables : Tables) (gate : ReadinessGateInput) :
    ((evaluateReadinessGate host tables gate).activationStatus = js "TEAM_ACTIVATION_ALLOWED" →
      ActivatesSoundly host tables gate) ∧
    (∀ row ∈ (evaluateReadinessGate host tables gate).readinessMatrix,
      row.launchAllowed = true → ∀ item ∈ row.classifications,
        item ∉ unwaivableLaunchBlockers) ∧
    ∀ (index : Nat) (slot : ReadinessSlotInput) (row : ReadinessMatrixRow),
      gate.slots[index]? = some slot →
      (evaluateReadinessGate host tables gate).readinessMatrix[index]? = some row →
      isVacant slot = true → row.activationAllowed = true → slot.required = some false := by
  refine ⟨?_, ?_, ?_⟩
  · intro hallowed
    obtain ⟨hstaffed, hrows, hcmux, hexecPm⟩ := activationStatus_allowed_iff.mp hallowed
    refine ⟨hstaffed, hexecPm, hcmux, ?_⟩
    intro index slot row hslot hrow hgoverned hoccupied
    obtain rfl := Option.some.inj ((readinessMatrix_get hslot).symm.trans hrow)
    exact activationAllowed_ready (hrows slot (List.mem_of_getElem? hslot)) hgoverned hoccupied
  · intro row hrow hlaunch
    obtain ⟨slot, -, rfl⟩ := List.mem_map.mp hrow
    exact launchAllowed_clear hlaunch
  · intro index slot row hslot hrow hvacant hallowed
    obtain rfl := Option.some.inj ((readinessMatrix_get hslot).symm.trans hrow)
    exact activationAllowed_vacant hallowed hvacant

theorem readinessGate_sound_workerBeside :
    (evaluateReadinessGate plainHost smallTables workerBesideGate).activationStatus =
      js "TEAM_ACTIVATION_ALLOWED" ∧
    ActivatesSoundly plainHost smallTables workerBesideGate := by
  have hallowed : (evaluateReadinessGate plainHost smallTables workerBesideGate).activationStatus =
      js "TEAM_ACTIVATION_ALLOWED" := by
    apply activationStatus_allowed_iff.mpr
    refine ⟨List.cons_ne_nil _ _, ?_, rfl, rfl⟩
    intro slot hslot
    rw [List.mem_singleton.mp hslot]
    exact workerBeside_allowed
  exact ⟨hallowed, (readinessGate_sound plainHost smallTables workerBesideGate).1 hallowed⟩

end OdinSentinel.Readiness
