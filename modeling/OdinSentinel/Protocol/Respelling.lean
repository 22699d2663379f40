import OdinSentinel.Protocol.KindOfSlot
import OdinSentinel.Protocol.ReadinessGate

/-!
# Spellings of a slot at the gate

The gate reads a row's slot through its kind only.  Two spellings of one
canonical slot therefore decide alike when both have the kind of that slot,
which they have unless the slash of the slot is spelled with another character.
-/

namespace OdinSentinel.Readiness

open JsText Host Unicode RoleIdentity

def ReadinessSlotInput.respell (slot : ReadinessSlotInput) (spelling : JsString) :
    ReadinessSlotInput := { slot with roleSlot := spelling }

/-- The gate's input with one row's slot spelled otherwise. -/
def ReadinessGateInput.respell (gate : ReadinessGateInput) (index : Nat) (spelling : JsString) :
    ReadinessGateInput :=
  { gate with slots := gate.slots.modify index (·.respell spelling) }

/-- What a row decides. -/
def ReadinessMatrixRow.decision (row : ReadinessMatrixRow) :
    Bool × GovernedReadinessState × Bool :=
  (row.launchAllowed, row.governedReadiness, row.activationAllowed)

variable {host : HostRuntime} {tables : Tables}

section SameKind

variable {left right : JsString}

theorem isHighAuthorityRole_congr (hkind : roleKindOf tables left = roleKindOf tables right)
    (hleft : left ≠ []) (hright : right ≠ []) (role : Option JsString) :
    isHighAuthorityRole tables (some (role.getD left)) =
      isHighAuthorityRole tables (some (role.getD right)) := by
  cases role with
  | none => simp [isHighAuthorityRole, hkind, hleft, hright]
  | some role => rfl

theorem slotClassifications_congr (hkind : roleKindOf tables left = roleKindOf tables right)
    (gate : ReadinessGateInput) (slot : ReadinessSlotInput) :
    slotClassifications host tables gate (slot.respell left) =
      slotClassifications host tables gate (slot.respell right) := by
  have hoccupant : occupantClassifications host tables gate (slot.respell left) =
      occupantClassifications host tables gate (slot.respell right) := by
    simp only [occupantClassifications, isGovernedRole, isOdinRole, ReadinessSlotInput.respell,
      hkind]
    rfl
  simp only [slotClassifications, hoccupant]
  rfl

/-- Rows of spellings of one kind decide alike. -/
theorem readinessRow_decision_congr
    (hkind : roleKindOf tables left = roleKindOf tables right)
    (hleft : left ≠ []) (hright : right ≠ [])
    (gate : ReadinessGateInput) (slot : ReadinessSlotInput) :
    (readinessRow host tables gate (slot.respell left)).decision =
      (readinessRow host tables gate (slot.respell right)).decision := by
  have hclasses : slotClassifications host tables gate (slot.respell left) =
      slotClassifications host tables gate (slot.respell right) :=
    slotClassifications_congr hkind gate slot
  have hfailures : failureClassifications host tables gate (slot.respell left) =
      failureClassifications host tables gate (slot.respell right) := by
    rw [failureClassifications, hclasses, failureClassifications]
  have hstatus : slotStatus host tables gate (slot.respell left) =
      slotStatus host tables gate (slot.respell right) := by
    simp only [slotStatus, approvedSubstitution, approvedWaiver, hclasses, hfailures]
    rfl
  have hbase : activationAllowedBase host tables gate (slot.respell left) =
      activationAllowedBase host tables gate (slot.respell right) := by
    simp only [activationAllowedBase, hstatus, hfailures]
    rfl
  have hinput : governedInput host tables gate (slot.respell right) =
      { governedInput host tables gate (slot.respell left) with
        requestedRole := some (slot.role.getD right) } := by
    simp only [governedInput, hclasses, hfailures]
    rfl
  have hgoverned : classifyGovernedReadiness host tables
        (governedInput host tables gate (slot.respell left)) =
      classifyGovernedReadiness host tables
        (governedInput host tables gate (slot.respell right)) := by
    rw [hinput]
    exact classifyGovernedReadiness_role (governedInput host tables gate (slot.respell left))
      (isHighAuthorityRole_congr hkind hleft hright slot.role)
  have hoccupant : isGovernedOccupant tables (slot.respell left) =
      isGovernedOccupant tables (slot.respell right) := by
    simp only [isGovernedOccupant, isGovernedRole, ReadinessSlotInput.respell, hkind]
    rfl
  simp only [readinessRow, ReadinessMatrixRow.decision, hstatus, hbase, hgoverned, hoccupant]

end SameKind

theorem ne_nil_of_canonicalRoleSlot (hstandard : Standard tables) {value canonical : JsString}
    (hslot : canonicalRoleSlot tables (.string value) = some canonical) : value ≠ [] := by
  rintro rfl
  have hfolded : foldRoleInput tables [] = [] := by
    have hnfkc : tables.toNFKC [] = [] := hstandard.nfkc_ascii [] (by simp)
    rw [foldRoleInput, foldBeforeCase, foldVisible, hnfkc]
    rfl
  simp [canonicalRoleSlot, parseRoleSlot, hfolded] at hslot

/-- Spelling a row's slot otherwise changes nothing that the gate decides: neither
the row's verdicts nor the activation of the team. -/
def Unmoved (host : HostRuntime) (tables : Tables) (spelling other : JsString) : Prop :=
  ∀ gate index slot, gate.slots[index]? = some slot → slot.roleSlot = spelling →
    ((evaluateReadinessGate host tables (gate.respell index other)).readinessMatrix[index]?).map
        ReadinessMatrixRow.decision =
      ((evaluateReadinessGate host tables gate).readinessMatrix[index]?).map
        ReadinessMatrixRow.decision ∧
    (evaluateReadinessGate host tables (gate.respell index other)).activationStatus =
      (evaluateReadinessGate host tables gate).activationStatus

/-- Changing an entry without changing its image leaves the images as they are. -/
theorem map_modify_of_eq {Entry Image : Type} {list : List Entry} {index : Nat}
    {change : Entry → Entry} {image : Entry → Image}
    (hsame : ∀ entry, list[index]? = some entry → image (change entry) = image entry) :
    (list.modify index change).map image = list.map image := by
  apply List.ext_getElem?
  intro position
  rw [List.getElem?_map, List.getElem?_modify, List.getElem?_map]
  by_cases hposition : index = position
  · subst hposition
    cases hentry : list[index]? with
    | none => rfl
    | some entry => simp [hsame entry hentry]
  · simp [hposition]

/-- Whether the team may activate is read off the decisions of the rows. -/
theorem activationStatus_eq (gate : ReadinessGateInput) :
    (evaluateReadinessGate host tables gate).activationStatus =
      if !gate.slots.isEmpty && (((evaluateReadinessGate host tables gate).readinessMatrix).map
          ReadinessMatrixRow.decision).all (fun decision => decision.2.2) &&
          gate.cmuxAvailable == some true && gate.execPmAuthorized == some true
      then js "TEAM_ACTIVATION_ALLOWED" else js "TEAM_ACTIVATION_BLOCKED" := by
  simp only [evaluateReadinessGate, List.all_map]
  rfl

theorem unmoved_of_sameKind {spelling other : JsString}
    (hkind : roleKindOf tables spelling = roleKindOf tables other)
    (hspelling : spelling ≠ []) (hother : other ≠ []) :
    Unmoved host tables spelling other := by
  intro gate index slot hslot hrole
  have hdecision : ∀ row, gate.slots[index]? = some row →
      (readinessRow host tables gate (row.respell other)).decision =
        (readinessRow host tables gate row).decision := by
    intro row hrow
    obtain rfl : slot = row := Option.some.inj (hslot.symm.trans hrow)
    rw [readinessRow_decision_congr hkind.symm hother hspelling gate slot, ← hrole]
    rfl
  have hdecisions : ((evaluateReadinessGate host tables
        (gate.respell index other)).readinessMatrix).map ReadinessMatrixRow.decision =
      ((evaluateReadinessGate host tables gate).readinessMatrix).map
        ReadinessMatrixRow.decision := by
    simp only [evaluateReadinessGate, List.map_map]
    exact map_modify_of_eq hdecision
  constructor
  · rw [← List.getElem?_map, hdecisions, List.getElem?_map]
  · rw [activationStatus_eq, activationStatus_eq, hdecisions]
    simp [ReadinessGateInput.respell]

/-- For two spellings of one slot: both have the slot's kind and the gate decides
alike on them, exactly when neither spells the slash of the slot with another
character. -/
theorem spelling_decides_alike (hstandard : Standard tables)
    {spelling other canonical : JsString}
    (hspelling : canonicalRoleSlot tables (.string spelling) = some canonical)
    (hother : canonicalRoleSlot tables (.string other) = some canonical) :
    (roleKindOf tables spelling = roleKindOf tables canonical ∧
      roleKindOf tables other = roleKindOf tables canonical ∧
      Unmoved host tables spelling other) ↔
    ((47 : UInt16) ∈ canonical → (47 : UInt16) ∈ spelling ∧ (47 : UInt16) ∈ other) := by
  have hleft := roleKindOf_eq_iff hstandard hspelling
  have hright := roleKindOf_eq_iff hstandard hother
  constructor
  · rintro ⟨hkind, hkind', -⟩ hslash
    exact ⟨hleft.mp hkind hslash, hright.mp hkind' hslash⟩
  · intro hslash
    have hkind := hleft.mpr fun hmem => (hslash hmem).1
    have hkind' := hright.mpr fun hmem => (hslash hmem).2
    exact ⟨hkind, hkind', unmoved_of_sameKind (hkind.trans hkind'.symm)
      (ne_nil_of_canonicalRoleSlot hstandard hspelling)
      (ne_nil_of_canonicalRoleSlot hstandard hother)⟩

/-- `a/exec pm`, an ordinary spelling. -/
def plainSpelling : JsString := js "a/exec pm"

/-- `A/EXEC-PM` with the full-width slash. -/
def fullwidthSpelling : JsString := js "A／EXEC-PM"

theorem spelling_decides_alike_plain :
    roleKindOf smallTables plainSpelling = roleKindOf smallTables (js "A/EXEC-PM") ∧
      roleKindOf smallTables (js "A/EXEC-PM") = roleKindOf smallTables (js "A/EXEC-PM") ∧
      Unmoved plainHost smallTables plainSpelling (js "A/EXEC-PM") :=
  (spelling_decides_alike smallTables_standard (by decide) (by decide)).mpr (by decide)

/-- A governed slot without any proof of uptake. -/
def unprovenGate (spelling : JsString) : ReadinessGateInput where
  execPmAuthorized := some true
  cmuxAvailable := some true
  slots := [{
    roleSlot := spelling
    authStatus := some .ready
    occupantState := some (js "BOOTSTRAPPED_IDLE") }]

theorem fullwidthSpelling_activates : ¬∀ host tables, Standard tables →
    ∀ spelling other canonical,
      canonicalRoleSlot tables (.string spelling) = some canonical →
      canonicalRoleSlot tables (.string other) = some canonical →
      roleKindOf tables spelling = roleKindOf tables canonical ∧
        roleKindOf tables other = roleKindOf tables canonical ∧
        Unmoved host tables spelling other := by
  intro halike
  have hunmoved := (halike plainHost smallTables smallTables_standard (js "A/EXEC-PM")
    fullwidthSpelling (js "A/EXEC-PM") (by decide) (by decide)).2.2
  have hstatus := (hunmoved (unprovenGate (js "A/EXEC-PM")) 0 _ rfl rfl).2
  exact absurd hstatus (by decide +kernel)

end OdinSentinel.Readiness
