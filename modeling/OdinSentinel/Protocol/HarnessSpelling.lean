import Mathlib.Data.List.Nodup
import OdinSentinel.Core.Fallible
import OdinSentinel.Protocol.HarnessProbe

/-!
# Spellings of a harness

A shipped harness has a machine id and a display name.  The probe looks at the entry's
display name, the readiness gate at the name its slot is given, and the category registry
knows the display names.
-/

namespace OdinSentinel.Readiness

open JsText Host Unicode RoleIdentity

variable {host : HostRuntime} {tables : Tables}

/-! ## A slot on a harness -/

def ReadinessSlotInput.onHarness (slot : ReadinessSlotInput) (harness : JsString) :
    ReadinessSlotInput := { slot with harness := some harness }

/-- The gate's input with one row's harness given. -/
def ReadinessGateInput.onHarness (gate : ReadinessGateInput) (index : Nat) (harness : JsString) :
    ReadinessGateInput :=
  { gate with slots := gate.slots.modify index (·.onHarness harness) }

/-- What the gate's classifier says of the slot of a row. -/
def governanceAt (host : HostRuntime) (tables : Tables) (gate : ReadinessGateInput) (index : Nat) :
    Option GovernedReadinessResult :=
  gate.slots[index]?.map fun slot =>
    classifyGovernedReadiness host tables (governedInput host tables gate slot)

/-- Two names of a harness give a row one readiness at one required assurance, both under
a category. -/
structure NamedAlike (host : HostRuntime) (tables : Tables) (gate : ReadinessGateInput)
    (index : Nat) (left right : JsString) (category : HarnessCategory) : Prop where
  readiness :
    ((evaluateReadinessGate host tables (gate.onHarness index left)).readinessMatrix[index]?.map
      ReadinessMatrixRow.governedReadiness) =
    ((evaluateReadinessGate host tables (gate.onHarness index right)).readinessMatrix[index]?.map
      ReadinessMatrixRow.governedReadiness)
  assurance :
    (governanceAt host tables (gate.onHarness index left) index).map
      GovernedReadinessResult.requiredAssurance =
    (governanceAt host tables (gate.onHarness index right) index).map
      GovernedReadinessResult.requiredAssurance
  leftCategory :
    (governanceAt host tables (gate.onHarness index left) index).map
      GovernedReadinessResult.category = some category
  rightCategory :
    (governanceAt host tables (gate.onHarness index right) index).map
      GovernedReadinessResult.category = some category

/-- The readiness of a row of the gate is what the classifier says of its slot. -/
theorem readinessMatrix_governance (gate : ReadinessGateInput) (index : Nat) :
    (evaluateReadinessGate host tables gate).readinessMatrix[index]?.map
        ReadinessMatrixRow.governedReadiness =
      (governanceAt host tables gate index).map GovernedReadinessResult.state := by
  rw [governanceAt, Option.map_map]
  simp only [evaluateReadinessGate, List.getElem?_map, Option.map_map]
  rfl

theorem governanceAt_onHarness {gate : ReadinessGateInput} {index : Nat}
    {slot : ReadinessSlotInput} (hslot : gate.slots[index]? = some slot) (harness : JsString) :
    governanceAt host tables (gate.onHarness index harness) index =
      some (classifyGovernedReadiness host tables
        { governedInput host tables gate slot with harness := harness }) := by
  rw [governanceAt, ReadinessGateInput.onHarness, List.getElem?_modify_eq, hslot]
  rfl

/-! ## The classifier and the harness -/

theorem classifyGovernedReadiness_category (input : GovernedReadinessInput) :
    (classifyGovernedReadiness host tables input).category =
      harnessCategory tables input.harness := by
  rw [classifyGovernedReadiness]
  dsimp only
  split_ifs <;> rfl

/-- The harness counts only for its category. -/
theorem classifyGovernedReadiness_harness (input : GovernedReadinessInput)
    {left right : JsString}
    (hcategory : harnessCategory tables left = harnessCategory tables right) :
    classifyGovernedReadiness host tables { input with harness := left } =
      classifyGovernedReadiness host tables { input with harness := right } := by
  simp only [classifyGovernedReadiness, hcategory]
  rfl

/-- Two names are alike exactly when both have the category and need one assurance. -/
theorem namedAlike_iff {gate : ReadinessGateInput} {index : Nat} {slot : ReadinessSlotInput}
    (hslot : gate.slots[index]? = some slot) {left right : JsString}
    {category : HarnessCategory} :
    NamedAlike host tables gate index left right category ↔
      harnessCategory tables left = category ∧ harnessCategory tables right = category := by
  have hcategory : ∀ harness, (governanceAt host tables (gate.onHarness index harness) index).map
      GovernedReadinessResult.category = some (harnessCategory tables harness) := by
    intro harness
    rw [governanceAt_onHarness hslot, Option.map_some, classifyGovernedReadiness_category]
  constructor
  · intro halike
    exact ⟨Option.some.inj ((hcategory left).symm.trans halike.leftCategory),
      Option.some.inj ((hcategory right).symm.trans halike.rightCategory)⟩
  · rintro ⟨hleft, hright⟩
    have hsame : governanceAt host tables (gate.onHarness index left) index =
        governanceAt host tables (gate.onHarness index right) index := by
      rw [governanceAt_onHarness hslot, governanceAt_onHarness hslot,
        classifyGovernedReadiness_harness _ (hleft.trans hright.symm)]
    exact {
      readiness := by rw [readinessMatrix_governance, readinessMatrix_governance, hsame]
      assurance := by rw [hsame]
      leftCategory := by rw [hcategory, hleft]
      rightCategory := by rw [hcategory, hright] }

/-! ## Shipped harnesses -/

theorem harnessCategory_ascii (hlower : LowersAscii tables) {harness : JsString}
    (hascii : ∀ unit ∈ harness, unit.toNat < 128) :
    harnessCategory tables harness = harnessCategory smallTables harness := by
  have htrim : ∀ unit ∈ trim harness, unit.toNat < 128 := fun unit hunit =>
    hascii unit ((Text.trimBy_infix_self isSpace harness).subset hunit)
  rw [harnessCategory, harnessCategory, toLowerCase_ascii hlower smallTables_lowersAscii htrim]

theorem shippedEntries_ascii : ∀ entry ∈ shippedEntries,
    (∀ unit ∈ entry.harnessId, unit.toNat < 128) ∧
      ∀ unit ∈ entry.displayName, unit.toNat < 128 := by
  have hentries : shippedEntries.all (fun entry =>
      entry.harnessId.all (·.toNat < 128) && entry.displayName.all (·.toNat < 128)) = true := by
    decide
  simpa only [List.all_eq_true, Bool.and_eq_true, decide_eq_true_eq] using hentries

/-- The registry has the category of every shipped display name under its id as well,
except for `claude_code`. -/
theorem shippedEntries_category : ∀ entry ∈ shippedEntries,
    harnessCategory smallTables entry.harnessId =
        harnessCategory smallTables entry.displayName ↔
      entry.harnessId ≠ js "claude_code" := by
  decide

theorem shippedEntries_nodup : (shippedEntries.map HarnessControlEntry.harnessId).Nodup := by
  decide

theorem lastWith_some {key : HarnessControlEntry → JsString} {entries : List HarnessControlEntry}
    {name : JsString} {entry : HarnessControlEntry} (hentry : lastWith key entries name = some entry) :
    entry ∈ entries ∧ key entry = name := by
  rw [lastWith] at hentry
  have hkey := List.find?_some hentry
  exact ⟨List.mem_reverse.mp (List.mem_of_find?_eq_some hentry), beq_iff_eq.mp hkey⟩

theorem resolveHarnessEntry_mem {entries : List HarnessControlEntry} {name : JsString}
    {entry : HarnessControlEntry} (hentry : resolveHarnessEntry entries name = some entry) :
    entry ∈ entries := by
  rw [resolveHarnessEntry] at hentry
  cases hid : lastWith HarnessControlEntry.harnessId entries name with
  | some owner =>
      rw [hid] at hentry
      obtain rfl := Option.some.inj hentry
      exact (lastWith_some hid).1
  | none =>
      rw [hid] at hentry
      exact (lastWith_some hentry).1

/-- A row with a recipe is that of an entry, under its id. -/
theorem harnessProbeRow_control {entries : List HarnessControlEntry} {input : HarnessProbeInput}
    {tolerate : Bool} {name : JsString} {row : ProbeRow} {control : ProbeControl}
    (hrow : harnessProbeRow host tables entries input tolerate name = .ok row)
    (hcontrol : row.control = some control) :
    ∃ entry ∈ entries, resolveHarnessEntry entries name = some entry ∧
      control.harnessId = entry.harnessId ∧
      row = resolvedRow host tables input entry name entry.harnessId := by
  rw [harnessProbeRow] at hrow
  cases hentry : resolveHarnessEntry entries name with
  | some entry =>
      rw [hentry] at hrow
      obtain ⟨harnessId, hid, hrow⟩ := Fallible.do_eq_ok.mp hrow
      rw [canonicalHarnessId] at hid
      split_ifs at hid
      cases hid
      cases hrow
      cases hcontrol
      exact ⟨entry, resolveHarnessEntry_mem hentry, rfl, rfl, rfl⟩
  | none =>
      rw [hentry] at hrow
      dsimp only at hrow
      split_ifs at hrow
      cases hrow
      cases hcontrol

theorem resolvedRow_category (input : HarnessProbeInput) (entry : HarnessControlEntry)
    (name harnessId : JsString) :
    (resolvedRow host tables input entry name harnessId).governedContext.category =
      harnessCategory tables entry.displayName :=
  classifyGovernedReadiness_category _

/-- The probe's row for a shipped harness has the category of its display name. -/
theorem probeRow_category {entry : HarnessControlEntry} (hentry : entry ∈ shippedEntries)
    {input : HarnessProbeInput} {matrix : HarnessProbeMatrix}
    (hmatrix : getHarnessProbeMatrix host tables shippedEntries input = .ok matrix)
    {row : ProbeRow} (hrow : row ∈ matrix.rows) {control : ProbeControl}
    (hcontrol : row.control = some control) (hid : control.harnessId = entry.harnessId) :
    row.governedContext.category = harnessCategory tables entry.displayName := by
  obtain ⟨rows, hrows, hsame⟩ := Fallible.do_eq_ok.mp hmatrix
  cases hsame
  obtain ⟨name, -, hname⟩ := Fallible.mem_of_mapM hrows hrow
  obtain ⟨other, hother, -, hotherId, rfl⟩ := harnessProbeRow_control hname hcontrol
  have hsame : other = entry :=
    List.inj_on_of_nodup_map shippedEntries_nodup hother hentry (hotherId.symm.trans hid)
  rw [resolvedRow_category, hsame]

/-- A shipped harness is governed alike under its id and its display name, in the category
of its probe row, unless it is `claude_code`. -/
theorem namedAlike_shipped_iff (hlower : LowersAscii tables) {entry : HarnessControlEntry}
    (hentry : entry ∈ shippedEntries) {gate : ReadinessGateInput} {index : Nat}
    {slot : ReadinessSlotInput} (hslot : gate.slots[index]? = some slot)
    {input : HarnessProbeInput} {matrix : HarnessProbeMatrix}
    (hmatrix : getHarnessProbeMatrix host tables shippedEntries input = .ok matrix)
    {row : ProbeRow} (hrow : row ∈ matrix.rows) {control : ProbeControl}
    (hcontrol : row.control = some control) (hid : control.harnessId = entry.harnessId) :
    NamedAlike host tables gate index entry.harnessId entry.displayName
        row.governedContext.category ↔
      entry.harnessId ≠ js "claude_code" := by
  obtain ⟨hidAscii, hnameAscii⟩ := shippedEntries_ascii entry hentry
  rw [namedAlike_iff hslot, probeRow_category hentry hmatrix hrow hcontrol hid,
    ← shippedEntries_category entry hentry, harnessCategory_ascii hlower hidAscii,
    harnessCategory_ascii hlower hnameAscii, eq_self_iff_true, and_true]

/-! ### The spelling that differs -/

/-- The first entry of the matrix, `claude_code`. -/
def claudeCode : HarnessControlEntry := shippedEntries.head (by decide)

def claudeProbe : HarnessProbeInput where
  intendedHarnesses := some [claudeCode.harnessId]

def claudeRow : ProbeRow :=
  resolvedRow plainHost smallTables claudeProbe claudeCode claudeCode.harnessId claudeCode.harnessId

def managerGate : ReadinessGateInput where
  slots := [{ roleSlot := js "A/TEAM-PM" }]

theorem claudeProbe_matrix :
    getHarnessProbeMatrix plainHost smallTables shippedEntries claudeProbe =
      .ok { secretProviderStatuses := [], rows := [claudeRow] } := by
  have hresolve : resolveHarnessEntry shippedEntries claudeCode.harnessId = some claudeCode := rfl
  have hrow : harnessProbeRow plainHost smallTables shippedEntries claudeProbe false
      claudeCode.harnessId = .ok claudeRow := by
    rw [harnessProbeRow, hresolve]
    rfl
  apply Fallible.do_eq_ok.mpr
  exact ⟨[claudeRow], Fallible.mapM_eq_ok_iff.mpr (.cons hrow .nil), rfl⟩

theorem namedAlike_shipped_iff_claudeCode : ∃ control, claudeRow.control = some control ∧
    (NamedAlike plainHost smallTables managerGate 0 claudeCode.harnessId claudeCode.displayName
        claudeRow.governedContext.category ↔
      claudeCode.harnessId ≠ js "claude_code") :=
  ⟨_, rfl, namedAlike_shipped_iff smallTables_lowersAscii (List.head_mem _) rfl claudeProbe_matrix
    List.mem_cons_self rfl rfl⟩

/-- Under its id `claude_code` has nothing but the MCP server. -/
theorem claudeCode_spelling : ¬∀ (host : HostRuntime) (tables : Tables), LowersAscii tables →
    ∀ entry ∈ shippedEntries, ∀ (gate : ReadinessGateInput) (index : Nat)
      (slot : ReadinessSlotInput), gate.slots[index]? = some slot →
    ∀ (input : HarnessProbeInput) (matrix : HarnessProbeMatrix),
      getHarnessProbeMatrix host tables shippedEntries input = .ok matrix →
    ∀ row ∈ matrix.rows, ∀ control, row.control = some control →
      control.harnessId = entry.harnessId →
      NamedAlike host tables gate index entry.harnessId entry.displayName
        row.governedContext.category := by
  intro hall
  have halike := hall plainHost smallTables smallTables_lowersAscii claudeCode (List.head_mem _)
    managerGate 0 _ rfl claudeProbe _ claudeProbe_matrix claudeRow List.mem_cons_self _ rfl rfl
  obtain ⟨hid, hdisplay⟩ := (namedAlike_iff rfl).mp halike
  have hdiffer : harnessCategory smallTables claudeCode.harnessId ≠
      harnessCategory smallTables claudeCode.displayName := by decide
  exact hdiffer (hid.trans hdisplay.symm)

end OdinSentinel.Readiness
