import OdinSentinel.Protocol.ClosureIndependence

/-!
# Closure decisions

When a closure claim is valid.  The pass over the verdicts is told by what it refuses and by
the emitters it keeps of either lane; both are read off one verdict at a time.
-/

namespace OdinSentinel.Closure

open JsText Unicode RoleIdentity Validators Authority
open DeliveryProof (pushNew)

variable (tables : Tables)

/-- A verdict of a recognised kind that neither party of the claim has emitted. -/
structure IndependentVerdict (claim verdict : JsValue) : Prop where
  classified : (validateEvidenceClassification tables verdict).valid = true
  kind : ∃ kind ∈ closureKinds, verdict.field (js "verdict_kind") = .string kind
  emitter : ∃ emitter, canonicalRoleSlot tables (verdict.field (js "emitted_by")) = some emitter ∧
    canonicalRoleSlot tables (claim.field (js "implementer_lane")) ≠ some emitter ∧
    canonicalRoleSlot tables (claim.field (js "closing_authority")) ≠ some emitter

/-- A verdict that passes in a lane, and the seat that signs it. -/
structure PassesIn (lane emitter : JsString) (verdict : JsValue) : Prop where
  kind : verdict.field (js "verdict_kind") = .string lane
  result : verdict.field (js "result") = .string (js "PASS")
  emitter : canonicalRoleSlot tables (verdict.field (js "emitted_by")) = some emitter

/-- A seat that one of the verdicts passes under, in a lane. -/
def Signs (verdicts : List JsValue) (lane emitter : JsString) : Prop :=
  ∃ verdict ∈ verdicts, PassesIn tables lane emitter verdict

/-- A closure that two independent seats have signed, one in each lane. -/
structure DecidesClosure (claim : JsValue) (verdicts : List JsValue) : Prop where
  task : IsGiven claim (js "task_ref")
  implementer : IsGiven claim (js "implementer_lane") ∧
    (canonicalRoleSlot tables (claim.field (js "implementer_lane"))).isSome
  closer : IsGiven claim (js "closing_authority") ∧
    (canonicalRoleSlot tables (claim.field (js "closing_authority"))).isSome
  spoken : verdicts ≠ []
  independent : ∀ verdict ∈ verdicts, IndependentVerdict tables claim verdict
  sliceQa : ∃ emitter, Signs tables verdicts (js "SLICE_QA_PASS") emitter
  holdout : ∃ emitter, Signs tables verdicts (js "HOLDOUT_ACCEPTED") emitter
  distinct : ∀ emitter, ¬ (Signs tables verdicts (js "SLICE_QA_PASS") emitter ∧
    Signs tables verdicts (js "HOLDOUT_ACCEPTED") emitter)

/-! ## One verdict -/

theorem textOf_eq_iff {value : JsValue} {text : JsString} (hspoken : text ≠ []) :
    textOf value = text ↔ value = .string text := by
  cases value with
  | string found => simp [textOf, JsValue.asString]
  | _ => simp [textOf, JsValue.asString, hspoken.symm]

theorem roleSlotsEqual_eq_false_iff {left right : JsValue} {slot : JsString}
    (hleft : canonicalRoleSlot tables left = some slot) :
    roleSlotsEqual tables left right = false ↔ canonicalRoleSlot tables right ≠ some slot := by
  rw [roleSlotsEqual]
  rw [hleft]
  cases hright : canonicalRoleSlot tables right with
  | none => simp
  | some other => simp [eq_comm]

variable {tables} {claim verdict : JsValue} {tally : Tally} {index : Nat}

theorem emitterRefusal_eq_none_iff :
    emitterRefusal tables claim (verdict.field (js "emitted_by")) = none ↔
      ∃ emitter, canonicalRoleSlot tables (verdict.field (js "emitted_by")) = some emitter ∧
        canonicalRoleSlot tables (claim.field (js "implementer_lane")) ≠ some emitter ∧
        canonicalRoleSlot tables (claim.field (js "closing_authority")) ≠ some emitter := by
  rw [emitterRefusal]
  cases hemitter : canonicalRoleSlot tables (verdict.field (js "emitted_by")) with
  | none => simp
  | some emitter =>
      simp only [Option.some.injEq, exists_eq_left']
      rw [← roleSlotsEqual_eq_false_iff tables hemitter, ← roleSlotsEqual_eq_false_iff tables hemitter]
      cases roleSlotsEqual tables (verdict.field (js "emitted_by"))
          (claim.field (js "implementer_lane")) <;>
        cases roleSlotsEqual tables (verdict.field (js "emitted_by"))
          (claim.field (js "closing_authority")) <;> simp

theorem closureKinds_contains_iff :
    closureKinds.contains (textOf (verdict.field (js "verdict_kind"))) = true ↔
      ∃ kind ∈ closureKinds, verdict.field (js "verdict_kind") = .string kind := by
  rw [List.contains_iff_mem]
  constructor
  · intro hmem
    have hspoken : textOf (verdict.field (js "verdict_kind")) ≠ [] := by
      intro hempty
      rw [hempty] at hmem
      exact absurd hmem (by decide)
    exact ⟨_, hmem, (textOf_eq_iff hspoken).mp rfl⟩
  · rintro ⟨kind, hmem, hkind⟩
    rw [hkind]
    exact hmem

theorem classificationFindings_eq_nil_iff :
    (classificationFindings tables index verdict).invalid = [] ↔
      (validateEvidenceClassification tables verdict).valid = true := by
  unfold classificationFindings
  cases hvalid : (validateEvidenceClassification tables verdict).valid with
  | true =>
      dsimp only
      rw [hvalid, if_neg (by decide), Findings.invalid_adviseIf]
      simp
  | false =>
      dsimp only
      rw [hvalid, if_pos (by decide)]
      simp

/-! ## The pass -/

theorem Tally.note_invalid (findings : Findings) :
    (tally.note findings).findings.invalid = tally.findings.invalid ++ findings.invalid := rfl

theorem Tally.pass_findings (kind emitter : JsString) :
    (tally.pass kind emitter).findings = tally.findings := by
  rw [Tally.pass]
  split_ifs <;> rfl

/-- The emitters that passed in a lane. -/
def Tally.emitters (tally : Tally) (lane : JsString) : List JsString :=
  if lane = js "SLICE_QA_PASS" then tally.sliceQaEmitters
  else if lane = js "HOLDOUT_ACCEPTED" then tally.holdoutEmitters
  else []

/-- The flag of a lane says that a seat has passed in it. -/
structure Tally.Flags (tally : Tally) : Prop where
  sliceQa : tally.hasIndependentSliceQaPass = true ↔ tally.sliceQaEmitters ≠ []
  holdout : tally.hasIndependentHoldoutAccepted = true ↔ tally.holdoutEmitters ≠ []

theorem Tally.note_emitters (findings : Findings) (lane : JsString) :
    (tally.note findings).emitters lane = tally.emitters lane := rfl

theorem mem_pushNew_iff {names : List JsString} {name other : JsString} :
    other ∈ pushNew names name ↔ other ∈ names ∨ other = name := by
  rw [pushNew]
  split_ifs with hmem
  · constructor
    · exact .inl
    · rintro (hother | rfl)
      · exact hother
      · simpa using hmem
  · simp

theorem Tally.mem_pass_emitters {lane kind emitter slot : JsString}
    (hlane : lane = js "SLICE_QA_PASS" ∨ lane = js "HOLDOUT_ACCEPTED") :
    slot ∈ (tally.pass kind emitter).emitters lane ↔
      slot ∈ tally.emitters lane ∨ kind = lane ∧ slot = emitter := by
  have hdistinct : js "HOLDOUT_ACCEPTED" ≠ js "SLICE_QA_PASS" := by decide
  unfold Tally.pass Tally.emitters
  rcases hlane with rfl | rfl
  · by_cases hslice : kind = js "SLICE_QA_PASS"
    · simp only [hslice, ↓reduceIte, true_and, mem_pushNew_iff]
    · by_cases hholdout : kind = js "HOLDOUT_ACCEPTED" <;> simp [hslice, hholdout, hdistinct]
  · by_cases hslice : kind = js "SLICE_QA_PASS"
    · simp [hslice, hdistinct, hdistinct.symm]
    · by_cases hholdout : kind = js "HOLDOUT_ACCEPTED"
      · simp only [hholdout, hdistinct, ↓reduceIte, true_and, mem_pushNew_iff]
      · simp [hslice, hholdout]

theorem Tally.Flags.note (hflags : tally.Flags) (findings : Findings) :
    (tally.note findings).Flags where
  sliceQa := hflags.sliceQa
  holdout := hflags.holdout

theorem Tally.Flags.pass {kind emitter : JsString} (hflags : tally.Flags) :
    (tally.pass kind emitter).Flags := by
  rw [Tally.pass]
  split_ifs
  · exact ⟨iff_of_true rfl (DeliveryProof.pushNew_ne_nil _ _), hflags.holdout⟩
  · exact ⟨hflags.sliceQa, iff_of_true rfl (DeliveryProof.pushNew_ne_nil _ _)⟩
  · exact hflags

theorem readVerdict_invalid_eq_nil_iff :
    (readVerdict tables claim tally (verdict, index)).findings.invalid = [] ↔
      tally.findings.invalid = [] ∧ IndependentVerdict tables claim verdict := by
  have hindependent : IndependentVerdict tables claim verdict ↔
      (classificationFindings tables index verdict).invalid = [] ∧
        closureKinds.contains (textOf (verdict.field (js "verdict_kind"))) = true ∧
        emitterRefusal tables claim (verdict.field (js "emitted_by")) = none := by
    rw [classificationFindings_eq_nil_iff, closureKinds_contains_iff, emitterRefusal_eq_none_iff]
    exact ⟨fun h => ⟨h.classified, h.kind, h.emitter⟩, fun h => ⟨h.1, h.2.1, h.2.2⟩⟩
  rw [hindependent]
  rw [readVerdict]
  dsimp only
  cases hkind : closureKinds.contains (textOf (verdict.field (js "verdict_kind"))) with
  | false =>
      rw [if_pos (by rfl), Tally.note_invalid, Findings.invalid_refuseIf, if_pos rfl]
      simp
  | true =>
      rw [if_neg (by decide)]
      cases hrefusal : emitterRefusal tables claim (verdict.field (js "emitted_by")) with
      | some text =>
          dsimp only
          rw [Tally.note_invalid, Findings.invalid_refuseIf, if_pos rfl]
          simp
      | none =>
          dsimp only
          rw [Tally.note_invalid, Findings.invalid_adviseIf, List.append_nil,
            apply_ite Tally.findings, Tally.pass_findings, ite_self, Tally.note_invalid,
            List.append_eq_nil_iff]
          simp

theorem readVerdict_flags (entry : JsValue × Nat) (hflags : tally.Flags) :
    (readVerdict tables claim tally entry).Flags := by
  have hnoted := hflags.note (classificationFindings tables entry.2 entry.1)
  rw [readVerdict]
  dsimp only
  by_cases hkind : (!closureKinds.contains (textOf (entry.1.field (js "verdict_kind")))) = true
  · rw [if_pos hkind]
    exact hnoted.note _
  · rw [if_neg hkind]
    cases emitterRefusal tables claim (entry.1.field (js "emitted_by")) with
    | some text => exact hnoted.note _
    | none =>
        apply Tally.Flags.note
        split_ifs
        · exact hnoted.pass
        · exact hnoted

theorem readVerdict_emitters {lane slot : JsString}
    (hlane : lane = js "SLICE_QA_PASS" ∨ lane = js "HOLDOUT_ACCEPTED")
    (hindependent : IndependentVerdict tables claim verdict) :
    slot ∈ (readVerdict tables claim tally (verdict, index)).emitters lane ↔
      slot ∈ tally.emitters lane ∨ PassesIn tables lane slot verdict := by
  have hspoken : lane ≠ [] := by
    rcases hlane with rfl | rfl <;> decide
  obtain ⟨emitter, hemitter, hparties⟩ := hindependent.emitter
  have hpasses : PassesIn tables lane slot verdict ↔
      textOf (verdict.field (js "result")) = js "PASS" ∧
        textOf (verdict.field (js "verdict_kind")) = lane ∧ slot = emitter := by
    rw [textOf_eq_iff hspoken, textOf_eq_iff (by decide)]
    constructor
    · intro h
      exact ⟨h.result, h.kind, by simpa [hemitter] using h.emitter.symm⟩
    · rintro ⟨hresult, hkind, rfl⟩
      exact ⟨hkind, hresult, hemitter⟩
  rw [readVerdict]
  dsimp only
  rw [if_neg (by rw [closureKinds_contains_iff.mpr hindependent.kind]; decide),
    emitterRefusal_eq_none_iff.mpr hindependent.emitter]
  dsimp only
  rw [hpasses, hemitter, Option.getD_some, Tally.note_emitters]
  split_ifs with hresult
  · rw [Tally.mem_pass_emitters hlane, Tally.note_emitters]
    simp [hresult]
  · rw [Tally.note_emitters]
    simp [hresult]

/-- The pass refuses nothing exactly where nothing was refused and every verdict is an
independent emission. -/
theorem foldl_readVerdict_invalid_eq_nil_iff (entries : List (JsValue × Nat)) (tally : Tally) :
    (entries.foldl (readVerdict tables claim) tally).findings.invalid = [] ↔
      tally.findings.invalid = [] ∧
        ∀ entry ∈ entries, IndependentVerdict tables claim entry.1 := by
  induction entries generalizing tally with
  | nil => simp
  | cons entry entries ih =>
      rw [List.foldl_cons, ih, readVerdict_invalid_eq_nil_iff, and_assoc, List.forall_mem_cons]

theorem foldl_readVerdict_flags (entries : List (JsValue × Nat)) (hflags : tally.Flags) :
    (entries.foldl (readVerdict tables claim) tally).Flags := by
  induction entries generalizing tally with
  | nil => exact hflags
  | cons entry entries ih => exact ih (readVerdict_flags entry hflags)

theorem foldl_readVerdict_emitters {lane slot : JsString}
    (hlane : lane = js "SLICE_QA_PASS" ∨ lane = js "HOLDOUT_ACCEPTED")
    (entries : List (JsValue × Nat))
    (hindependent : ∀ entry ∈ entries, IndependentVerdict tables claim entry.1) :
    slot ∈ (entries.foldl (readVerdict tables claim) tally).emitters lane ↔
      slot ∈ tally.emitters lane ∨ ∃ entry ∈ entries, PassesIn tables lane slot entry.1 := by
  induction entries generalizing tally with
  | nil => simp
  | cons entry entries ih =>
      obtain ⟨hentry, hentries⟩ := List.forall_mem_cons.mp hindependent
      rw [List.foldl_cons, ih hentries, readVerdict_emitters hlane hentry, or_assoc]
      simp

/-! ## Claims -/

theorem Tally.emitters_sliceQa (tally : Tally) :
    tally.emitters (js "SLICE_QA_PASS") = tally.sliceQaEmitters := rfl

theorem Tally.emitters_holdout (tally : Tally) :
    tally.emitters (js "HOLDOUT_ACCEPTED") = tally.holdoutEmitters := rfl

theorem laneFindings_eq_nil_iff :
    (laneFindings tally).invalid = [] ↔ ∀ slot, ¬ (slot ∈ tally.emitters (js "SLICE_QA_PASS") ∧
      slot ∈ tally.emitters (js "HOLDOUT_ACCEPTED")) := by
  rw [laneFindings, Findings.refuseIf_eq_nil_iff, Bool.not_eq_false', List.isEmpty_iff,
    Tally.emitters_sliceQa, Tally.emitters_holdout]
  simp only [collapsedEmitters, List.filter_eq_nil_iff, List.contains_iff_mem, not_and]

/-- Both lanes have a passing seat exactly where both flags are set. -/
theorem closureEligible_iff (hflags : tally.Flags) :
    (tally.hasIndependentSliceQaPass && tally.hasIndependentHoldoutAccepted) = true ↔
      (∃ slot, slot ∈ tally.emitters (js "SLICE_QA_PASS")) ∧
        ∃ slot, slot ∈ tally.emitters (js "HOLDOUT_ACCEPTED") := by
  rw [Bool.and_eq_true, hflags.sliceQa, hflags.holdout, Tally.emitters_sliceQa,
    Tally.emitters_holdout, ← List.isEmpty_eq_false_iff, ← List.isEmpty_eq_false_iff,
    List.isEmpty_eq_false_iff_exists_mem, List.isEmpty_eq_false_iff_exists_mem]

theorem exists_mem_zipIdx_iff {verdicts : List JsValue} {holds : JsValue → Prop} :
    (∃ entry ∈ verdicts.zipIdx, holds entry.1) ↔ ∃ verdict ∈ verdicts, holds verdict := by
  conv_rhs => rw [← List.zipIdx_map_fst 0 verdicts]
  simp only [List.mem_map, exists_exists_and_eq_and]

theorem forall_mem_zipIdx_iff {verdicts : List JsValue} {holds : JsValue → Prop} :
    (∀ entry ∈ verdicts.zipIdx, holds entry.1) ↔ ∀ verdict ∈ verdicts, holds verdict := by
  conv_rhs => rw [← List.zipIdx_map_fst 0 verdicts]
  rw [List.forall_mem_map]

/-- The pass over the verdicts of a claim. -/
def tallyOf (tables : Tables) (claim : JsValue) (start : Findings) (verdicts : List JsValue) :
    Tally :=
  (verdicts.zipIdx).foldl (readVerdict tables claim) { Tally.initial with findings := start }

variable {start sofar : Findings} {verdicts : List JsValue}

theorem tallyOf_flags : (tallyOf tables claim start verdicts).Flags := by
  apply foldl_readVerdict_flags
  exact ⟨iff_of_false Bool.false_ne_true (· rfl), iff_of_false Bool.false_ne_true (· rfl)⟩

theorem tallyOf_invalid_eq_nil_iff :
    (tallyOf tables claim start verdicts).findings.invalid = [] ↔
      start.invalid = [] ∧ ∀ verdict ∈ verdicts, IndependentVerdict tables claim verdict := by
  rw [tallyOf, foldl_readVerdict_invalid_eq_nil_iff, forall_mem_zipIdx_iff]

theorem tallyOf_emitters {lane slot : JsString}
    (hlane : lane = js "SLICE_QA_PASS" ∨ lane = js "HOLDOUT_ACCEPTED")
    (hindependent : ∀ verdict ∈ verdicts, IndependentVerdict tables claim verdict) :
    slot ∈ (tallyOf tables claim start verdicts).emitters lane ↔
      Signs tables verdicts lane slot := by
  have hnone : slot ∉ ({ Tally.initial with findings := start } : Tally).emitters lane := by
    rcases hlane with rfl | rfl <;> exact List.not_mem_nil
  rw [tallyOf, foldl_readVerdict_emitters hlane _ (forall_mem_zipIdx_iff.mpr hindependent),
    exists_mem_zipIdx_iff, or_iff_right hnone, Signs]

/-- The rules over the verdicts refuse nothing exactly where the claim's parties were not
refused and two independent seats have signed, one in each lane. -/
theorem verdictsFindings_eq_nil_iff :
    (verdictsFindings tables claim sofar verdicts).invalid = [] ↔
      sofar.invalid = [] ∧ verdicts ≠ [] ∧
        (∀ verdict ∈ verdicts, IndependentVerdict tables claim verdict) ∧
        (∃ emitter, Signs tables verdicts (js "SLICE_QA_PASS") emitter) ∧
        (∃ emitter, Signs tables verdicts (js "HOLDOUT_ACCEPTED") emitter) ∧
        ∀ emitter, ¬ (Signs tables verdicts (js "SLICE_QA_PASS") emitter ∧
          Signs tables verdicts (js "HOLDOUT_ACCEPTED") emitter) := by
  rw [verdictsFindings]
  dsimp only
  generalize hstart : sofar ++ Findings.refuseIf verdicts.isEmpty (js "verdicts") _ = start
  have hstarted : start.invalid = [] ↔ sofar.invalid = [] ∧ verdicts ≠ [] := by
    rw [← hstart, Findings.invalid_append, List.append_eq_nil_iff, Findings.refuseIf_eq_nil_iff,
      List.isEmpty_eq_false_iff]
  generalize htally : (verdicts.zipIdx).foldl (readVerdict tables claim)
    { Tally.initial with findings := start } = tally
  change tallyOf tables claim start verdicts = tally at htally
  subst htally
  rw [Findings.invalid_append, List.append_eq_nil_iff, Findings.invalid_append,
    List.append_eq_nil_iff, tallyOf_invalid_eq_nil_iff, hstarted, Findings.refuseIf_eq_nil_iff,
    laneFindings_eq_nil_iff, and_assoc, and_assoc, and_assoc]
  apply and_congr_right
  intro hsofar
  apply and_congr_right
  intro hspoken
  apply and_congr_right
  intro hindependent
  have heligible := closureEligible_iff (@tallyOf_flags tables claim start verdicts)
  simp only [tallyOf_emitters (.inl rfl) hindependent, tallyOf_emitters (.inr rfl) hindependent]
    at heligible ⊢
  rw [and_comm, ← and_assoc]
  apply and_congr_left
  intro hdistinct
  -- Nothing has been refused so far, so that the last rule speaks.
  have hclean := tallyOf_invalid_eq_nil_iff.mpr ⟨hstarted.mpr ⟨hsofar, hspoken⟩, hindependent⟩
  have hlanes : (laneFindings (tallyOf tables claim start verdicts)).invalid = [] := by
    rw [laneFindings_eq_nil_iff]
    simpa only [tallyOf_emitters (.inl rfl) hindependent,
      tallyOf_emitters (.inr rfl) hindependent] using hdistinct
  rw [← heligible, hclean, hlanes, List.isEmpty_eq_false_iff.mpr hspoken]
  simp

theorem partyIsUnreadable_eq_false_iff {party : JsValue} (hgiven : isNullish party = false)
    (hspoken : isBlankText party = false) :
    partyIsUnreadable tables party = false ↔ (canonicalRoleSlot tables party).isSome := by
  rw [partyIsUnreadable, hgiven, hspoken, Bool.not_false, Bool.true_and, Bool.true_and,
    ← Bool.not_eq_true, Option.isNone_iff_eq_none, ← ne_eq, Option.ne_none_iff_isSome]

theorem partyFindings_eq_nil_iff (himplementer : IsGiven claim (js "implementer_lane"))
    (hcloser : IsGiven claim (js "closing_authority")) :
    (partyFindings tables claim).invalid = [] ↔
      (canonicalRoleSlot tables (claim.field (js "implementer_lane"))).isSome ∧
        (canonicalRoleSlot tables (claim.field (js "closing_authority"))).isSome := by
  rw [partyFindings, Findings.invalid_append, List.append_eq_nil_iff,
    Findings.refuseIf_eq_nil_iff, Findings.refuseIf_eq_nil_iff,
    partyIsUnreadable_eq_false_iff himplementer.1 himplementer.2,
    partyIsUnreadable_eq_false_iff hcloser.1 hcloser.2]

/-- A closure claim is valid exactly where it carries a list of verdicts and these decide the
closure. -/
theorem validateClosureIndependence_valid_iff (tables : Tables) (claim : JsValue) :
    (validateClosureIndependence tables claim).valid = true ↔
      ∃ items, claim.field (js "verdicts") = .array items ∧
        DecidesClosure tables claim (items.map asRecord) := by
  unfold validateClosureIndependence
  dsimp only
  rw [Findings.result_valid_iff, validateRequiredFields_eq_nil_iff]
  constructor
  · rintro ⟨hgiven, hclean⟩
    have htask := hgiven (js "task_ref") (by decide)
    have himplementer := hgiven (js "implementer_lane") (by decide)
    have hcloser := hgiven (js "closing_authority") (by decide)
    have hverdicts := hgiven (js "verdicts") (by decide)
    cases hitems : claim.field (js "verdicts") with
    | array items =>
        rw [hitems] at hclean
        obtain ⟨hparties, hspoken, hindependent, hslice, hholdout, hdistinct⟩ :=
          verdictsFindings_eq_nil_iff.mp hclean
        rw [partyFindings_eq_nil_iff himplementer hcloser] at hparties
        exact ⟨items, rfl, htask, ⟨himplementer, hparties.1⟩, ⟨hcloser, hparties.2⟩, hspoken,
          hindependent, hslice, hholdout, hdistinct⟩
    | undefined =>
        rw [IsGiven, hitems] at hverdicts
        exact absurd hverdicts.1 (by decide)
    | _ =>
        rw [hitems] at hclean
        exact absurd hclean (List.cons_ne_nil _ _)
  · rintro ⟨items, hitems, hdecides⟩
    constructor
    · intro name hname
      simp only [closureFields, List.mem_cons, List.not_mem_nil, or_false] at hname
      rcases hname with rfl | rfl | rfl | rfl
      · exact hdecides.task
      · exact hdecides.implementer.1
      · exact hdecides.closer.1
      · rw [IsGiven, hitems]
        exact ⟨rfl, rfl⟩
    · rw [hitems]
      apply verdictsFindings_eq_nil_iff.mpr
      rw [partyFindings_eq_nil_iff hdecides.implementer.1 hdecides.closer.1]
      exact ⟨⟨hdecides.implementer.2, hdecides.closer.2⟩, hdecides.spoken, hdecides.independent,
        hdecides.sliceQa, hdecides.holdout, hdecides.distinct⟩

end OdinSentinel.Closure
