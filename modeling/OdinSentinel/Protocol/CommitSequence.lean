import OdinSentinel.Protocol.AuthoritySpelling
import OdinSentinel.Protocol.DeliveryVerdicts

/-!
# Commit sequences

What the commit gate accepts.  It compares `staged_ready` with `false` and `committed` with
`true`, so that a value that is no boolean passes both rules whatever it says.
-/

namespace OdinSentinel.Authority

open JsText Unicode RoleIdentity Validators
open DeliveryProof (isExactlyTrue isExactlyFalse isExactlyTrue_iff)

variable (tables : Tables)

/-- A seat of the executive office, by its canonical slot. -/
def IsRatified (slot : JsString) : Prop :=
  some slot ∈ ratifiedCommitIssuerSlots.map fun name => canonicalRoleSlot tables (.string name)

/-- An authorization with a token and verified ground truth, issued by an executive seat that
is neither lane of the record. -/
structure Authorizes (record auth : JsValue) : Prop where
  token : isNonBlankText (auth.field (js "token")) = true
  verified : auth.field (js "verified_ground_truth") = .bool true
  issuer : ∃ issuer podPm implementer,
    canonicalRoleSlot tables (auth.field (js "issued_by")) = some issuer ∧
    canonicalRoleSlot tables (record.field (js "pod_pm_lane")) = some podPm ∧
    canonicalRoleSlot tables (record.field (js "implementer_lane")) = some implementer ∧
    IsRatified tables issuer ∧ issuer ≠ podPm ∧ issuer ≠ implementer

/-- The record says that the commit happened: `committed` is there and not `false`. -/
def SaysCommitted (record : JsValue) : Prop :=
  isNullish (record.field (js "committed")) = false ∧
    record.field (js "committed") ≠ .bool false

/-- The sequence the gate is for, up to where the record says it has come. -/
structure CompletedSequence (record : JsValue) : Prop where
  staged : record.field (js "staged_ready") = .bool true
  authorized : Authorizes tables record (record.field (js "commit_authorization"))
  reverified : SaysCommitted record → record.field (js "exec_reverified") = .bool true

/-- The rules of the gate but the two over the sequence's own flags. -/
structure PartiesInOrder (record : JsValue) : Prop where
  task : IsGiven record (js "task_ref")
  podPm : IsGiven record (js "pod_pm_lane")
  implementer : IsGiven record (js "implementer_lane")
  authorized : Authorizes tables record (record.field (js "commit_authorization"))

/-- `staged_ready` is a boolean, and so is `committed` where it is there and the commit is not
re-verified. -/
def ReadsAsFlags (record : JsValue) : Prop :=
  (∃ staged, record.field (js "staged_ready") = .bool staged) ∧
    (isNullish (record.field (js "committed")) = true ∨
      (∃ committed, record.field (js "committed") = .bool committed) ∨
      record.field (js "exec_reverified") = .bool true)

/-- A flag says in plain words that the sequence is not complete. -/
def SaysIncomplete (record : JsValue) : Prop :=
  ¬ IsGiven record (js "staged_ready") ∨ record.field (js "staged_ready") = .bool false ∨
    record.field (js "committed") = .bool true ∧
      record.field (js "exec_reverified") ≠ .bool true

variable {tables} {record auth : JsValue}

theorem isExactlyFalse_iff {value : JsValue} :
    isExactlyFalse value = true ↔ value = .bool false := by
  cases value <;> simp [isExactlyFalse]

theorem hasExecutiveAuthority_iff (hstandard : Standard tables) {value : JsValue}
    {slot : JsString} (hslot : canonicalRoleSlot tables value = some slot) :
    hasExecutiveAuthority tables (.string slot) = true ↔ IsRatified tables slot := by
  unfold hasExecutiveAuthority isMember
  rw [canonicalRoleSlot_canonical hstandard hslot]
  exact decide_eq_true_iff

theorem issuerFindings_eq_nil_iff (hstandard : Standard tables) {issuer : JsValue} :
    (issuerFindings tables issuer).invalid = [] ↔
      ∃ slot, canonicalRoleSlot tables issuer = some slot ∧ IsRatified tables slot := by
  rw [issuerFindings]
  cases hslot : canonicalRoleSlot tables issuer with
  | none => simp [Findings.invalid_refuseIf]
  | some slot =>
      dsimp only
      rw [Findings.refuseIf_eq_nil_iff, Bool.not_eq_false', hasExecutiveAuthority_iff hstandard hslot]
      simp

theorem isUnreadable_eq_false_iff {value : JsValue} (hgiven : isNullish value = false) :
    isUnreadable tables value = false ↔ ∃ slot, canonicalRoleSlot tables value = some slot := by
  rw [isUnreadable, hgiven, Bool.not_false, Bool.true_and, ← Bool.not_eq_true,
    Option.isNone_iff_eq_none, ← ne_eq, Option.ne_none_iff_exists']

theorem isSelfIssued_eq_false_iff {issuer lane : JsValue} {slot other : JsString}
    (hslot : canonicalRoleSlot tables issuer = some slot)
    (hother : canonicalRoleSlot tables lane = some other) :
    ((canonicalRoleSlot tables lane).isSome && (canonicalRoleSlot tables issuer).isSome &&
      roleSlotsEqual tables issuer lane) = false ↔ slot ≠ other := by
  simp [roleSlotsEqual, hslot, hother]

/-- What an authorization is refused for, given both lanes. -/
theorem authorizationFindings_eq_nil_iff (hstandard : Standard tables)
    (hpodPm : IsGiven record (js "pod_pm_lane"))
    (himplementer : IsGiven record (js "implementer_lane")) :
    (authorizationFindings tables record auth).invalid = [] ↔ Authorizes tables record auth := by
  unfold authorizationFindings
  dsimp only
  simp only [Findings.invalid_append, List.append_eq_nil_iff, Findings.refuseIf_eq_nil_iff,
    issuerFindings_eq_nil_iff hstandard, isUnreadable_eq_false_iff hpodPm.1,
    isUnreadable_eq_false_iff himplementer.1, Bool.not_eq_false', isExactlyTrue_iff]
  constructor
  · rintro ⟨⟨⟨⟨⟨⟨htoken, issuer, hissuer, hratified⟩, podPm, hpm⟩, implementer, hlane⟩, hself⟩,
      hown⟩, hverified⟩
    exact ⟨htoken, hverified, issuer, podPm, implementer, hissuer, hpm, hlane, hratified,
      (isSelfIssued_eq_false_iff hissuer hpm).mp hself,
      (isSelfIssued_eq_false_iff hissuer hlane).mp hown⟩
  · rintro ⟨htoken, hverified, issuer, podPm, implementer, hissuer, hpm, hlane, hratified, hself,
      hown⟩
    exact ⟨⟨⟨⟨⟨⟨htoken, issuer, hissuer, hratified⟩, podPm, hpm⟩, implementer, hlane⟩,
      (isSelfIssued_eq_false_iff hissuer hpm).mpr hself⟩,
      (isSelfIssued_eq_false_iff hissuer hlane).mpr hown⟩, hverified⟩

theorem Authorizes.asRecord_iff :
    Authorizes tables record (asRecord auth) ↔ Authorizes tables record auth := by
  constructor
  · rintro ⟨htoken, hverified, hissuer⟩
    simp only [asRecord_field] at htoken hverified hissuer
    exact ⟨htoken, hverified, hissuer⟩
  · rintro ⟨htoken, hverified, hissuer⟩
    simp only [← asRecord_field auth] at htoken hverified hissuer
    exact ⟨htoken, hverified, hissuer⟩

theorem Authorizes.isGiven {name : JsString}
    (hauthorized : Authorizes tables record (record.field name)) : IsGiven record name := by
  have htoken := hauthorized.token
  rw [IsGiven]
  cases hauth : record.field name with
  | object fields => exact ⟨rfl, rfl⟩
  | _ =>
      rw [hauth] at htoken
      exact absurd htoken Bool.false_ne_true

theorem isUndefined_of_isGiven {value : JsValue} (hgiven : isNullish value = false) :
    isUndefined value = false := by
  cases value <;> simp_all [isNullish, isUndefined]

theorem not_saysIncomplete_iff :
    ¬ SaysIncomplete record ↔ IsGiven record (js "staged_ready") ∧
      record.field (js "staged_ready") ≠ .bool false ∧
      (record.field (js "committed") = .bool true →
        record.field (js "exec_reverified") = .bool true) := by
  simp only [SaysIncomplete, not_or, not_not, not_and]

/-- The gate accepts exactly where the parties are in order and no flag says in plain words
that the sequence is incomplete. -/
theorem validateCommitGate_valid_iff (hstandard : Standard tables) :
    (validateCommitGate tables record).valid = true ↔
      PartiesInOrder tables record ∧ ¬ SaysIncomplete record := by
  have hunverified : (isExactlyTrue (record.field (js "committed")) &&
      !isExactlyTrue (record.field (js "exec_reverified"))) = false ↔
      (record.field (js "committed") = .bool true →
        record.field (js "exec_reverified") = .bool true) := by
    rw [← isExactlyTrue_iff, ← isExactlyTrue_iff]
    cases isExactlyTrue (record.field (js "committed")) <;> simp
  have hunstaged : isExactlyFalse (record.field (js "staged_ready")) = false ↔
      record.field (js "staged_ready") ≠ .bool false := by
    rw [← Bool.not_eq_true, isExactlyFalse_iff]
  unfold validateCommitGate
  dsimp only
  rw [Findings.result_valid_iff, validateRequiredFields_eq_nil_iff, not_saysIncomplete_iff,
    Findings.invalid_append, List.append_eq_nil_iff, Findings.invalid_append,
    List.append_eq_nil_iff, Findings.refuseIf_eq_nil_iff, Findings.refuseIf_eq_nil_iff,
    hunverified, hunstaged]
  constructor
  · rintro ⟨hgiven, ⟨hstaged, hauthorized⟩, hreverified⟩
    have hpodPm := hgiven (js "pod_pm_lane") (by decide)
    have himplementer := hgiven (js "implementer_lane") (by decide)
    have hauth := hgiven (js "commit_authorization") (by decide)
    rw [isUndefined_of_isGiven hauth.1, if_neg (by decide),
      authorizationFindings_eq_nil_iff hstandard hpodPm himplementer, Authorizes.asRecord_iff]
      at hauthorized
    exact ⟨⟨hgiven (js "task_ref") (by decide), hpodPm, himplementer, hauthorized⟩,
      hgiven (js "staged_ready") (by decide), hstaged, hreverified⟩
  · rintro ⟨hparties, hgiven, hstaged, hreverified⟩
    have hauth := hparties.authorized.isGiven
    refine ⟨?_, ⟨hstaged, ?_⟩, hreverified⟩
    · intro name hname
      simp only [commitGateFields, List.mem_cons, List.not_mem_nil, or_false] at hname
      rcases hname with rfl | rfl | rfl | rfl | rfl
      · exact hparties.task
      · exact hparties.podPm
      · exact hparties.implementer
      · exact hgiven
      · exact hauth
    · rw [isUndefined_of_isGiven hauth.1, if_neg (by decide),
        authorizationFindings_eq_nil_iff hstandard hparties.podPm hparties.implementer,
        Authorizes.asRecord_iff]
      exact hparties.authorized

/-- A record that is accepted has completed its sequence exactly where its flags read as
booleans, unless the gate refuses it: a flag says that it is incomplete, or its parties are not
in order. -/
theorem commitGate_completed_iff (hstandard : Standard tables) (record : JsValue) :
    ((validateCommitGate tables record).valid = true → CompletedSequence tables record) ↔
      ReadsAsFlags record ∨ SaysIncomplete record ∨ ¬ PartiesInOrder tables record := by
  rw [validateCommitGate_valid_iff hstandard]
  constructor
  · intro hcompleted
    by_cases hincomplete : SaysIncomplete record
    · exact .inr (.inl hincomplete)
    by_cases hparties : PartiesInOrder tables record
    · have hsequence := hcompleted ⟨hparties, hincomplete⟩
      refine .inl ⟨⟨true, hsequence.staged⟩, ?_⟩
      by_cases hcommitted : SaysCommitted record
      · exact .inr (.inr (hsequence.reverified hcommitted))
      · rw [SaysCommitted, not_and_or, Bool.not_eq_false, not_not] at hcommitted
        exact hcommitted.imp id fun hfalse => .inl ⟨false, hfalse⟩
    · exact .inr (.inr hparties)
  · rintro hreads ⟨hparties, hincomplete⟩
    obtain ⟨⟨staged, hstaged⟩, hcommitted⟩ :=
      hreads.resolve_right (not_or.mpr ⟨hincomplete, not_not.mpr hparties⟩)
    obtain ⟨-, hunstaged, hreverified⟩ := not_saysIncomplete_iff.mp hincomplete
    refine ⟨?_, hparties.authorized, ?_⟩
    · cases staged with
      | true => exact hstaged
      | false => exact absurd hstaged hunstaged
    · rintro ⟨hthere, htrue⟩
      rcases hcommitted with hnullish | ⟨committed, hcommitted⟩ | hverified
      · rw [hthere] at hnullish
        cases hnullish
      · cases committed with
        | true => exact hreverified hcommitted
        | false => exact absurd hcommitted htrue
      · exact hverified

theorem commitGate_completed_iff_authorized :
    (validateCommitGate smallTables Closure.authorizedCommit).valid = true ∧
      CompletedSequence smallTables Closure.authorizedCommit := by
  have hvalid : (validateCommitGate smallTables Closure.authorizedCommit).valid = true := by
    decide +kernel
  exact ⟨hvalid, (commitGate_completed_iff smallTables_standard Closure.authorizedCommit).mpr
    (.inl ⟨⟨true, rfl⟩, .inl rfl⟩) hvalid⟩

/-- The commit of `B/DEV-1` that says, in words, that it is not staged. -/
def unstagedCommit : JsValue :=
  overwrite Closure.authorizedCommit (js "staged_ready") (.string (js "no"))

/-- It is accepted. -/
theorem unstagedCommit_accepted : ¬∀ tables, Standard tables → ∀ record,
    (validateCommitGate tables record).valid = true → CompletedSequence tables record := by
  intro haccepts
  have hvalid : (validateCommitGate smallTables unstagedCommit).valid = true := by decide +kernel
  have hstaged := (haccepts smallTables smallTables_standard unstagedCommit hvalid).staged
  have hwords : unstagedCommit.field (js "staged_ready") = .string (js "no") := by rfl
  rw [hwords] at hstaged
  cases hstaged

end OdinSentinel.Authority
