import OdinSentinel.Protocol.ContextFreshness
import OdinSentinel.Protocol.SecretShapes

/-!
# The script and the service

Both verify a governed-context proof.  All that the service asks for but the secrets the
script asks for too; of the secrets it knows fewer shapes.
-/

namespace OdinSentinel.ContextScript

open JsText Host Regex Validators Readiness

variable {runtime : ScriptRuntime} {disk : Disk} {options : VerifyOptions} {clock : Int}
variable {proof : JsValue}

/-! ## The checks but the secrets -/

theorem Standing.uptake (hstanding : Standing runtime disk options proof) :
    uptakeReasons (markerOf proof) (proof.field (js "uptake_receipt")) = [] := by
  obtain ⟨fields, hreceipt⟩ := hstanding.receipt
  have hlink := hstanding.link
  rw [receiptOf] at hreceipt hlink
  rw [hreceipt] at hlink ⊢
  simp only [linkReasons, List.append_eq_nil_iff, reasonIf_eq_nil] at hlink
  simp only [uptakeReasons, List.append_eq_nil_iff, reasonIf_eq_nil]
  refine ⟨⟨hlink.1.1, ?_⟩, hlink.2⟩
  have hevidence := hlink.1.2
  split_ifs at hevidence ⊢ with hempty
  simpa using hevidence

/-- A declared path has a checksum. -/
theorem Standing.checksum (hstanding : Standing runtime disk options proof) :
    (isNonBlankText ((asRecord (proof.field (js "control_source"))).field (js "path")) &&
      !isNonBlankText ((asRecord (proof.field (js "control_source"))).field (js "sha256"))) =
        false := by
  obtain ⟨control, hcontrol, hreasons⟩ := hstanding.control
  rw [checkControlFile, declaredPath] at hcontrol
  generalize (asRecord (proof.field (js "control_source"))).field (js "sha256") = declared
    at hcontrol ⊢
  generalize (asRecord (proof.field (js "control_source"))).field (js "path") = path at hcontrol ⊢
  cases path with
  | string path =>
      by_cases hblank : trim path = []
      · simp [isNonBlankText, hblank]
      · simp only [if_neg hblank] at hcontrol
        cases hentry : disk (resolveEntryPath (baseOf options) path) with
        | file bytes =>
            rw [hentry] at hcontrol
            cases Except.ok.inj hcontrol
            by_cases hdeclared : isNonBlankText declared = true
            · rw [hdeclared, Bool.not_true, Bool.and_false]
            · rw [if_neg hdeclared] at hreasons
              cases hreasons
        | unreadable =>
            rw [hentry] at hcontrol
            cases hcontrol
        | missing | notFile =>
            rw [hentry] at hcontrol
            cases Except.ok.inj hcontrol
            cases hreasons
  | _ => rfl

/-- Of a proof that stands in the script the service has only the secrets left to ask for. -/
theorem Standing.proofReasons_eq_nil_iff (hstanding : Standing runtime disk options proof) :
    proofReasons runtime.toHostRuntime proof = [] ↔
      redactSecretLikeText (Json.stringify runtime.toHostRuntime proof) =
        Json.stringify runtime.toHostRuntime proof := by
  have hshape := hstanding.shape
  simp only [shapeReasons, List.append_eq_nil_iff, List.flatMap_cons, List.flatMap_nil,
    reasonIf_eq_nil] at hshape
  obtain ⟨⟨⟨⟨-, hschema⟩, hfields⟩, hsource⟩, hmarker⟩ := hshape
  have huptake := hstanding.uptake
  have hchecksum := hstanding.checksum
  rw [markerOf] at hmarker huptake
  simp only [proofReasons, List.append_eq_nil_iff, List.flatMap_cons, List.flatMap_nil,
    reasonIf_eq_nil, bne_eq_false_iff_eq]
  constructor
  · intro hreasons
    exact hreasons.1.1.1.1.1.1
  · intro hsame
    refine ⟨⟨⟨⟨⟨⟨hsame, ?_⟩, hfields⟩, hsource⟩, hmarker⟩, hchecksum⟩, huptake⟩
    exact bne_eq_false_iff_eq.mp hschema

/-! ## The secrets -/

/-- A text without a shape that only the service knows: an assignment whose value begins with a
quote, a bearer token of any length, a JSON field that is named as a credential and has another
value than the mark, a token shape. -/
structure FreeOfServiceShapes (text : JsString) : Prop where
  assigned : (Pattern.both assignmentName (.one (isOneOf (js "\"'")))).test text = false
  borne : (Pattern.both bearerWord (.one (alphanumericOr (js "._=-")))).test text = false
  quoted : ∀ value ∈ segments jsonSecretName jsonSecretValue text, value = redactedValue
  shaped : ∀ pattern ∈ secretTokenPatterns, pattern.test text = false

/-- The value of an assignment as the script knows it. -/
def unquotedValue : Pattern UInt16 :=
  .many 1 fun unit => !isSpace unit && !isOneOf (js "\"'") unit

variable {text : JsString}

theorem quote_not_space {unit : UInt16} (hquote : isOneOf (js "\"'") unit = true) :
    isSpace unit = false := by
  have hall : ∀ unit ∈ js "\"'", isSpace unit = false :=
    List.all_iff_forall_prop.mp (by decide)
  exact hall unit (List.contains_iff_mem.mp hquote)

/-- Where the script sees no assignment, one whose value the service replaces has a quote
behind its name. -/
theorem assigned_iff
    (hscript : (Pattern.both assignmentName unquotedValue).test text = false) :
    (∀ value ∈ segments assignmentName assignedValue text, value = redacted) ↔
      (Pattern.both assignmentName (.one (isOneOf (js "\"'")))).test text = false := by
  rw [unquotedValue, Pattern.test_both_many_one, Bool.eq_false_iff, ne_eq,
    Pattern.test_both_iff] at hscript
  rw [← replaceAll_eq_self_iff redacted_unbordered (fun _ _ _ => assigned_lightens),
    replaceAll_eq_self_iff_test redacted_unbordered (fun _ _ _ => assigned_lightens)]
  · rw [assignedValue, Pattern.test_both_many_one, ← not_iff_not, Bool.not_eq_false,
      Bool.not_eq_false, Pattern.test_both_iff, Pattern.test_both_iff]
    constructor
    · rintro ⟨front, back, middle, htext, hname, stop, unit, hvalue, hrest, hbefore⟩
      refine ⟨front, back, middle, htext, hname, stop, unit, ?_, hrest, hbefore⟩
      by_contra hquote
      refine hscript ⟨front, back, middle, htext, hname, stop, unit, ?_, hrest, hbefore⟩
      change (!isSpace unit && !isOneOf (js "\"'") unit) = true
      rw [show (!isSpace unit) = true from hvalue, Bool.true_and, Bool.not_eq_true']
      exact Bool.eq_false_iff.mpr hquote
    · rintro ⟨front, back, middle, htext, hname, stop, unit, hquote, hrest, hbefore⟩
      refine ⟨front, back, middle, htext, hname, stop, unit, ?_, hrest, hbefore⟩
      change (!isSpace unit) = true
      rw [quote_not_space hquote, Bool.not_false]
  · -- A mark behind the name would be an assignment to the script too.
    intro front start middle stop htext hbefore hfound hsame
    obtain ⟨taken, hrest, -, -⟩ := hfound.matches.2.exists_taken
    rw [between_eq hrest] at hsame
    rw [hsame] at hrest
    refine hscript ⟨front, start.rest, middle, htext, ?_, ⟨some 91, _⟩, 91, by decide, hrest, rfl⟩
    rw [← hbefore]
    exact hfound.matches.1

/-- Where the script sees no secret, only the shapes that it does not know are left. -/
theorem freeOfSecrets_iff (hscript : (secretPatterns.any fun pattern => pattern.test text) = false) :
    FreeOfSecrets text ↔ FreeOfServiceShapes text := by
  rw [secretPatterns, List.any_cons, List.any_cons, Bool.or_eq_false_iff,
    Bool.or_eq_false_iff] at hscript
  obtain ⟨hmarked, hassigned, -⟩ := hscript
  have hborne : (Pattern.both bearerWord borneToken).test text =
      (Pattern.both bearerWord (.one (alphanumericOr (js "._=-")))).test text :=
    Pattern.test_both_many_one _ _ _
  constructor
  · intro hfree
    exact ⟨(assigned_iff hassigned).mp hfree.assigned, hborne ▸ hfree.borne, hfree.quoted,
      hfree.shaped⟩
  · intro hfree
    exact ⟨hmarked, (assigned_iff hassigned).mpr hfree.assigned, hborne ▸ hfree.borne,
      hfree.quoted, hfree.shaped⟩

/-- A proof that stands in the script is valid in the service where its text is free of the
shapes that only the service knows. -/
theorem Standing.valid_iff (hstanding : Standing runtime disk options proof) :
    (validateGovernedContextProof runtime.toHostRuntime proof).valid = true ↔
      FreeOfServiceShapes (Json.stringify runtime.toHostRuntime proof) := by
  obtain ⟨fields, hproof⟩ := hstanding.object
  have hscript : containsSecretLikeValue runtime proof = false := by
    have hshape := hstanding.shape
    simp only [shapeReasons, List.append_eq_nil_iff, reasonIf_eq_nil] at hshape
    exact hshape.1.1.1.1
  have hvalid : (validateGovernedContextProof runtime.toHostRuntime proof).valid =
      (proofReasons runtime.toHostRuntime proof).isEmpty := by
    simp only [hproof, validateGovernedContextProof]
  have htext : containsSecretLikeValue runtime proof =
      secretPatterns.any fun pattern =>
        pattern.test (Json.stringify runtime.toHostRuntime proof) := by
    rw [hproof]
    rfl
  rw [htext] at hscript
  rw [hvalid, List.isEmpty_iff, hstanding.proofReasons_eq_nil_iff, redactSecretLikeText_eq_self_iff,
    freeOfSecrets_iff hscript]

/-- What the script verifies the service calls valid exactly where the proof's text is free of
the shapes that only the service knows, or where a check of the script refuses the proof. -/
theorem verified_valid_iff (runtime : ScriptRuntime) (disk : Disk) (options : VerifyOptions)
    (clock : Int) (proof : JsValue) :
    (Verified runtime disk options clock proof →
        (validateGovernedContextProof runtime.toHostRuntime proof).valid = true) ↔
      FreeOfServiceShapes (Json.stringify runtime.toHostRuntime proof) ∨
        ¬(Standing runtime disk options proof ∧
          NoneStale runtime (numberOrNaN (nowInstant runtime options clock)) (maxAge options)
            proof) := by
  rw [verified_iff]
  constructor
  · intro hvalid
    by_cases hpasses : Standing runtime disk options proof ∧
        NoneStale runtime (numberOrNaN (nowInstant runtime options clock)) (maxAge options) proof
    · exact .inl (hpasses.1.valid_iff.mp (hvalid hpasses))
    · exact .inr hpasses
  · rintro (hfree | hrefused) hpasses
    · exact hpasses.1.valid_iff.mpr hfree
    · exact absurd hpasses hrefused

/-- A proof with a credential in a field of its own. -/
def proofWithKey : JsValue :=
  .object [
    (js "schema", .string schemaId),
    (js "role", .string (js "QA")),
    (js "harness", .string (js "pi")),
    (js "source_type", .string (js "native_skill")),
    (js "control_source", .object [(js "marker", .string (js "v1"))]),
    (js "uptake_receipt", .object [
      (js "method", .string (js "read")),
      (js "evidence_marker", .string (js "v1")),
      (js "observed", .bool true),
      (js "observed_at", .string (js "2026-01-01T00:00:00.000Z"))]),
    (js "generated_at", .string (js "2026-01-01T00:00:00.000Z")),
    (js "api_key", .string (js "a1b2c3d4"))]

/-- "Now" is an hour later. -/
def hourLater : VerifyOptions :=
  { base := none, now := some (.text (js "2026-01-01T01:00:00.000Z")), maxAgeSeconds := none }

theorem proofWithKey_reasons : verifyReasons plainRuntime hourLater 0 proofWithKey
    { diskBytes := none, diskSha := none, reasons := [] } = [] := by
  decide +kernel

theorem proofWithKey_verified :
    Verified plainRuntime (fun _ => .missing) hourLater 0 proofWithKey :=
  verified_of_pathless rfl (by decide) proofWithKey_reasons

theorem proofWithKey_fields : (segments jsonSecretName jsonSecretValue
    (Json.stringify plainRuntime.toHostRuntime proofWithKey)).all (· == redactedValue) = false := by
  decide +kernel

theorem credential_passes_script :
    ¬∀ (runtime : ScriptRuntime) (disk : Disk) (options : VerifyOptions) (clock : Int)
        (proof : JsValue),
      Verified runtime disk options clock proof →
        (validateGovernedContextProof runtime.toHostRuntime proof).valid = true := by
  intro hclaim
  have hstanding := (verified_iff.mp proofWithKey_verified).1
  have hfree := hstanding.valid_iff.mp (hclaim _ _ _ _ _ proofWithKey_verified)
  have hall := List.all_eq_true.mpr fun value hvalue => beq_iff_eq.mpr (hfree.quoted value hvalue)
  cases hall.symm.trans proofWithKey_fields

end OdinSentinel.ContextScript
