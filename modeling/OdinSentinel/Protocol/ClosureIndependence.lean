import OdinSentinel.Protocol.AuthorityGates

/-!
# Closure independence

The evidence classification of a payload, and the validator of a closure claim:
one pass over the verdicts that refuses what is not an independent emission and
keeps the canonical emitters of either lane, then the rules over both lanes.
-/

namespace OdinSentinel.Closure

open JsText Unicode RoleIdentity Validators Authority
open DeliveryProof (pushNew joinComma)

/-! ## Evidence -/

def evidenceClasses : List JsString :=
  [js "observed", js "derived", js "claimed", js "provisional", js "blocked", js "rejected",
    js "accepted"]

def verdictClassArtifacts : List JsString := [js "qa_verdict", js "feedback_finding"]

/-- Texts joined by ` | `. -/
def joinBar (texts : List JsString) : JsString := List.intercalate (js " | ") texts

def evidenceClassLabel : JsString := joinBar evidenceClasses

/-- `[\s-]`. -/
def isSpaceOrHyphen (unit : UInt16) : Bool := isSpace unit || unit == 45

/-- The text of a string value; anything else reads as the empty text. -/
def textOf (value : JsValue) : JsString := value.asString.getD []

variable (tables : Tables)

def normalizeArtifactClass (value : JsValue) : JsString :=
  match value with
  | .string text =>
      Text.replaceRuns isSpaceOrHyphen 95 (toLowerCase tables (trim text))
  | _ => []

def resolveArtifactClass (value : JsValue) : JsString :=
  let normalized := normalizeArtifactClass tables value
  if normalized = js "scp_feedback" then js "feedback_finding" else normalized

def isVerdictClassArtifact (artifactClass : JsValue) : Bool :=
  verdictClassArtifacts.contains (resolveArtifactClass tables artifactClass)

/-- `artifact_class "label"`. -/
def labelled (artifactLabel : JsString) : JsString :=
  js "artifact_class \"" ++ artifactLabel ++ js "\""

/-- An evidence class that is there has to be one of the canonical ones. -/
def evidenceClassFindings (evidenceClass : JsValue) (artifactLabel : JsString) : Findings :=
  if !isNullish evidenceClass && !isNonBlankText evidenceClass then
    Findings.refuseIf true (js "evidence_class")
      (js "evidence_class must be a non-empty string (" ++ labelled artifactLabel ++ js ")")
  else
    Findings.refuseIf
      (isNonBlankText evidenceClass && !evidenceClasses.contains (textOf evidenceClass))
      (js "evidence_class")
      (js "EVIDENCE_CLASS_INVALID: evidence_class \"" ++ textOf evidenceClass ++
        js "\" is not one of the canonical evidence classes (" ++ evidenceClassLabel ++
        js ") — " ++ labelled artifactLabel)

/-- A verdict-class payload has to carry both fields. -/
def verdictClassFindings (evidenceClass sourceBinding : JsValue) (artifactLabel : JsString) :
    Findings :=
  Findings.refuseIf (!isNonBlankText evidenceClass) (js "evidence_class")
    (js "EVIDENCE_CLASS_REQUIRED: verdict-class payload (" ++ labelled artifactLabel ++
      js ") is missing required field \"evidence_class\" — consequential claims must declare one of: " ++
      evidenceClassLabel) ++
  Findings.refuseIf (!isNonBlankText sourceBinding) (js "source_binding")
    (js "SOURCE_BINDING_REQUIRED: verdict-class payload (" ++ labelled artifactLabel ++
      js ") is missing required field \"source_binding\" — an evidence class without a bound source is an unverified claim")

def validateEvidenceClassification (payload : JsValue) : ValidationResult :=
  let rawArtifactClass := payload.field (js "artifact_class")
  let artifactClass := normalizeArtifactClass tables rawArtifactClass
  let artifactLabel := if artifactClass = [] then js "<undeclared>" else artifactClass
  let evidenceClass := payload.field (js "evidence_class")
  let sourceBinding := payload.field (js "source_binding")
  let findings :=
    Findings.refuseIf (!isNullish rawArtifactClass && artifactClass == []) (js "artifact_class")
      (js "artifact_class must be a non-empty string naming the payload's artifact class") ++
    evidenceClassFindings evidenceClass artifactLabel ++
    Findings.refuseIf (!isNullish sourceBinding && !isNonBlankText sourceBinding)
      (js "source_binding")
      (js "source_binding must be a non-empty string binding the claim to its evidence source (" ++
        labelled artifactLabel ++ js ")") ++
    (if isVerdictClassArtifact tables rawArtifactClass then
        verdictClassFindings evidenceClass sourceBinding artifactLabel
      else
        Findings.adviseIf (artifactClass == [])
          (js "artifact_class is undeclared; treating the payload as non-verdict-class (evidence_class optional). Verdict-class payloads (" ++
            joinBar verdictClassArtifacts ++ js ") REQUIRE evidence_class + source_binding."))
  findings.result []

/-! ## Verdicts -/

def closureKinds : List JsString :=
  [js "SLICE_QA_PASS", js "HOLDOUT_ACCEPTED", js "MISSION_INTERNAL_VALIDATOR"]

/-- What the pass over the verdicts has found so far. -/
structure Tally where
  findings : Findings
  hasIndependentSliceQaPass : Bool
  hasIndependentHoldoutAccepted : Bool
  sliceQaEmitters : List JsString
  holdoutEmitters : List JsString

def Tally.initial : Tally where
  findings := Findings.none
  hasIndependentSliceQaPass := false
  hasIndependentHoldoutAccepted := false
  sliceQaEmitters := []
  holdoutEmitters := []

def Tally.note (tally : Tally) (findings : Findings) : Tally :=
  { tally with findings := tally.findings ++ findings }

/-- A passing verdict of an independent emitter, in its lane. -/
def Tally.pass (tally : Tally) (kind emitter : JsString) : Tally :=
  if kind = js "SLICE_QA_PASS" then
    { tally with
      hasIndependentSliceQaPass := true
      sliceQaEmitters := pushNew tally.sliceQaEmitters emitter }
  else if kind = js "HOLDOUT_ACCEPTED" then
    { tally with
      hasIndependentHoldoutAccepted := true
      holdoutEmitters := pushNew tally.holdoutEmitters emitter }
  else tally

/-- `verdict index: text`. -/
def aboutVerdict (index : Nat) (text : JsString) : JsString :=
  js "verdict " ++ natText index ++ js ": " ++ text

/-- The evidence classification of a verdict, as submitted. -/
def classificationFindings (index : Nat) (verdict : JsValue) : Findings :=
  let kind := textOf (verdict.field (js "verdict_kind"))
  let classification := validateEvidenceClassification tables verdict
  if !classification.valid then
    { invalid := [js "verdicts"]
      warnings := classification.warnings.map (aboutVerdict index) }
  else
    Findings.adviseIf (isNullish (verdict.field (js "evidence_class")))
      (aboutVerdict index
        (js "EVIDENCE_CLASS_RECOMMENDED: verdict-class payload (artifact_class \"qa_verdict\", verdict_kind \"" ++
          (if kind = [] then js "<missing>" else kind) ++
          js "\") carries no evidence_class — validateEvidenceClassification rejects unclassified verdict-class payloads"))

/-- Why a verdict of a recognised kind is no independent emission. -/
def emitterRefusal (claim emittedBy : JsValue) : Option JsString :=
  match canonicalRoleSlot tables emittedBy with
  | none => some
      (js "EMITTER_IDENTITY_INVALID: emitted_by " ++ describeRoleSlotInput emittedBy ++
        js " is not a readable role slot — an unattributed verdict is not independent verification, and an unreadable identity never counts as a distinct emitter")
  | some emitter =>
      if roleSlotsEqual tables emittedBy (claim.field (js "implementer_lane")) then some
        (js "CLOSURE_SELF_REVIEW: emitted by the implementer's own lane (" ++ emitter ++
          js ") — the same assignment must not QA its own work, and respelling the seat does not make it a different party")
      else if roleSlotsEqual tables emittedBy (claim.field (js "closing_authority")) then some
        (js "CLOSURE_SELF_ASSERTION: SELF-ASSERTED by the closing authority (" ++ emitter ++
          js ") — a PM/EXEC may not assert the QA verdict for its own pod's work, under any spelling of its own name")
      else none

/-- One verdict: refused by the first rule it breaks, or entered in its lane. -/
def readVerdict (claim : JsValue) (tally : Tally) (entry : JsValue × Nat) : Tally :=
  let verdict := entry.1
  let index := entry.2
  let kind := textOf (verdict.field (js "verdict_kind"))
  let emittedBy := verdict.field (js "emitted_by")
  let classified := tally.note (classificationFindings tables index verdict)
  if !closureKinds.contains kind then
    classified.note (Findings.refuseIf true (js "verdicts")
      (aboutVerdict index (js "verdict_kind must be one of " ++ joinBar closureKinds ++
        js " — the vocabulary deliberately separates slice-QA-pass from holdout-accepted")))
  else
    match emitterRefusal tables claim emittedBy with
    | some text =>
        classified.note (Findings.refuseIf true (js "verdicts") (aboutVerdict index text))
    | none =>
        let emitter := (canonicalRoleSlot tables emittedBy).getD []
        let entered :=
          if textOf (verdict.field (js "result")) = js "PASS" then classified.pass kind emitter
          else classified
        entered.note (Findings.adviseIf (kind == js "MISSION_INTERNAL_VALIDATOR")
          (aboutVerdict index
            (js "a harness-internal (Mission) validator is ADVISORY, not closure — independently contracted QA is not interchangeable with a nested validator")))

/-- The seats that passed in both lanes. -/
def collapsedEmitters (tally : Tally) : List JsString :=
  tally.sliceQaEmitters.filter fun slot => tally.holdoutEmitters.contains slot

def laneFindings (tally : Tally) : Findings :=
  let collapsed := collapsedEmitters tally
  Findings.refuseIf (!collapsed.isEmpty) (js "verdicts")
    (js "CLOSURE_LANE_COLLAPSE: SLICE_QA_PASS and HOLDOUT_ACCEPTED were both emitted by the same canonical seat (" ++
      joinComma collapsed ++
      js ") — closure requires two canonically DISTINCT emitters, one per lane; a single seat signing both lanes is one verification wearing two hats")

/-- Why claims without both lanes are not eligible. -/
def ineligibleText (tally : Tally) (kinds : JsString) : JsString :=
  js "not closure-eligible (" ++ kinds ++
    if !tally.hasIndependentSliceQaPass && tally.hasIndependentHoldoutAccepted then
      js "): a sealed HOLDOUT_ACCEPTED is a strong blind story verifier but does NOT replace B/QA's slice-level checks (scope, evidence, lifecycle, branch/gate hygiene, acceptance criteria) — closure requires BOTH an independent SLICE_QA_PASS and an independent HOLDOUT_ACCEPTED; without the slice-QA pass the state is QA_INCOMPLETE (B/QA PENDING)"
    else if tally.hasIndependentSliceQaPass && !tally.hasIndependentHoldoutAccepted then
      js "): SLICE_QA_PASS is a weak in-loop signal (field evidence: every slice leg green while sealed holdouts failed 2 of 3) and internal validators are advisory — closure requires BOTH an independent SLICE_QA_PASS and an independent HOLDOUT_ACCEPTED; without the holdout the state is DEV_COMPLETE_QA_PENDING (HOLDOUT PENDING)"
    else
      js "): closure requires BOTH an independent SLICE_QA_PASS and an independent HOLDOUT_ACCEPTED — neither verdict is sufficient alone; the state is DEV_COMPLETE_QA_PENDING or QA_INCOMPLETE as applicable"

/-- The rules over the verdicts of a claim; `sofar` is what the claim's parties were
refused for. -/
def verdictsFindings (claim : JsValue) (sofar : Findings) (verdicts : List JsValue) : Findings :=
  let start := sofar ++ Findings.refuseIf verdicts.isEmpty (js "verdicts")
    (js "closure with NO verdict: a closure claim requires a real, independent QA emission — a fragmented or silent QA seat is not a pass")
  let tally := (verdicts.zipIdx).foldl (readVerdict tables claim)
    { Tally.initial with findings := start }
  let judged := tally.findings ++ laneFindings tally
  let closureEligible := tally.hasIndependentSliceQaPass && tally.hasIndependentHoldoutAccepted
  -- Every kind is a recognised text where no verdict has been refused.
  let kinds := joinComma (verdicts.map fun verdict => textOf (verdict.field (js "verdict_kind")))
  judged ++ Findings.refuseIf
    (!verdicts.isEmpty && !closureEligible && !judged.invalid.contains (js "verdicts"))
    (js "verdicts") (ineligibleText tally kinds)

/-! ## Claims -/

def closureFields : List JsString :=
  [js "task_ref", js "implementer_lane", js "closing_authority", js "verdicts"]

def partyIsUnreadable (party : JsValue) : Bool :=
  !isNullish party && !isBlankText party && (canonicalRoleSlot tables party).isNone

def partyFindings (claim : JsValue) : Findings :=
  let implementerLane := claim.field (js "implementer_lane")
  let closingAuthority := claim.field (js "closing_authority")
  Findings.refuseIf (partyIsUnreadable tables implementerLane) (js "implementer_lane")
    (js "CLOSURE_PARTY_IDENTITY_INVALID: implementer_lane " ++
      describeRoleSlotInput implementerLane ++
      js " is not a readable role slot — self-review cannot be checked against an unreadable implementer") ++
  Findings.refuseIf (partyIsUnreadable tables closingAuthority) (js "closing_authority")
    (js "CLOSURE_PARTY_IDENTITY_INVALID: closing_authority " ++
      describeRoleSlotInput closingAuthority ++
      js " is not a readable role slot — self-assertion cannot be checked against an unreadable closing authority")

def validateClosureIndependence (claim : JsValue) : ValidationResult :=
  let missing := validateRequiredFields claim closureFields
  let findings :=
    match claim.field (js "verdicts") with
    | .array items =>
        verdictsFindings tables claim (partyFindings tables claim) (items.map asRecord)
    | .undefined => partyFindings tables claim
    | _ => Findings.refuse (js "verdicts") ++ partyFindings tables claim
  findings.result missing

end OdinSentinel.Closure
