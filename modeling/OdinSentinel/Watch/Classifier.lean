import OdinSentinel.Core.Double
import OdinSentinel.Core.Spelled
import OdinSentinel.Protocol.Redaction

/-!
# The screen classifier

A poll's screen is judged by rules in a fixed order, and the first that applies decides.
-/

namespace OdinSentinel.Watch

open JsText Regex Validators

inductive WakeVerdict
  | working
  | waitingApproval
  | blocked
  | crashed
  | devCompleteQaPending
  | qaComplete
  | idle
  | unknownNeedsRead
  deriving DecidableEq

inductive PromptBudgetClass
  | silent
  | compact
  | diagnostic
  | forensic
  deriving DecidableEq

inductive LivenessVerdict
  | livenessMimic
  deriving DecidableEq

structure LivenessSignals where
  artifactAdvanced : Bool
  recentAttemptPayload : Bool
  runnerAlive : Option Bool
  observationValid : Bool
  diagnosticReasonCodes : List JsString

structure ClassifierInput where
  text : JsString
  hash : JsString
  prevHash : Option JsString
  elapsedMs : JsNumber
  nowMs : JsNumber
  mandatoryAuditIntervalMs : JsNumber
  staleThresholdMs : JsNumber
  writeScope : List JsString
  dirtyPaths : List JsString
  lastVerdict : Option WakeVerdict
  lastMandatoryAuditTs : Option JsNumber
  liveness : Option LivenessSignals

structure ClassifierResult where
  verdict : WakeVerdict
  wake : Bool
  reasonCodes : List JsString
  promptBudgetClass : PromptBudgetClass
  dirtyOutOfScope : List JsString
  lastMarker : Option JsString
  livenessVerdict : Option LivenessVerdict
  deriving DecidableEq

/-! ## Markers -/

/-- `APPROVAL_STRINGS`. -/
def approvalStrings : List JsString :=
  [js "Proceed with the proposal", js "Proceed with comment", js "No and explain why",
    js "Enter Select"]

/-- `LineTerminator`. -/
def isLineTerminator (unit : UInt16) : Bool :=
  unit == 10 || unit == 13 || unit == 0x2028 || unit == 0x2029

/-- `NUMBERED_OPTION_RE`. -/
def numberedOptionRe : Pattern UInt16 :=
  .all [.assertion fun before _ => before.all isLineTerminator, .many 1 isDigit, .one (· == 46),
    .one isSpace]

/-- `CRASH_STRINGS`. -/
def crashStrings : List JsString :=
  [js "panic", js "stack trace", js "program experienced a panic", js "TUI run error",
    js "fatal error"]

/-- `QA_COMPLETE_STRINGS`. -/
def qaCompleteStrings : List JsString := [js "QA COMPLETE", js "QA_COMPLETE"]

/-- `DEV_COMPLETE_STRINGS`. -/
def devCompleteStrings : List JsString :=
  [js "DEV_COMPLETE_QA_PENDING", js "implementation complete", js "ready for QA"]

/-- `BLOCKER_STRINGS`. -/
def blockerStrings : List JsString :=
  [js "BLOCKED", js "cannot proceed", js "missing", js "permission denied", js "need approval",
    js "SPEC-AMENDMENT", js "non-fast-forward"]

/-- `WORKING_RE`. -/
def workingRe : Pattern UInt16 :=
  .any (.one (isOneOf (js "⠋⠙⠹⠸⠼⠴⠦⠧⠇⠏")) ::
    [js "...", js "Running", js "Generating", js "Compiling", js "Building", js "Installing",
      js "Fetching", js "Downloading", js "Uploading", js "Processing", js "Streaming",
      js "Writing", js "Thinking"].map exactly)

def containsAny (text : JsString) (markers : List JsString) : Option JsString :=
  markers.find? (Text.contains text)

namespace ClassifierInput

variable (input : ClassifierInput)

/-- A scope without its final slashes covers itself and what lies under it. -/
def covers (path rawScope : JsString) : Bool :=
  let scope := rawScope.rdropWhile (· == 47)
  scope != [] && (path == scope || (scope ++ js "/").isPrefixOf path)

def dirtyOutOfScope : List JsString :=
  if input.writeScope.isEmpty then []
  else input.dirtyPaths.filter fun path => !input.writeScope.any (covers path)

def auditElapsed : JsNumber :=
  match input.lastMandatoryAuditTs with
  | some ts => input.nowMs.sub ts
  | none => input.elapsedMs

def auditDue : Bool := input.mandatoryAuditIntervalMs.le input.auditElapsed

def unchangedPastStale : Bool :=
  input.prevHash == some input.hash && input.staleThresholdMs.lt input.elapsedMs

def artifactAdvanced : Bool := input.liveness.any (·.artifactAdvanced)

def recentAttemptPayload : Bool := input.liveness.any (·.recentAttemptPayload)

/-! ## Rules -/

/-- A result with a verdict and its reasons. -/
def result (verdict : WakeVerdict) (wake : Bool) (reasonCodes : List JsString)
    (promptBudgetClass : PromptBudgetClass) (lastMarker : Option JsString) : ClassifierResult where
  verdict
  wake
  reasonCodes
  promptBudgetClass
  dirtyOutOfScope := input.dirtyOutOfScope
  lastMarker
  livenessVerdict := none

/-- A rule that a marker in the text decides. -/
def markerRule (markers : List JsString) (verdict : WakeVerdict) (reason : JsString)
    (promptBudgetClass : PromptBudgetClass) : Option ClassifierResult :=
  (containsAny input.text markers).map fun marker =>
    input.result verdict true [reason] promptBudgetClass (some marker)

def auditReason : JsString := js "MANDATORY_AUDIT interval elapsed"

def mandatoryAudit : Option ClassifierResult :=
  if input.auditDue then
    some (input.result (input.lastVerdict.getD .unknownNeedsRead) true [auditReason] .compact none)
  else none

def approvalMarkers : Option ClassifierResult :=
  let approvalMarker := containsAny input.text approvalStrings
  if approvalMarker.isSome || numberedOptionRe.test input.text then
    some (input.result .waitingApproval true [js "APPROVAL_MARKER"] .diagnostic
      (some (approvalMarker.getD (js "numbered interactive option"))))
  else none

def crashMarkers : Option ClassifierResult :=
  input.markerRule crashStrings .crashed (js "CRASH_MARKER") .forensic

def qaCompleteMarkers : Option ClassifierResult :=
  input.markerRule qaCompleteStrings .qaComplete (js "COMPLETION_MARKER") .compact

def devCompleteMarkers : Option ClassifierResult :=
  input.markerRule devCompleteStrings .devCompleteQaPending (js "COMPLETION_MARKER") .compact

def blockerMarkers : Option ClassifierResult :=
  input.markerRule blockerStrings .blocked (js "BLOCKER_MARKER") .diagnostic

def scopeViolation : Option ClassifierResult :=
  if input.dirtyOutOfScope.isEmpty then none
  else some (input.result .blocked true
    (input.dirtyOutOfScope.map fun path => js "DIRTY_OUT_OF_SCOPE " ++ path) .diagnostic none)

def invalidLiveness : Option ClassifierResult :=
  match input.liveness with
  | some liveness =>
      if liveness.observationValid then none
      else some (input.result .unknownNeedsRead true
        (js "INVALID_LIVENESS_OBSERVATION" :: liveness.diagnosticReasonCodes) .diagnostic none)
  | none => none

def livenessMimic : Option ClassifierResult :=
  match input.liveness with
  | some liveness =>
      if input.unchangedPastStale && workingRe.test input.text && !input.artifactAdvanced &&
          !input.recentAttemptPayload then
        some { input.result .unknownNeedsRead true
            (js "LIVENESS_MIMIC" ::
              if liveness.runnerAlive = some true then [js "RUNNER_ALIVE_NO_ARTIFACT_ADVANCEMENT"]
              else []) .diagnostic none with
          livenessVerdict := some .livenessMimic }
      else none
  | none => none

def artifactProgress : Option ClassifierResult :=
  if input.artifactAdvanced || input.recentAttemptPayload then
    some (input.result .working false
      ((if input.artifactAdvanced then [js "ARTIFACT_ADVANCED"] else []) ++
        if input.recentAttemptPayload then [js "RECENT_ATTEMPT_PAYLOAD"] else []) .silent none)
  else none

def staleHash : Option ClassifierResult :=
  if input.unchangedPastStale then
    some (input.result .idle true
      (js "STALE_HASH" ::
        if input.liveness.bind (·.runnerAlive) = some false then [js "RUNNER_NOT_ALIVE"] else [])
      .compact none)
  else none

def allClear : Option ClassifierResult :=
  if workingRe.test input.text then
    some (input.result .working false [js "ALL_CLEAR"] .silent none)
  else none

def ambiguous : ClassifierResult :=
  input.result .unknownNeedsRead true [js "AMBIGUOUS_STATE"] .compact none

end ClassifierInput

open ClassifierInput

/-- The rules behind the mandatory audit and before the stale hash. -/
def screenRules : List (ClassifierInput → Option ClassifierResult) :=
  [approvalMarkers, crashMarkers, qaCompleteMarkers, devCompleteMarkers, blockerMarkers,
    scopeViolation, invalidLiveness, livenessMimic, artifactProgress]

/-- All rules, in their order. -/
def rules : List (ClassifierInput → Option ClassifierResult) :=
  mandatoryAudit :: (screenRules ++ [staleHash, allClear])

def classify (input : ClassifierInput) : ClassifierResult :=
  (rules.findSome? fun rule => rule input).getD input.ambiguous

/-! ## Idle verdicts -/

/-- No rule between the audit and the stale hash applies. -/
def ClassifierInput.Undecided (input : ClassifierInput) : Prop :=
  ∀ rule ∈ screenRules, rule input = none

theorem markerRule_verdict {input : ClassifierInput} {markers : List JsString}
    {verdict : WakeVerdict} {reason : JsString} {promptBudgetClass : PromptBudgetClass}
    {result : ClassifierResult}
    (hresult : input.markerRule markers verdict reason promptBudgetClass = some result) :
    result.verdict = verdict := by
  obtain ⟨marker, -, rfl⟩ := Option.map_eq_some_iff.mp hresult
  rfl

/-- Only the stale hash and the audit can find a screen idle. -/
theorem screenRules_verdict {input : ClassifierInput}
    {rule : ClassifierInput → Option ClassifierResult} {result : ClassifierResult}
    (hrule : rule ∈ screenRules) (hresult : rule input = some result) : result.verdict ≠ .idle := by
  have hone {condition : Prop} [Decidable condition] {found : ClassifierResult}
      (hverdict : found.verdict ≠ .idle)
      (hsome : (if condition then some found else none) = some result) : result.verdict ≠ .idle := by
    by_cases hcondition : condition
    · rw [if_pos hcondition] at hsome
      cases hsome
      exact hverdict
    · rw [if_neg hcondition] at hsome
      cases hsome
  have hmarker {verdict : WakeVerdict} (hsame : result.verdict = verdict)
      (hverdict : verdict ≠ .idle) : result.verdict ≠ .idle := hsame ▸ hverdict
  simp only [screenRules, List.mem_cons, List.not_mem_nil, or_false] at hrule
  rcases hrule with rfl | rfl | rfl | rfl | rfl | rfl | rfl | rfl | rfl
  · exact hone (by rintro ⟨⟩) hresult
  · exact hmarker (markerRule_verdict hresult) (by rintro ⟨⟩)
  · exact hmarker (markerRule_verdict hresult) (by rintro ⟨⟩)
  · exact hmarker (markerRule_verdict hresult) (by rintro ⟨⟩)
  · exact hmarker (markerRule_verdict hresult) (by rintro ⟨⟩)
  · rw [scopeViolation] at hresult
    split at hresult
    · cases hresult
    · cases hresult
      rintro ⟨⟩
  · rw [invalidLiveness] at hresult
    split at hresult
    · split at hresult
      · cases hresult
      · cases hresult
        rintro ⟨⟩
    · cases hresult
  · rw [livenessMimic] at hresult
    split at hresult
    · exact hone (by rintro ⟨⟩) hresult
    · cases hresult
  · exact hone (by rintro ⟨⟩) hresult

theorem auditElapsed_some {input : ClassifierInput} {ts : JsNumber}
    (hts : input.lastMandatoryAuditTs = some ts) : input.auditElapsed = input.nowMs.sub ts := by
  rw [auditElapsed, hts]

/-- A due audit decides. -/
theorem classify_auditDue {input : ClassifierInput} (hdue : input.auditDue = true) :
    classify input =
      input.result (input.lastVerdict.getD .unknownNeedsRead) true [auditReason] .compact none := by
  rw [classify, rules, List.findSome?_cons, mandatoryAudit, if_pos hdue]
  rfl

/-- Otherwise the rules behind the audit do. -/
theorem classify_not_auditDue {input : ClassifierInput} (hdue : input.auditDue = false) :
    classify input = (((screenRules ++ [staleHash, allClear]).findSome? fun rule => rule input).getD
      input.ambiguous) := by
  rw [classify, rules, List.findSome?_cons, mandatoryAudit, hdue]
  rfl

/-- The verdict is idle where an audit repeats it, or where no earlier rule applies to a
screen that is unchanged past the threshold. -/
theorem classify_idle_iff (input : ClassifierInput) :
    (classify input).verdict = .idle ↔
      (input.auditDue = true ∧ input.lastVerdict = some .idle) ∨
      (input.auditDue = false ∧ input.Undecided ∧ input.unchangedPastStale = true) := by
  cases hdue : input.auditDue with
  | true =>
      rw [classify_auditDue hdue]
      change input.lastVerdict.getD .unknownNeedsRead = .idle ↔ _
      cases input.lastVerdict with
      | none => simp
      | some verdict => simp
  | false =>
      rw [classify_not_auditDue hdue, List.findSome?_append]
      simp only [Bool.false_eq_true, false_and, true_and, false_or]
      cases hfound : screenRules.findSome? fun rule => rule input with
      | some result =>
          obtain ⟨rule, hrule, hresult⟩ := List.exists_of_findSome?_eq_some hfound
          apply iff_of_false (screenRules_verdict hrule hresult)
          rintro ⟨hundecided, -⟩
          rw [hundecided rule hrule] at hresult
          cases hresult
      | none =>
          have hundecided : input.Undecided := List.findSome?_eq_none_iff.mp hfound
          rw [Option.none_or, List.findSome?_cons, List.findSome?_cons, staleHash, allClear]
          cases input.unchangedPastStale with
          | true => exact iff_of_true rfl ⟨hundecided, rfl⟩
          | false =>
              apply iff_of_false
              · cases workingRe.test input.text <;> rintro ⟨⟩
              · rintro ⟨-, ⟨⟩⟩

/-! ## The audit reason -/

theorem not_auditReason_of_screenRules {input : ClassifierInput} (hliveness : input.liveness = none)
    {rule : ClassifierInput → Option ClassifierResult} {result : ClassifierResult}
    (hrule : rule ∈ screenRules) (hresult : rule input = some result) :
    auditReason ∉ result.reasonCodes := by
  have hmarker {markers : List JsString} {verdict : WakeVerdict} {reason : JsString}
      {promptBudgetClass : PromptBudgetClass} (hreason : auditReason ∉ [reason])
      (hsome : input.markerRule markers verdict reason promptBudgetClass = some result) :
      auditReason ∉ result.reasonCodes := by
    obtain ⟨marker, -, rfl⟩ := Option.map_eq_some_iff.mp hsome
    exact hreason
  simp only [screenRules, List.mem_cons, List.not_mem_nil, or_false] at hrule
  rcases hrule with rfl | rfl | rfl | rfl | rfl | rfl | rfl | rfl | rfl
  · rw [approvalMarkers] at hresult
    split at hresult
    · cases hresult
      change auditReason ∉ [js "APPROVAL_MARKER"]
      decide
    · cases hresult
  · exact hmarker (by decide) hresult
  · exact hmarker (by decide) hresult
  · exact hmarker (by decide) hresult
  · exact hmarker (by decide) hresult
  · rw [scopeViolation] at hresult
    split at hresult
    · cases hresult
    · cases hresult
      intro hmem
      obtain ⟨path, -, hsame⟩ := List.mem_map.mp hmem
      have hhead : (js "DIRTY_OUT_OF_SCOPE ").head? = auditReason.head? := by
        rw [← hsame, List.head?_append]
        rfl
      exact absurd hhead (by decide)
  · rw [invalidLiveness] at hresult
    rw [hliveness] at hresult
    cases hresult
  · rw [livenessMimic] at hresult
    rw [hliveness] at hresult
    cases hresult
  · rw [artifactProgress, artifactAdvanced, recentAttemptPayload, hliveness] at hresult
    cases hresult

/-- Without liveness signals the audit reason stands where an audit is due. -/
theorem auditReason_mem_iff {input : ClassifierInput} (hliveness : input.liveness = none) :
    auditReason ∈ (classify input).reasonCodes ↔ input.auditDue = true := by
  cases hdue : input.auditDue with
  | true =>
      rw [classify_auditDue hdue]
      exact iff_of_true List.mem_cons_self rfl
  | false =>
      rw [classify_not_auditDue hdue, List.findSome?_append]
      apply iff_of_false _ Bool.false_ne_true
      cases hfound : screenRules.findSome? fun rule => rule input with
      | some result =>
          obtain ⟨rule, hrule, hresult⟩ := List.exists_of_findSome?_eq_some hfound
          exact not_auditReason_of_screenRules hliveness hrule hresult
      | none =>
          rw [Option.none_or, List.findSome?_cons, List.findSome?_cons, staleHash, allClear,
            hliveness]
          cases input.unchangedPastStale with
          | true =>
              change auditReason ∉ [js "STALE_HASH"]
              decide
          | false =>
              cases workingRe.test input.text with
              | true =>
                  change auditReason ∉ [js "ALL_CLEAR"]
                  decide
              | false =>
                  change auditReason ∉ [js "AMBIGUOUS_STATE"]
                  decide

end OdinSentinel.Watch
