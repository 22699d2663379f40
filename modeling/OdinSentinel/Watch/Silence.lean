import OdinSentinel.Core.Matching
import OdinSentinel.Watch.Classifier

/-!
# Silent verdicts

When the classifier wakes nobody: the conditions of each rule, in terms of what stands in
the text and of the segments of the paths, and their meeting in one equivalence.
-/

namespace OdinSentinel.Watch

open JsText Regex Validators ClassifierInput

/-! ## The text -/

/-- A marker stands in the text. -/
def Mentions (text : JsString) (markers : List JsString) : Prop :=
  ∃ marker ∈ markers, marker <:+: text

theorem containsAny_isSome_iff {text : JsString} {markers : List JsString} :
    (containsAny text markers).isSome = true ↔ Mentions text markers := by
  rw [containsAny, List.find?_isSome]
  simp only [Mentions, Text.contains_iff]

theorem any_matches {parts : List (Pattern UInt16)} {start stop : Cursor UInt16} :
    (Pattern.any parts).Matches start stop ↔ ∃ part ∈ parts, part.Matches start stop := by
  induction parts with
  | nil => simp [Pattern.any, Pattern.Matches]
  | cons part parts ih =>
      cases parts with
      | nil => simp [Pattern.any]
      | cons next parts =>
          rw [Pattern.any, Pattern.Matches, ih]
          · simp
          · rintro ⟨⟩

/-- A literal text matches where the text goes on with it. -/
theorem exactly_matches {word : JsString} {start : Cursor UInt16} :
    (∃ stop, (exactly word).Matches start stop) ↔ word <+: start.rest := by
  constructor
  · rintro ⟨stop, hmatches⟩
    exact ⟨stop.rest, (literal_matches.mp hmatches).1.symm⟩
  · rintro ⟨after, hafter⟩
    exact ⟨⟨word.getLast?.or start.before, after⟩, literal_matches.mpr ⟨hafter.symm, rfl⟩⟩

/-- `⠋⠙⠹⠸⠼⠴⠦⠧⠇⠏`. -/
def spinnerUnits : JsString := js "⠋⠙⠹⠸⠼⠴⠦⠧⠇⠏"

/-- The other alternatives of `WORKING_RE`. -/
def progressWords : List JsString :=
  [js "...", js "Running", js "Generating", js "Compiling", js "Building", js "Installing",
    js "Fetching", js "Downloading", js "Uploading", js "Processing", js "Streaming",
    js "Writing", js "Thinking"]

/-- The text shows a spinner or a word of progress. -/
def ShowsWork (text : JsString) : Prop :=
  (∃ unit ∈ text, unit ∈ spinnerUnits) ∨ Mentions text progressWords

theorem workingRe_iff {text : JsString} : workingRe.test text = true ↔ ShowsWork text := by
  have hparts : workingRe =
      .any (.one (Validators.isOneOf spinnerUnits) :: progressWords.map exactly) := rfl
  rw [hparts, Pattern.test_iff]
  simp only [any_matches, List.mem_cons, List.mem_map]
  constructor
  · rintro ⟨front, back, stop, rfl, part, rfl | ⟨word, hword, rfl⟩, hmatches⟩
    · obtain ⟨unit, hunit, hback, -⟩ := hmatches
      have hhead : back = unit :: stop.rest := hback
      exact .inl ⟨unit, List.mem_append_right front (hhead ▸ List.mem_cons_self),
        List.contains_iff_mem.mp hunit⟩
    · obtain ⟨after, hafter⟩ := exactly_matches.mp ⟨stop, hmatches⟩
      exact .inr ⟨word, hword, front, after, by rw [List.append_assoc]; exact congrArg _ hafter⟩
  · rintro (⟨unit, hunit, hspinner⟩ | ⟨word, hword, front, after, rfl⟩)
    · obtain ⟨front, back, rfl⟩ := List.append_of_mem hunit
      exact ⟨front, unit :: back, ⟨some unit, back⟩, rfl, _, .inl rfl, unit,
        List.contains_iff_mem.mpr hspinner, rfl, rfl⟩
    · obtain ⟨stop, hmatches⟩ := (@exactly_matches word ⟨front.getLast?, word ++ after⟩).mpr
        (List.prefix_append word after)
      exact ⟨front, word ++ after, stop, List.append_assoc front word after, _,
        .inr ⟨word, hword, rfl⟩, hmatches⟩

/-- A line of the text starts with digits, a dot and a blank. -/
def HasOptionLine (text : JsString) : Prop :=
  ∃ front digits blank back, text = front ++ digits ++ 46 :: blank :: back ∧
    front.getLast?.all isLineTerminator = true ∧ digits ≠ [] ∧
    (∀ unit ∈ digits, isDigit unit = true) ∧ isSpace blank = true

theorem numberedOptionRe_iff {text : JsString} :
    numberedOptionRe.test text = true ↔ HasOptionLine text := by
  rw [Pattern.test_iff]
  constructor
  · rintro ⟨front, back, stop, rfl, _, ⟨hline, rfl⟩, afterDigits, ⟨digits, hsome, hdigits, hback, -⟩,
      afterDot, ⟨dot, hdot, hrest, -⟩, afterBlank, ⟨blank, hblank, hlast, -⟩, -⟩
    refine ⟨front, digits, blank, afterBlank.rest, ?_, hline, ?_, hdigits, hblank⟩
    · rw [List.append_assoc, ← beq_iff_eq.mp hdot, ← hlast, ← hrest]
      exact congrArg _ hback
    · exact List.ne_nil_of_length_pos hsome
  · rintro ⟨front, digits, blank, back, rfl, hline, hsome, hdigits, hblank⟩
    refine ⟨front, digits ++ 46 :: blank :: back, ⟨some blank, back⟩, List.append_assoc _ _ _, _,
      ⟨hline, rfl⟩, ⟨digits.getLast?.or front.getLast?, 46 :: blank :: back⟩,
      ⟨digits, List.length_pos_iff.mpr hsome, hdigits, rfl, rfl⟩, ⟨some 46, blank :: back⟩,
      ⟨46, rfl, rfl, rfl⟩, ⟨some blank, back⟩, ⟨blank, hblank, rfl, rfl⟩, rfl⟩

/-! ## The paths -/

/-- The path equals the scope without its final slashes or lies below it, segment by segment. -/
def LiesBelow (path rawScope : JsString) : Prop :=
  rawScope.rdropWhile (· == 47) ≠ [] ∧
    (rawScope.rdropWhile (· == 47)).splitOn 47 <+: path.splitOn 47

theorem covers_iff {path rawScope : JsString} :
    covers path rawScope = true ↔ LiesBelow path rawScope := by
  rw [LiesBelow, Text.splitOn_prefix_iff, covers, Bool.and_eq_true, Bool.or_eq_true, bne_iff_ne,
    beq_iff_eq, List.isPrefixOf_iff_prefix]
  exact Iff.rfl

/-- Where there are scopes, every dirty path lies below one of them. -/
def InScope (input : ClassifierInput) : Prop :=
  input.writeScope ≠ [] →
    ∀ path ∈ input.dirtyPaths, ∃ rawScope ∈ input.writeScope, LiesBelow path rawScope

theorem dirtyOutOfScope_isEmpty_iff {input : ClassifierInput} :
    input.dirtyOutOfScope.isEmpty = true ↔ InScope input := by
  rw [dirtyOutOfScope, InScope]
  by_cases hscope : input.writeScope = []
  · simp [hscope]
  · simp only [List.isEmpty_iff, hscope, if_false, List.filter_eq_nil_iff, ne_eq, not_false_eq_true,
      true_implies, Bool.not_eq_true', Bool.not_eq_false, List.any_eq_true, covers_iff]

/-! ## The rules -/

section Rules

variable {input : ClassifierInput} {result : ClassifierResult}

theorem markerRule_eq_none {markers : List JsString} {verdict : WakeVerdict} {reason : JsString}
    {promptBudgetClass : PromptBudgetClass} :
    input.markerRule markers verdict reason promptBudgetClass = none ↔
      ¬Mentions input.text markers := by
  rw [markerRule, Option.map_eq_none_iff, ← Option.not_isSome_iff_eq_none, containsAny_isSome_iff]

theorem mandatoryAudit_eq_none : input.mandatoryAudit = none ↔ input.auditDue = false := by
  rw [mandatoryAudit]
  cases input.auditDue <;> simp

theorem approvalMarkers_eq_none :
    input.approvalMarkers = none ↔
      ¬Mentions input.text approvalStrings ∧ ¬HasOptionLine input.text := by
  rw [approvalMarkers, ← containsAny_isSome_iff, ← numberedOptionRe_iff]
  by_cases happroval : (containsAny input.text approvalStrings).isSome = true <;>
    by_cases hoption : numberedOptionRe.test input.text = true <;> simp [happroval, hoption]

theorem scopeViolation_eq_none : input.scopeViolation = none ↔ InScope input := by
  rw [scopeViolation, ← dirtyOutOfScope_isEmpty_iff]
  cases input.dirtyOutOfScope.isEmpty <;> simp

theorem invalidLiveness_eq_none :
    input.invalidLiveness = none ↔
      ∀ liveness, input.liveness = some liveness → liveness.observationValid = true := by
  rw [invalidLiveness]
  cases input.liveness with
  | none => simp
  | some liveness => cases hvalid : liveness.observationValid <;> simp [hvalid]

/-- The liveness signals show progress of an artifact or a recent payload. -/
def ShowsProgress (input : ClassifierInput) : Prop :=
  input.artifactAdvanced = true ∨ input.recentAttemptPayload = true

theorem livenessMimic_eq_none (hquiet : ShowsProgress input ∨ input.unchangedPastStale = false) :
    input.livenessMimic = none := by
  rw [livenessMimic]
  cases input.liveness with
  | none => rfl
  | some liveness => rcases hquiet with (hprogress | hprogress) | hquiet <;> simp [*]

/-- The rules that wake. -/
def wakingRules : List (ClassifierInput → Option ClassifierResult) :=
  [mandatoryAudit, approvalMarkers, crashMarkers, qaCompleteMarkers, devCompleteMarkers,
    blockerMarkers, scopeViolation, invalidLiveness, livenessMimic]

theorem wake_of_guard {condition : Prop} [Decidable condition] {found : ClassifierResult}
    (hwake : found.wake = true)
    (hresult : (if condition then some found else none) = some result) : result.wake = true := by
  by_cases hcondition : condition
  · rw [if_pos hcondition] at hresult
    exact Option.some.inj hresult ▸ hwake
  · rw [if_neg hcondition] at hresult
    cases hresult

theorem wake_of_markerRule {markers : List JsString} {verdict : WakeVerdict} {reason : JsString}
    {promptBudgetClass : PromptBudgetClass}
    (hresult : input.markerRule markers verdict reason promptBudgetClass = some result) :
    result.wake = true := by
  obtain ⟨marker, -, rfl⟩ := Option.map_eq_some_iff.mp hresult
  rfl

theorem wake_of_wakingRules {rule : ClassifierInput → Option ClassifierResult}
    (hrule : rule ∈ wakingRules) (hresult : rule input = some result) : result.wake = true := by
  simp only [wakingRules, List.mem_cons, List.not_mem_nil, or_false] at hrule
  rcases hrule with rfl | rfl | rfl | rfl | rfl | rfl | rfl | rfl | rfl
  · exact wake_of_guard rfl hresult
  · exact wake_of_guard rfl hresult
  · exact wake_of_markerRule hresult
  · exact wake_of_markerRule hresult
  · exact wake_of_markerRule hresult
  · exact wake_of_markerRule hresult
  · rw [scopeViolation] at hresult
    split_ifs at hresult
    exact Option.some.inj hresult ▸ rfl
  · rw [invalidLiveness] at hresult
    cases hliveness : input.liveness with
    | none => rw [hliveness] at hresult; cases hresult
    | some liveness =>
        rw [hliveness] at hresult
        dsimp only at hresult
        split_ifs at hresult
        exact Option.some.inj hresult ▸ rfl
  · rw [livenessMimic] at hresult
    cases hliveness : input.liveness with
    | none => rw [hliveness] at hresult; cases hresult
    | some liveness =>
        rw [hliveness] at hresult
        exact wake_of_guard rfl hresult

theorem mentions_append {text : JsString} {left right : List JsString} :
    Mentions text (left ++ right) ↔ Mentions text left ∨ Mentions text right := by
  simp only [Mentions, List.mem_append, or_and_right, exists_or]

/-- No rule wakes exactly where nothing needs attention, if the screen is no mimic. -/
theorem wakingRules_eq_none_iff
    (hquiet : ShowsProgress input ∨ input.unchangedPastStale = false) :
    (∀ rule ∈ wakingRules, rule input = none) ↔
      input.auditDue = false ∧
      (¬Mentions input.text approvalStrings ∧ ¬Mentions input.text crashStrings ∧
        ¬Mentions input.text (qaCompleteStrings ++ devCompleteStrings) ∧
        ¬Mentions input.text blockerStrings ∧ ¬HasOptionLine input.text) ∧
      InScope input ∧
      ∀ liveness, input.liveness = some liveness → liveness.observationValid = true := by
  simp only [wakingRules, List.forall_mem_cons, mandatoryAudit_eq_none, approvalMarkers_eq_none,
    crashMarkers, qaCompleteMarkers, devCompleteMarkers, blockerMarkers, markerRule_eq_none,
    scopeViolation_eq_none, invalidLiveness_eq_none, livenessMimic_eq_none hquiet, mentions_append,
    not_or, List.not_mem_nil, false_implies, implies_true, and_true]
  constructor
  · rintro ⟨hdue, ⟨happroval, hoption⟩, hcrash, hqa, hdev, hblocker, hscope, hvalid⟩
    exact ⟨hdue, ⟨happroval, hcrash, ⟨hqa, hdev⟩, hblocker, hoption⟩, hscope, hvalid⟩
  · rintro ⟨hdue, ⟨happroval, hcrash, ⟨hqa, hdev⟩, hblocker, hoption⟩, hscope, hvalid⟩
    exact ⟨hdue, ⟨happroval, hoption⟩, hcrash, hqa, hdev, hblocker, hscope, hvalid⟩

/-- The rules behind those that wake: progress and evidence of work are silent. -/
theorem quietRules_wake :
    ((([artifactProgress, staleHash, allClear].findSome? fun rule => rule input).getD
      input.ambiguous).wake = false) ↔
      ShowsProgress input ∨ ShowsWork input.text ∧ input.unchangedPastStale = false := by
  rw [List.findSome?_cons, List.findSome?_cons, List.findSome?_cons, artifactProgress, staleHash,
    allClear, ShowsProgress, ← Bool.or_eq_true, ← workingRe_iff]
  cases input.artifactAdvanced || input.recentAttemptPayload <;>
    cases input.unchangedPastStale <;> cases workingRe.test input.text <;>
      simp [ClassifierInput.result, ambiguous]

/-- A result that does not wake has found work. -/
theorem quietRules_verdict
    (hsilent : ((([artifactProgress, staleHash, allClear].findSome? fun rule => rule input).getD
      input.ambiguous).wake = false)) :
    (([artifactProgress, staleHash, allClear].findSome? fun rule => rule input).getD
      input.ambiguous).verdict = .working := by
  rw [List.findSome?_cons, List.findSome?_cons, List.findSome?_cons, artifactProgress, staleHash,
    allClear] at hsilent ⊢
  revert hsilent
  cases input.artifactAdvanced || input.recentAttemptPayload <;>
    cases input.unchangedPastStale <;> cases workingRe.test input.text <;>
      simp [ClassifierInput.result, ambiguous]

end Rules

/-- The classifier is silent exactly where it finds work, no audit is due, the text has no
marker and no option line, the dirty paths are in scope, the liveness observation is not
invalid, and there is progress, or evidence of work on a screen that is not stale. -/
theorem silent_iff (input : ClassifierInput) :
    (classify input).wake = false ↔
      (classify input).verdict = .working ∧
      input.auditDue = false ∧
      (¬Mentions input.text approvalStrings ∧ ¬Mentions input.text crashStrings ∧
        ¬Mentions input.text (qaCompleteStrings ++ devCompleteStrings) ∧
        ¬Mentions input.text blockerStrings ∧ ¬HasOptionLine input.text) ∧
      (input.writeScope ≠ [] →
        ∀ path ∈ input.dirtyPaths, ∃ rawScope ∈ input.writeScope, LiesBelow path rawScope) ∧
      (∀ liveness, input.liveness = some liveness → liveness.observationValid = true) ∧
      ((input.artifactAdvanced = true ∨ input.recentAttemptPayload = true) ∨
        ShowsWork input.text ∧ input.unchangedPastStale = false) := by
  have hrules : rules = wakingRules ++ [artifactProgress, staleHash, allClear] := rfl
  rw [classify, hrules, List.findSome?_append]
  cases hfound : wakingRules.findSome? fun rule => rule input with
  | some result =>
      obtain ⟨rule, hrule, hresult⟩ := List.exists_of_findSome?_eq_some hfound
      have hwake : result.wake = true := wake_of_wakingRules hrule hresult
      apply iff_of_false (by rw [Option.some_or, Option.getD_some, hwake]; decide)
      rintro ⟨-, hdue, htext, hscope, hvalid, hevidence⟩
      have hnone := (wakingRules_eq_none_iff (hevidence.imp_right And.right)).mpr
        ⟨hdue, htext, hscope, hvalid⟩ rule hrule
      rw [hresult] at hnone
      cases hnone
  | none =>
      have hnone := List.findSome?_eq_none_iff.mp hfound
      rw [Option.none_or]
      constructor
      · intro hsilent
        have hevidence := quietRules_wake.mp hsilent
        obtain ⟨hdue, htext, hscope, hvalid⟩ :=
          (wakingRules_eq_none_iff (hevidence.imp_right And.right)).mp hnone
        exact ⟨quietRules_verdict hsilent, hdue, htext, hscope, hvalid, hevidence⟩
      · rintro ⟨-, -, -, -, -, hevidence⟩
        exact quietRules_wake.mpr hevidence

end OdinSentinel.Watch
