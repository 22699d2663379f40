import Mathlib.Data.Bool.AllAny
import OdinSentinel.Core.Rewriting
import OdinSentinel.Protocol.Redaction

/-!
# What the redactor leaves alone

`redactSecretLikeText` replaces five kinds of shapes one after the other.  No later
replacement undoes an earlier one, so a text is left as it is exactly where none of the
shapes stands in it, but for a mark that is there already.
-/

namespace OdinSentinel.Validators

open JsText Regex

theorem redacted_unbordered : Unbordered redacted :=
  ⟨91, js "REDACTED]", by decide, by decide⟩

/-- The value of `NAME=value`. -/
def assignedValue : Pattern UInt16 := .many 1 fun unit => !isSpace unit

/-- What stands behind `Bearer`. -/
def borneToken : Pattern UInt16 := .many 1 (alphanumericOr (js "._=-"))

/-- The replacement of a JSON field's value. -/
def redactedValue : JsString := 34 :: redacted ++ [34]

/-- The replacements of `redactSecretLikeText`, in their order. -/
def redactionSteps : List (JsString → JsString) :=
  [replacePattern prefixedTokenRe redacted, replaceAll assignmentName assignedValue redacted,
    replaceAll bearerWord borneToken redacted,
    replaceAll jsonSecretName jsonSecretValue redactedValue] ++
  secretTokenPatterns.map fun pattern => replacePattern pattern redacted

theorem redactSecretLikeText_eq (text : JsString) :
    redactSecretLikeText text = redactionSteps.foldl (fun text step => step text) text := by
  rw [redactionSteps, List.foldl_append, List.foldl_map]
  rfl

variable {start middle stop : Cursor UInt16}

/-! ## One replacement -/

theorem prefixedToken_lightens (hfinds : Finds .empty prefixedTokenRe start middle stop) :
    Lightens redacted redacted middle stop := by
  apply hfinds.lightens redacted_unbordered (by decide)
  · exact fun front _ =>
      hfinds.apart_of_mayStart (by decide) (List.all_iff_forall_prop.mp (by decide)) front
  · exact hfinds.behind_of_accepts rfl (by decide)

theorem assigned_lightens (hfinds : Finds assignmentName assignedValue start middle stop) :
    Lightens redacted redacted middle stop := by
  apply hfinds.lightens redacted_unbordered (by decide)
  · exact hfinds.apart_of_mayEnd (by decide) (List.all_iff_forall_prop.mp (by decide))
  · exact hfinds.behind_of_greedy (List.all_iff_forall_prop.mp (by decide))

theorem borne_lightens (hfinds : Finds bearerWord borneToken start middle stop) :
    Lightens redacted redacted middle stop := by
  apply hfinds.lightens redacted_unbordered (by decide)
  · exact hfinds.apart_of_mayEnd (by decide) (List.all_iff_forall_prop.mp (by decide))
  · exact hfinds.behind_of_accepts rfl (by decide)

/-- A field's value is a quoted text of eight symbols or more. -/
theorem jsonSecretValue_matches (hmatches : jsonSecretValue.Matches middle stop) :
    ∃ content : JsString, content ≠ [] ∧ middle.rest = 34 :: content ++ [34] ++ stop.rest := by
  obtain ⟨behindOpen, ⟨opening, hopening, hrest, -⟩, atClose, hcontent, last,
    ⟨closing, hclosing, hlast, -⟩, rfl⟩ := hmatches
  obtain ⟨content, hlength, -, hmiddle, -⟩ := hcontent
  obtain rfl : opening = 34 := eq_of_beq hopening
  obtain rfl : closing = 34 := eq_of_beq hclosing
  refine ⟨content, ?_, ?_⟩
  · rintro rfl
    exact absurd hlength (by decide)
  · rw [hrest, hmiddle, hlast, List.append_assoc]
    rfl

theorem quoted_lightens (hfinds : Finds jsonSecretName jsonSecretValue start middle stop) :
    Lightens redacted redactedValue middle stop := by
  obtain ⟨content, hcontent, hrest⟩ := jsonSecretValue_matches hfinds.matches.2
  have hquote : (34 : UInt16) ∉ redacted := by decide
  have hbehind : ¬Straddles redacted (between middle stop) stop.rest :=
    hfinds.behind_of_mayEnd (List.all_iff_forall_prop.mp (by decide))
  rw [between_eq hrest] at hbehind
  refine ⟨⟨34 :: content ++ [34], List.cons_ne_nil _ _, hrest, hbehind, ?_⟩, fun front _ =>
    hfinds.apart_of_mayStart (by decide) (List.all_iff_forall_prop.mp (by decide)) front⟩
  rw [redactedValue, weight_wrapped redacted_unbordered hquote,
    weight_wrapped redacted_unbordered hquote]
  rcases eq_mark_or_weight_lt redacted_unbordered hcontent with rfl | hheavier
  · exact .inl rfl
  · exact .inr (Nat.add_lt_add_right hheavier 4)

/-- A token begins as no end of a mark does. -/
theorem tokenShape_lightens {lead : String} {parts : List (Pattern UInt16)}
    (hlead : ∀ right ∈ redacted.tail.tails, right ≠ [] →
      ¬right <+: js lead ∧ ¬js lead <+: right)
    (hnullable : (tokenShape lead parts).nullable = false)
    (haccepts : (tokenShape lead parts).accepts 91 = false)
    (hfinds : Finds .empty (tokenShape lead parts) start middle stop) :
    Lightens redacted redacted middle stop := by
  apply hfinds.lightens redacted_unbordered hnullable
  · intro front _
    obtain ⟨inside, ⟨-, rfl⟩, behind, htext, -⟩ := hfinds.matches.2
    exact not_straddles_of_start ⟨_, (literal_matches.mp htext).1.symm⟩ hlead
  · exact hfinds.behind_of_accepts rfl haccepts

theorem secretToken_lightens {pattern : Pattern UInt16} (hmem : pattern ∈ secretTokenPatterns)
    (hfinds : Finds .empty pattern start middle stop) : Lightens redacted redacted middle stop := by
  simp only [secretTokenPatterns, List.mem_cons, List.not_mem_nil, or_false] at hmem
  rcases hmem with rfl | rfl | rfl | rfl | rfl | rfl | rfl | rfl | rfl | rfl <;>
    exact tokenShape_lightens (by decide) (by decide) (by decide) hfinds

/-! ## All replacements -/

theorem redactionSteps_reduce : ∀ step ∈ redactionSteps, Reduces (weight redacted) step := by
  intro step hmem
  rcases List.mem_append.mp hmem with hmem | hmem
  · simp only [List.mem_cons, List.not_mem_nil, or_false] at hmem
    rcases hmem with rfl | rfl | rfl | rfl
    · exact replaceAll_reduces redacted_unbordered fun _ _ _ => prefixedToken_lightens
    · exact replaceAll_reduces redacted_unbordered fun _ _ _ => assigned_lightens
    · exact replaceAll_reduces redacted_unbordered fun _ _ _ => borne_lightens
    · exact replaceAll_reduces redacted_unbordered fun _ _ _ => quoted_lightens
  · obtain ⟨pattern, hpattern, rfl⟩ := List.mem_map.mp hmem
    exact replaceAll_reduces redacted_unbordered fun _ _ _ => secretToken_lightens hpattern

/-- A text without a shape that the redactor replaces by something else. -/
structure FreeOfSecrets (text : JsString) : Prop where
  prefixed : prefixedTokenRe.test text = false
  assigned : ∀ value ∈ segments assignmentName assignedValue text, value = redacted
  borne : (Pattern.both bearerWord borneToken).test text = false
  quoted : ∀ value ∈ segments jsonSecretName jsonSecretValue text, value = redactedValue
  shaped : ∀ pattern ∈ secretTokenPatterns, pattern.test text = false

/-- A pattern that takes no bracket takes no mark. -/
theorem replaceAll_eq_self_iff_of_accepts {head tail : Pattern UInt16}
    (hfinds : ∀ start middle stop, Finds head tail start middle stop →
      Lightens redacted redacted middle stop) (haccepts : tail.accepts 91 = false)
    (text : JsString) :
    replaceAll head tail redacted text = text ↔ (Pattern.both head tail).test text = false := by
  apply replaceAll_eq_self_iff_test redacted_unbordered hfinds
  intro front start middle stop _ _ hfound
  exact hfound.between_ne_of_accepts (by decide) haccepts

theorem secretToken_accepts : ∀ pattern ∈ secretTokenPatterns, pattern.accepts 91 = false := by
  decide

/-- The redactor leaves a text as it is exactly where it is free of secrets. -/
theorem redactSecretLikeText_eq_self_iff (text : JsString) :
    redactSecretLikeText text = text ↔ FreeOfSecrets text := by
  rw [redactSecretLikeText_eq, foldl_eq_self_iff redactionSteps_reduce, redactionSteps,
    List.forall_mem_append, List.forall_mem_map]
  simp only [List.forall_mem_cons, List.not_mem_nil, false_implies, implies_true, and_true]
  have hmarked : replacePattern prefixedTokenRe redacted text = text ↔
      prefixedTokenRe.test text = false := by
    rw [← Pattern.test_both_empty]
    exact replaceAll_eq_self_iff_of_accepts (fun _ _ _ => prefixedToken_lightens) (by decide) text
  have hassigned := replaceAll_eq_self_iff redacted_unbordered
    (fun _ _ _ => assigned_lightens) text
  have hborne := replaceAll_eq_self_iff_of_accepts (fun _ _ _ => borne_lightens) (by decide) text
  have hquoted := replaceAll_eq_self_iff redacted_unbordered (fun _ _ _ => quoted_lightens) text
  have hshaped : ∀ pattern ∈ secretTokenPatterns,
      (replacePattern pattern redacted text = text ↔ pattern.test text = false) := by
    intro pattern hmem
    rw [← Pattern.test_both_empty]
    exact replaceAll_eq_self_iff_of_accepts (fun _ _ _ => secretToken_lightens hmem)
      (secretToken_accepts pattern hmem) text
  rw [hmarked, hassigned, hborne, hquoted]
  constructor
  · rintro ⟨⟨hleading, hassign, hbear, hquote⟩, hshape⟩
    exact ⟨hleading, hassign, hbear, hquote,
      fun pattern hmem => (hshaped pattern hmem).mp (hshape pattern hmem)⟩
  · intro hfree
    exact ⟨⟨hfree.prefixed, hfree.assigned, hfree.borne, hfree.quoted⟩,
      fun pattern hmem => (hshaped pattern hmem).mpr (hfree.shaped pattern hmem)⟩

end OdinSentinel.Validators
