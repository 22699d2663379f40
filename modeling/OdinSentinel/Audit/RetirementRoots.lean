import Mathlib.Data.Bool.AllAny
import OdinSentinel.Audit.TopLevelSpan
import OdinSentinel.Core.Text

/-!
# The exemption of a retirement record's roots

The rule on private planning paths passes over the `roots` that a retirement record names, and
over nothing else of any file.
-/

namespace OdinSentinel.Audit

open JsText Json

/-! ## The rule -/

/-- A letter as the `i` flag compares it. -/
def lowerUnit (unit : UInt16) : UInt16 := if isUpper unit then unit + 32 else unit

def planningPath : JsString := js "project/planning/"

def mentionsPlanning (text : JsString) : Bool :=
  Text.contains (text.map lowerUnit) planningPath

def privatePlanning : Rule where
  name := privatePlanningRule
  test := mentionsPlanning
  exemptFiles := []

/-- The path stands at a place of the text, in letters of either case. -/
def MentionedAt (text : JsString) (place : Nat) : Prop :=
  ∀ k < planningPath.length, (text[place + k]?).map lowerUnit = planningPath[k]?

theorem mentionsPlanning_iff {text : JsString} :
    mentionsPlanning text = true ↔ ∃ place, MentionedAt text place := by
  rw [mentionsPlanning, Text.contains_iff, List.infix_iff_getElem?]
  simp only [MentionedAt, List.getElem?_map]
  constructor
  · rintro ⟨place, -, hplace⟩
    refine ⟨place, fun k hk => ?_⟩
    rw [Nat.add_comm, hplace k hk, List.getElem?_eq_getElem hk]
  · rintro ⟨place, hplace⟩
    refine ⟨place, ?_, fun k hk => ?_⟩
    · have hlast := hplace 16 (by decide)
      by_contra hlong
      rw [List.length_map, show planningPath.length = 17 from rfl] at hlong
      rw [List.getElem?_eq_none (by omega)] at hlast
      exact absurd hlast (by decide)
    · rw [Nat.add_comm, hplace k hk, List.getElem?_eq_getElem hk]

/-! ## The span of the roots -/

/-- Items end with the bracket of their array. -/
def EndsItems (text : JsString) : Phrase → Prop
  | .items _ => ∃ middle, text = middle ++ [93]
  | .value _ | .members _ _ => True

theorem endsItems_of_reads {phrase : Phrase} {text : JsString} (hreads : Reads phrase text) :
    EndsItems text phrase := by
  induction hreads with
  | @lastItem item before text after =>
      exact ⟨before ++ (text ++ after), by simp⟩
  | @item item items before text after rest _ _ _ _ _ ihRest =>
      obtain ⟨middle, rfl⟩ := ihRest
      exact ⟨before ++ (text ++ (after ++ 44 :: middle)), by simp⟩
  | string | word | noItems | array | noMembers | object | lastMember | member => trivial

theorem array_brackets {items : List JsValue} {read : JsString}
    (hread : Reads (.value (.array items)) read) : ∃ middle, read = 91 :: (middle ++ [93]) := by
  cases hread with
  | word hword =>
      rw [parseWord] at hword
      split_ifs at hword <;> simp at hword
  | @noItems blank => exact ⟨blank, rfl⟩
  | array hitems =>
      obtain ⟨middle, rfl⟩ := endsItems_of_reads hitems
      exact ⟨middle, rfl⟩

/-- A file right in the retirements' directory whose text is a retirement record with a list of
texts as its roots. -/
structure IsRetirement (file text : JsString) (items : List JsValue) : Prop where
  path : ∃ name, file = retirementsDir ++ (name ++ js ".json") ∧ name ≠ [] ∧ 47 ∉ name
  record : ∃ fields, Json.parse text = some (.object fields) ∧
    fields.lookup (js "record_type") = some (.string retirementRecordType) ∧
    fields.lookup (js "roots") = some (.array items)
  texts : ∀ item ∈ items, ∃ root, item = .string root

theorem isRetirementPath_iff {file : JsString} : isRetirementPath file = true ↔
    ∃ name, file = retirementsDir ++ (name ++ js ".json") ∧ name ≠ [] ∧ 47 ∉ name := by
  have hunits : ∀ name : JsString, ((name ++ js ".json").all (· != 47)) = true ↔ 47 ∉ name := by
    intro name
    rw [List.all_append, Bool.and_eq_true, List.all_eq_true]
    simp only [bne_iff_ne]
    constructor
    · exact fun hname hmem => hname.1 47 hmem rfl
    · intro hname
      exact ⟨fun unit hmem hunit => hname (hunit ▸ hmem), by decide⟩
  have hlength : ∀ name : JsString, 5 < (name ++ js ".json").length ↔ name ≠ [] := by
    intro name
    rw [List.length_append, show (js ".json").length = 5 from rfl, ← List.length_pos_iff]
    omega
  rw [isRetirementPath, Bool.and_eq_true, List.isPrefixOf_iff_prefix]
  constructor
  · rintro ⟨⟨rest, rfl⟩, hrest⟩
    rw [List.drop_left] at hrest
    simp only [Bool.and_eq_true, List.isSuffixOf_iff_suffix, decide_eq_true_iff] at hrest
    obtain ⟨⟨⟨name, rfl⟩, hsome⟩, hplain⟩ := hrest
    exact ⟨name, rfl, (hlength name).mp hsome, (hunits name).mp hplain⟩
  · rintro ⟨name, rfl, hsome, hplain⟩
    refine ⟨List.prefix_append _ _, ?_⟩
    rw [List.drop_left]
    simp only [Bool.and_eq_true, List.isSuffixOf_iff_suffix, decide_eq_true_iff]
    exact ⟨⟨List.suffix_append _ _, (hlength name).mpr hsome⟩, (hunits name).mpr hplain⟩

theorem asString_eq_some {value : JsValue} {text : JsString} :
    value.asString = some text ↔ value = .string text := by
  cases value <;> simp [JsValue.asString]

theorem field_eq_iff {fields : List (JsString × JsValue)} {name : JsString} {value : JsValue}
    (hvalue : value ≠ .undefined) :
    (JsValue.object fields).field name = value ↔ fields.lookup name = some value := by
  rw [JsValue.field]
  cases fields.lookup name with
  | none => exact iff_of_false hvalue.symm (Option.some_ne_none value).symm
  | some found => exact Option.some_inj.symm

/-- A record as its members show it. -/
theorem isRetirement_iff {file text : JsString} {items : List JsValue}
    {fields : List (JsString × JsValue)} (hparse : Json.parse text = some (.object fields)) :
    IsRetirement file text items ↔ isRetirementPath file = true ∧
      ((JsValue.object fields).field (js "record_type")).asString = some retirementRecordType ∧
      (JsValue.object fields).field (js "roots") = .array items ∧
      (items.all fun item => item.asString.isSome) = true := by
  rw [isRetirementPath_iff, asString_eq_some, field_eq_iff JsValue.noConfusion,
    field_eq_iff JsValue.noConfusion, List.all_eq_true]
  simp only [Option.isSome_iff_exists, asString_eq_some]
  constructor
  · rintro ⟨hpath, ⟨found, hfound, htype, hroots⟩, htexts⟩
    obtain rfl : fields = found := JsValue.object.inj (Option.some.inj (hparse.symm.trans hfound))
    exact ⟨hpath, htype, hroots, htexts⟩
  · rintro ⟨hpath, htype, hroots, htexts⟩
    exact ⟨hpath, ⟨fields, hparse, htype, hroots⟩, htexts⟩

theorem exemptRoots_eq_some {file text : JsString} {items : List JsValue} :
    exemptRoots file text = some items ↔ IsRetirement file text items := by
  have hother : (∀ fields, Json.parse text ≠ some (.object fields)) →
      ¬IsRetirement file text items := by
    rintro hnone ⟨-, ⟨fields, hfields, -⟩, -⟩
    exact hnone fields hfields
  rw [exemptRoots]
  by_cases hpath : isRetirementPath file = true
  · rw [if_pos hpath]
    cases hparse : Json.parse text with
    | none =>
        refine iff_of_false (Option.some_ne_none items).symm (hother fun fields => ?_)
        rw [hparse]
        exact (Option.some_ne_none _).symm
    | some value =>
        cases value with
        | object fields =>
            rw [isRetirement_iff hparse]
            simp only [hpath, true_and]
            generalize (JsValue.object fields).field (js "roots") = roots
            by_cases htype : ((JsValue.object fields).field (js "record_type")).asString =
                some retirementRecordType
            · simp only [htype, if_true, true_and]
              cases roots with
              | array found =>
                  simp only [Option.ite_none_right_eq_some, Option.some.injEq, JsValue.array.injEq]
                  constructor
                  · rintro ⟨htexts, rfl⟩
                    exact ⟨rfl, htexts⟩
                  · rintro ⟨rfl, htexts⟩
                    exact ⟨htexts, rfl⟩
              | _ => simp
            · simp only [htype, if_false, false_and]
              simp
        | _ =>
            refine iff_of_false (Option.some_ne_none items).symm (hother fun fields => ?_)
            rw [hparse]
            simp
  · rw [if_neg hpath]
    refine iff_of_false (Option.some_ne_none items).symm fun hretired => hpath ?_
    exact isRetirementPath_iff.mpr hretired.path

/-- Where the roots are exempt, the scan finds their array. -/
theorem span_of_exempt {file text : JsString} {items : List JsValue}
    (hexempt : exemptRoots file text = some items) :
    ∃ before middle after, text = before ++ (91 :: (middle ++ [93]) ++ after) ∧
      topLevelValueSpan text (js "roots") =
        some (before.length, before.length + (91 :: (middle ++ [93])).length) := by
  obtain ⟨fields, hparse, -, hlookup⟩ := (exemptRoots_eq_some.mp hexempt).record
  have hmarks := marks_topLevelValueSpan (js "roots") hparse
  cases hspan : topLevelValueSpan text (js "roots") with
  | none =>
      rw [hspan] at hmarks
      exact absurd (hlookup.symm.trans hmarks) nofun
  | some pair =>
      rw [hspan] at hmarks
      obtain ⟨start, stop⟩ := pair
      obtain ⟨before, read, after, value, hplace, rfl, rfl⟩ := hmarks
      have hvalue : JsValue.array items = value :=
        Option.some.inj (hlookup.symm.trans hplace.lookup_eq)
      obtain ⟨middle, rfl⟩ := array_brackets (hvalue ▸ hplace.reads)
      exact ⟨before, middle, after, hplace.text_eq, rfl⟩

/-- A place inside the exempt roots of a file. -/
def Exempt (file text : JsString) (place : Nat) : Prop :=
  ∃ items start stop, IsRetirement file text items ∧
    topLevelValueSpan text (js "roots") = some (start, stop) ∧ start ≤ place ∧
    place + planningPath.length ≤ stop

/-! ## The mask -/

theorem maskRetirementRoots_plain {file text : JsString} (hexempt : exemptRoots file text = none) :
    maskRetirementRoots file text = text := by
  rw [maskRetirementRoots, hexempt]

/-- With exempt roots, the mask blanks their array and leaves every other code unit. -/
theorem maskRetirementRoots_exempt {file text : JsString} {items : List JsValue}
    (hexempt : exemptRoots file text = some items) :
    ∃ before middle after, text = before ++ (91 :: (middle ++ [93]) ++ after) ∧
      topLevelValueSpan text (js "roots") =
        some (before.length, before.length + (91 :: (middle ++ [93])).length) ∧
      maskRetirementRoots file text =
        before ++ (List.replicate (91 :: (middle ++ [93])).length 32 ++ after) := by
  obtain ⟨before, middle, after, htext, hspan⟩ := span_of_exempt hexempt
  refine ⟨before, middle, after, htext, hspan, ?_⟩
  have hdrop : text.drop before.length = 91 :: (middle ++ [93]) ++ after := by
    rw [htext, List.drop_left]
  have hbehind : text.drop (before.length + (91 :: (middle ++ [93])).length) = after :=
    drop_of_drop hdrop
  have hfront : slice text 0 before.length = before := by
    rw [slice, List.drop_zero, htext, List.take_left]
  have hhead : text[before.length]? = some 91 := getElem?_of_drop hdrop
  rw [maskRetirementRoots, hexempt]
  simp only [hspan, hhead, if_true]
  rw [hfront, hbehind, Nat.add_sub_cancel_left, List.append_assoc]

/-- The path has neither a space nor a bracket, so that no place of it can straddle the end of
an array or of a blank. -/
theorem MentionedAt.unit_ne {text : JsString} {place k : Nat} {unit : UInt16}
    (hplace : MentionedAt text place) (hk : k < planningPath.length)
    (hunit : text[place + k]? = some unit) : unit ≠ 32 ∧ unit ≠ 91 ∧ unit ≠ 93 := by
  have hunits : ∀ unit ∈ planningPath, unit ≠ 32 ∧ unit ≠ 91 ∧ unit ≠ 93 :=
    List.all_iff_forall_prop.mp (by decide)
  have hlowered := hplace k hk
  rw [hunit, Option.map_some] at hlowered
  have hmem := hunits (lowerUnit unit) (List.mem_of_getElem? hlowered.symm)
  refine ⟨?_, ?_, ?_⟩ <;> rintro rfl
  · exact hmem.1 rfl
  · exact hmem.2.1 rfl
  · exact hmem.2.2 rfl

section Masked

variable {before middle after : JsString}

theorem getElem?_blanked {block : JsString} (j : Nat)
    (hj : ¬(before.length ≤ j ∧ j < before.length + block.length)) :
    (before ++ (List.replicate block.length 32 ++ after))[j]? =
      (before ++ (block ++ after))[j]? := by
  by_cases hbefore : j < before.length
  · rw [List.getElem?_append_left hbefore, List.getElem?_append_left hbefore]
  · have hblank : (List.replicate block.length (32 : UInt16)).length ≤ j - before.length := by
      rw [List.length_replicate]
      omega
    have hblock : block.length ≤ j - before.length := by omega
    rw [List.getElem?_append_right (Nat.le_of_not_lt hbefore), List.getElem?_append_right hblank,
      List.getElem?_append_right (Nat.le_of_not_lt hbefore), List.getElem?_append_right hblock,
      List.length_replicate]

theorem getElem?_blank {block : JsString} {j : Nat} (hbefore : before.length ≤ j)
    (hblock : j < before.length + block.length) :
    (before ++ (List.replicate block.length 32 ++ after))[j]? = some 32 := by
  rw [List.getElem?_append_right hbefore,
    List.getElem?_append_left (by rw [List.length_replicate]; omega)]
  exact List.getElem?_replicate_of_lt (by omega)

/-- What the rule sees of the masked text are the places of the text outside the array. -/
theorem mentionedAt_masked (place : Nat) :
    MentionedAt (before ++ (List.replicate (91 :: (middle ++ [93])).length 32 ++ after)) place ↔
      MentionedAt (before ++ (91 :: (middle ++ [93]) ++ after)) place ∧
        ¬(before.length ≤ place ∧
          place + planningPath.length ≤ before.length + (91 :: (middle ++ [93])).length) := by
  constructor
  · intro hplace
    have houtside : ∀ k < planningPath.length, ¬(before.length ≤ place + k ∧
        place + k < before.length + (91 :: (middle ++ [93])).length) := by
      intro k hk hinside
      exact (hplace.unit_ne hk (getElem?_blank hinside.1 hinside.2)).1 rfl
    refine ⟨fun k hk => ?_, fun hinside => ?_⟩
    · rw [← getElem?_blanked (place + k) (houtside k hk)]
      exact hplace k hk
    · have hpath : 0 < planningPath.length := by decide
      exact houtside 0 hpath ⟨hinside.1, by omega⟩
  · rintro ⟨hplace, hspan⟩ k hk
    have hopening : (before ++ (91 :: (middle ++ [93]) ++ after))[before.length]? = some 91 :=
      getElem?_of_drop List.drop_left
    have hclosing : (before ++ (91 :: (middle ++ [93]) ++ after))[before.length +
        (91 :: middle).length]? = some 93 := by
      have hdrop : (before ++ (91 :: (middle ++ [93]) ++ after)).drop
          (before.length + (91 :: middle).length) = 93 :: after := by
        rw [← List.drop_drop, List.drop_left]
        simp
      exact getElem?_of_drop hdrop
    have hlength : (91 :: (middle ++ [93])).length = (91 :: middle).length + 1 := by simp
    rw [getElem?_blanked]
    · exact hplace k hk
    · rintro ⟨hlow, hhigh⟩
      by_cases hstart : before.length ≤ place
      · have hoffset : place + (before.length + (91 :: middle).length - place) =
            before.length + (91 :: middle).length := by omega
        rw [← hoffset] at hclosing
        exact (hplace.unit_ne (by omega) hclosing).2.2 rfl
      · have hoffset : place + (before.length - place) = before.length := by omega
        rw [← hoffset] at hopening
        exact (hplace.unit_ne (by omega) hopening).2.1 rfl

end Masked

/-- The rule reports a file for the places of the path that its exempt roots do not hold. -/
theorem mentionsPlanning_masked (file text : JsString) :
    mentionsPlanning (maskRetirementRoots file text) = true ↔
      ∃ place, MentionedAt text place ∧ ¬Exempt file text place := by
  rw [mentionsPlanning_iff]
  cases hexempt : exemptRoots file text with
  | none =>
      rw [maskRetirementRoots_plain hexempt]
      apply exists_congr
      intro place
      have hnone : ¬Exempt file text place := by
        rintro ⟨items, -, -, hsome, -⟩
        rw [exemptRoots_eq_some.mpr hsome] at hexempt
        cases hexempt
      exact (and_iff_left hnone).symm
  | some items =>
      obtain ⟨before, middle, after, htext, hspan, hmask⟩ := maskRetirementRoots_exempt hexempt
      rw [hmask]
      apply exists_congr
      intro place
      have hplace : Exempt file text place ↔ before.length ≤ place ∧
          place + planningPath.length ≤ before.length + (91 :: (middle ++ [93])).length := by
        constructor
        · rintro ⟨_, start, stop, -, hfound, hinside⟩
          cases hspan.symm.trans hfound
          exact hinside
        · intro hinside
          exact ⟨items, _, _, exemptRoots_eq_some.mp hexempt, hspan, hinside⟩
      rw [mentionedAt_masked, ← htext, hplace]

/-! ## The audit -/

/-- What the audit asks of a public file. -/
structure Clean (others : List Rule) (file text : JsString) : Prop where
  notForbidden : ∀ dir ∈ forbiddenPublicPrefixes, ¬dir <+: file
  rules : ∀ rule ∈ others, file ∉ rule.exemptFiles → rule.test text = false
  planning : ∀ place, MentionedAt text place → Exempt file text place

theorem auditFile_eq_nil_iff {before after : List Rule}
    (hothers : ∀ rule ∈ before ++ after, rule.name ≠ privatePlanningRule) (file text : JsString) :
    auditFile (before ++ privatePlanning :: after) file text = [] ↔
      (isPublicAuditFile file = true → Clean (before ++ after) file text) := by
  have hplanning : mentionsPlanning (maskRetirementRoots file text) = false ↔
      ∀ place, MentionedAt text place → Exempt file text place := by
    rw [← Bool.not_eq_true, mentionsPlanning_masked]
    simp only [not_exists, not_and, not_not]
  rw [auditFile]
  by_cases hpublic : isPublicAuditFile file = true
  · rw [if_pos hpublic]
    by_cases hforbidden : (forbiddenPublicPrefixes.any fun dir => dir.isPrefixOf file) = true
    · rw [if_pos hforbidden]
      obtain ⟨dir, hdir, hfile⟩ := List.any_eq_true.mp hforbidden
      apply iff_of_false (List.cons_ne_nil _ _)
      intro hclean
      exact (hclean hpublic).notForbidden dir hdir (List.isPrefixOf_iff_prefix.mp hfile)
    · rw [if_neg hforbidden, List.filterMap_eq_nil_iff]
      constructor
      · intro hnone _
        refine ⟨fun dir hdir hfile => hforbidden (List.any_eq_true.mpr
          ⟨dir, hdir, List.isPrefixOf_iff_prefix.mpr hfile⟩), ?_, ?_⟩
        · intro rule hrule hexempt
          have hfinding := hnone rule (by
            rcases List.mem_append.mp hrule with hbefore | hafter
            · exact List.mem_append_left _ hbefore
            · exact List.mem_append_right _ (List.mem_cons_of_mem _ hafter))
          rw [if_neg (by simpa using hexempt), if_neg (hothers rule hrule)] at hfinding
          by_contra htest
          rw [Bool.not_eq_false] at htest
          simp [htest] at hfinding
        · have hfinding := hnone privatePlanning (by simp)
          rw [if_neg (by simp [privatePlanning])] at hfinding
          apply hplanning.mp
          by_contra htest
          rw [Bool.not_eq_false] at htest
          simp [privatePlanning, htest] at hfinding
      · intro hclean rule hrule
        have hfile := hclean hpublic
        by_cases hexempt : file ∈ rule.exemptFiles
        · rw [if_pos (by simpa using hexempt)]
        · rw [if_neg (by simpa using hexempt)]
          rcases List.mem_append.mp hrule with hbefore | hrest
          · have hmem := List.mem_append_left after hbefore
            simp only [if_neg (hothers rule hmem), hfile.rules rule hmem hexempt]
            rfl
          · rcases List.mem_cons.mp hrest with rfl | hafter
            · simp only [privatePlanning, if_true, hplanning.mpr hfile.planning]
              rfl
            · have hmem := List.mem_append_right before hafter
              simp only [if_neg (hothers rule hmem), hfile.rules rule hmem hexempt]
              rfl
  · rw [if_neg hpublic]
    exact iff_of_true rfl fun hfile => absurd hfile hpublic

/-- The audit passes exactly where every public file is clean: no handoff, none of the other
rules' patterns outside the files exempt from them, and the private planning path only inside
the `roots` of a retirement record. -/
theorem auditPublicSurface_eq_nil_iff {before after : List Rule}
    (hothers : ∀ rule ∈ before ++ after, rule.name ≠ privatePlanningRule)
    (fileTextByPath : List (JsString × JsString)) :
    auditPublicSurface (before ++ privatePlanning :: after) fileTextByPath = [] ↔
      ∀ entry ∈ fileTextByPath, isPublicAuditFile entry.1 = true →
        Clean (before ++ after) entry.1 entry.2 := by
  rw [auditPublicSurface, List.flatMap_eq_nil_iff]
  exact forall₂_congr fun entry _ => auditFile_eq_nil_iff hothers entry.1 entry.2

def bundledDoc : List JsString :=
  ["README.md", "docs/guides/quickstart-prompts.md", "protocol/bootstrap-skill.md",
    "protocol/skill-references/harness-skill-targets.md", "plugins/odin-scp/skills/odin-scp/SKILL.md",
    "plugins/odin-scp/skills/odin-scp/references/harness-skill-targets.md",
    "plugins/odin-scp/skills/odin-scp/scripts/sync-installations.sh"].map js

def tildeHomePath : Rule where
  name := js "tilde home path"
  test := fun text => Text.contains text (js "~/")
  exemptFiles := bundledDoc

/-- A retirement record that names a planning directory among its roots. -/
def planningRetired : List (JsString × JsString) :=
  [(js "charter/retirements/plans.json",
    js "\x7b\"record_type\":\"mister-clean.retirement\",\"roots\":[\"Project/planning/a\"]\x7d")]

theorem planningRetired_clean :
    auditPublicSurface ([tildeHomePath] ++ privatePlanning :: []) planningRetired = [] ∧
      ∀ entry ∈ planningRetired, isPublicAuditFile entry.1 = true →
        Clean ([tildeHomePath] ++ []) entry.1 entry.2 := by
  have hquiet : auditPublicSurface ([tildeHomePath] ++ privatePlanning :: []) planningRetired =
      [] := by decide +kernel
  have hothers : ∀ rule ∈ [tildeHomePath] ++ [], rule.name ≠ privatePlanningRule := by decide
  exact ⟨hquiet, (auditPublicSurface_eq_nil_iff hothers planningRetired).mp hquiet⟩

end OdinSentinel.Audit
