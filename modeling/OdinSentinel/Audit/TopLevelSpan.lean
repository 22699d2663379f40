import Mathlib.Data.Bool.AllAny
import OdinSentinel.Audit.PublicSurface

/-!
# The span of a top-level value

On the text of a JSON object the light scan finds the very value that `JSON.parse` reads
under the name, and nothing deeper.
-/

namespace OdinSentinel.Audit

open JsText Json

/-! ## Positions -/

section Positions

variable {text blank rest : JsString} {unit : UInt16} {i : Nat}

theorem getElem?_of_drop (hi : text.drop i = unit :: rest) : text[i]? = some unit := by
  have hzero : (text.drop i)[0]? = some unit := by rw [hi]; rfl
  rw [List.getElem?_drop] at hzero
  exact hzero

theorem drop_of_drop {front : JsString} (hi : text.drop i = front ++ rest) :
    text.drop (i + front.length) = rest := by
  rw [← List.drop_drop, hi, List.drop_left]

theorem drop_succ_of_drop (hi : text.drop i = unit :: rest) : text.drop (i + 1) = rest := by
  rw [← List.drop_drop, hi]
  rfl

theorem slice_of_drop {front : JsString} (hi : text.drop i = front ++ rest) :
    slice text i (i + front.length) = front := by
  rw [slice, List.drop_take, hi, Nat.add_sub_cancel_left, List.take_left]

theorem isSpace_of_isBlank (hunit : isBlank unit = true) : isSpace unit = true := by
  simp only [isBlank, Bool.or_eq_true, beq_iff_eq] at hunit
  rcases hunit with ((rfl | rfl) | rfl) | rfl <;> rfl

/-- The white space of JSON is skipped up to what stands behind it. -/
theorem skipSpaces_of_drop (hblank : Blank blank) (hunit : isSpace unit = false)
    (hi : text.drop i = blank ++ unit :: rest) :
    skipSpaces text i = i + blank.length := by
  have hspaces : ∀ unit ∈ blank, isSpace unit = true :=
    fun unit hmem => isSpace_of_isBlank (hblank unit hmem)
  rw [skipSpaces, hi, List.takeWhile_append_of_pos hspaces, List.takeWhile_cons, hunit]
  simp

end Positions

/-! ## Strings -/

theorem hexDigit_plain {unit : UInt16} {value : Nat} (hunit : hexDigit unit = some value) :
    unit ≠ 92 ∧ unit ≠ 34 := by
  constructor <;> rintro rfl <;> simp [hexDigit] at hunit

theorem stringTail_close (rest : JsString) : stringTail (34 :: rest) = 1 := by
  rw [stringTail.eq_def]
  exact (if_neg (by decide)).trans (if_pos rfl)

theorem stringTail_escape (unit : UInt16) (rest : JsString) :
    stringTail (92 :: unit :: rest) = 2 + stringTail rest := by
  rw [stringTail.eq_def]
  exact if_pos rfl

theorem stringTail_plain {unit : UInt16} (hescape : unit ≠ 92) (hquote : unit ≠ 34)
    (rest : JsString) : stringTail (unit :: rest) = 1 + stringTail rest := by
  rw [stringTail.eq_def]
  exact (if_neg hescape).trans (if_neg hquote)

theorem stringTail_hex {first second third fourth unit : UInt16}
    (hunit : hexUnit first second third fourth = some unit) (rest : JsString) :
    stringTail (first :: second :: third :: fourth :: rest) = 4 + stringTail rest := by
  simp only [hexUnit, Option.bind_eq_bind, Option.bind_eq_some_iff] at hunit
  obtain ⟨_, hfirst, _, hsecond, _, hthird, _, hfourth, -⟩ := hunit
  rw [stringTail_plain (hexDigit_plain hfirst).1 (hexDigit_plain hfirst).2,
    stringTail_plain (hexDigit_plain hsecond).1 (hexDigit_plain hsecond).2,
    stringTail_plain (hexDigit_plain hthird).1 (hexDigit_plain hthird).2,
    stringTail_plain (hexDigit_plain hfourth).1 (hexDigit_plain hfourth).2]
  omega

/-- The scan of a string ends where the parser's does. -/
theorem stringTail_of_parseQuoted {text value rest : JsString}
    (hquoted : parseQuoted text = some (value, rest)) :
    text.length = stringTail text + rest.length := by
  induction text using parseQuoted.induct generalizing value with
  | case1 => cases hquoted
  | case2 tail =>
      rw [parseQuoted_close] at hquoted
      cases hquoted
      rw [stringTail_close, List.length_cons, Nat.add_comm]
  | case3 => cases hquoted
  | case4 first second third fourth tail unit hunit _ ih =>
      rw [parseQuoted_unicode hunit] at hquoted
      obtain ⟨last, hlast, -⟩ := prepend_eq_some hquoted
      have htail := ih hlast
      rw [stringTail_escape, stringTail_hex hunit]
      simp only [List.length_cons]
      omega
  | case5 first second third fourth tail hunit =>
      rw [parseQuoted.eq_def] at hquoted
      simp [hunit] at hquoted
  | case6 tail hshort =>
      rw [parseQuoted.eq_def] at hquoted
      simp only [show ¬(92 : UInt16) = 34 by decide, if_true, if_false] at hquoted
      cases hquoted
  | case7 letter tail hletter unit hunit _ ih =>
      rw [parseQuoted_letter hletter hunit] at hquoted
      obtain ⟨last, hlast, -⟩ := prepend_eq_some hquoted
      have htail := ih hlast
      rw [stringTail_escape]
      simp only [List.length_cons]
      omega
  | case8 letter tail hletter hunit =>
      rw [parseQuoted.eq_def] at hquoted
      simp [hletter, hunit] at hquoted
  | case9 unit tail hquote hescape hcontrol =>
      rw [parseQuoted.eq_def] at hquoted
      simp [hquote, hescape, hcontrol] at hquoted
  | case10 unit tail hquote hescape hcontrol ih =>
      rw [parseQuoted_plain hquote hescape hcontrol] at hquoted
      obtain ⟨last, hlast, -⟩ := prepend_eq_some hquoted
      have htail := ih hlast
      rw [stringTail_plain hescape hquote]
      simp only [List.length_cons]
      omega

theorem stringTail_append {body name : JsString} (hname : parseQuoted body = some (name, []))
    (rest : JsString) : stringTail (body ++ rest) = body.length := by
  have hlength := stringTail_of_parseQuoted (parseQuoted_append hname rest)
  rw [List.length_append] at hlength
  omega

/-! ## Brackets -/

/-- What the scan counts inside `depth` brackets, with a round for every code unit. -/
def nested (depth : Int) (text : JsString) : Nat := nestedTail text.length depth text

theorem nestedTail_enough (fuel : Nat) : ∀ (depth : Int) (text : JsString),
    text.length ≤ fuel → nestedTail fuel depth text = nested depth text := by
  induction fuel using Nat.strong_induction_on with
  | _ fuel ih =>
      intro depth text hfuel
      cases text with
      | nil => cases fuel <;> rfl
      | cons unit rest =>
          cases fuel with
          | zero => cases hfuel
          | succ fuel =>
              have hrest : rest.length ≤ fuel := Nat.le_of_succ_le_succ hfuel
              have hdrop : (rest.drop (stringTail rest)).length ≤ rest.length := by
                rw [List.length_drop]
                exact Nat.sub_le _ _
              have hshort : ∀ depth (tail : JsString), tail.length ≤ rest.length →
                  nestedTail fuel depth tail = nestedTail rest.length depth tail := by
                intro depth tail htail
                rw [ih fuel (Nat.lt_succ_self fuel) depth tail (htail.trans hrest),
                  ih rest.length (Nat.lt_succ_of_le hrest) depth tail htail]
              rw [nested, List.length_cons, nestedTail, nestedTail, hshort _ _ hdrop,
                hshort _ _ le_rfl, hshort _ _ le_rfl, hshort _ _ le_rfl]

theorem nested_cons (depth : Int) (unit : UInt16) (rest : JsString) :
    nested depth (unit :: rest) =
      if unit = 34 then
        1 + stringTail rest + nested depth (rest.drop (stringTail rest))
      else if unit = 123 ∨ unit = 91 then 1 + nested (depth + 1) rest
      else if unit = 125 ∨ unit = 93 then
        if depth - 1 = 0 then 1 else 1 + nested (depth - 1) rest
      else 1 + nested depth rest := by
  have hdrop : (rest.drop (stringTail rest)).length ≤ rest.length := by
    rw [List.length_drop]
    exact Nat.sub_le _ _
  rw [nested, List.length_cons, nestedTail, nestedTail_enough _ _ _ hdrop,
    nestedTail_enough _ _ _ le_rfl, nestedTail_enough _ _ _ le_rfl,
    nestedTail_enough _ _ _ le_rfl]

theorem nested_string {body name : JsString} (hname : parseQuoted body = some (name, []))
    (depth : Int) (rest : JsString) :
    nested depth (34 :: (body ++ rest)) = 1 + body.length + nested depth rest := by
  rw [nested_cons, if_pos rfl, stringTail_append hname, List.drop_left]

theorem nested_open {unit : UInt16} (hunit : unit = 123 ∨ unit = 91) (depth : Int)
    (rest : JsString) : nested depth (unit :: rest) = 1 + nested (depth + 1) rest := by
  have hquote : unit ≠ 34 := by rcases hunit with rfl | rfl <;> decide
  rw [nested_cons, if_neg hquote, if_pos hunit]

theorem nested_close {unit : UInt16} (hunit : unit = 125 ∨ unit = 93) (depth : Int)
    (rest : JsString) : nested depth (unit :: rest) =
      1 + if depth = 1 then 0 else nested (depth - 1) rest := by
  have hopen : unit ≠ 34 ∧ ¬(unit = 123 ∨ unit = 91) := by
    rcases hunit with rfl | rfl <;> decide
  rw [nested_cons, if_neg hopen.1, if_neg hopen.2, if_pos hunit]
  by_cases hdepth : depth = 1
  · rw [if_pos (by omega), if_pos hdepth]
  · rw [if_neg (by omega), if_neg hdepth]

/-- Neither a quote nor a bracket. -/
def isPlain (unit : UInt16) : Bool :=
  !(unit == 34 || unit == 123 || unit == 91 || unit == 125 || unit == 93)

theorem nested_plain {front : JsString} (hfront : ∀ unit ∈ front, isPlain unit = true)
    (depth : Int) (rest : JsString) :
    nested depth (front ++ rest) = front.length + nested depth rest := by
  induction front with
  | nil => exact (Nat.zero_add _).symm
  | cons unit front ih =>
      have hunit := hfront unit List.mem_cons_self
      simp only [isPlain, Bool.not_eq_true', Bool.or_eq_false_iff, beq_eq_false_iff_ne] at hunit
      obtain ⟨⟨⟨⟨hquote, hbrace⟩, hbracket⟩, hcloseBrace⟩, hcloseBracket⟩ := hunit
      rw [List.cons_append, nested_cons, if_neg hquote, if_neg (by simp [hbrace, hbracket]),
        if_neg (by simp [hcloseBrace, hcloseBracket]),
        ih fun unit hmem => hfront unit (List.mem_cons_of_mem _ hmem), List.length_cons]
      omega

theorem isPlain_blank {blank : JsString} (hblank : Blank blank) :
    ∀ unit ∈ blank, isPlain unit = true := by
  intro unit hunit
  have hspace := hblank unit hunit
  simp only [isBlank, Bool.or_eq_true, beq_iff_eq] at hspace
  rcases hspace with ((rfl | rfl) | rfl) | rfl <;> rfl

theorem isPlain_word {value : JsValue} {word : JsString}
    (hword : parseWord word = some (value, [])) : ∀ unit ∈ word, isPlain unit = true := by
  intro unit hunit
  obtain ⟨-, hquote, hbracket, hbrace, hcloseBracket, hcloseBrace⟩ :=
    blank_not_wordUnit ((word_units hword).2 unit hunit)
  simp [isPlain, hquote, hbracket, hbrace, hcloseBracket, hcloseBrace]

theorem nested_blank {blank : JsString} (hblank : Blank blank) (depth : Int) (rest : JsString) :
    nested depth (blank ++ rest) = blank.length + nested depth rest :=
  nested_plain (isPlain_blank hblank) depth rest

theorem nested_separator {unit : UInt16} (hunit : isPlain unit = true) (depth : Int)
    (rest : JsString) : nested depth (unit :: rest) = 1 + nested depth rest :=
  @nested_plain [unit] (by simpa using hunit) depth rest

/-- Up to the bracket that closes the ones they stand in. -/
def Encloses (body : JsString) : Prop :=
  ∀ (depth : Int) (rest : JsString), 0 < depth →
    nested depth (body ++ rest) = body.length + if depth = 1 then 0 else nested (depth - 1) rest

/-- Inside brackets the scan crosses a value, and leaves with the items of an array or the
members of an object the bracket that they stand in. -/
def Crosses (text : JsString) : Phrase → Prop
  | .value _ => ∀ (depth : Int) (rest : JsString), 0 < depth →
      nested depth (text ++ rest) = text.length + nested depth rest
  | .items _ | .members _ _ => Encloses text

theorem encloses_empty {blank : JsString} (hblank : Blank blank) {unit : UInt16}
    (hunit : unit = 125 ∨ unit = 93) : Encloses (blank ++ [unit]) := by
  intro depth rest _
  rw [List.append_assoc, nested_blank hblank, List.singleton_append, nested_close hunit,
    List.length_append, List.length_singleton, Nat.add_assoc]

theorem crosses_bracket {unit : UInt16} (hunit : unit = 123 ∨ unit = 91) {body : JsString}
    (hbody : Encloses body) {depth : Int} (hdepth : 0 < depth) (rest : JsString) :
    nested depth (unit :: (body ++ rest)) = (unit :: body).length + nested depth rest := by
  rw [nested_open hunit, hbody (depth + 1) rest (by omega), if_neg (by omega),
    Int.add_sub_cancel, List.length_cons]
  omega

theorem crosses_of_reads {phrase : Phrase} {text : JsString} (hreads : Reads phrase text) :
    Crosses text phrase := by
  induction hreads with
  | string hquoted =>
      intro depth rest _
      rw [List.cons_append, nested_string hquoted, List.length_cons, Nat.add_comm 1]
  | word hword =>
      intro depth rest _
      exact nested_plain (isPlain_word hword) depth rest
  | noItems hblank =>
      intro depth rest hdepth
      exact crosses_bracket (Or.inr rfl) (encloses_empty hblank (Or.inr rfl)) hdepth rest
  | noMembers hblank =>
      intro depth rest hdepth
      exact crosses_bracket (Or.inl rfl) (encloses_empty hblank (Or.inl rfl)) hdepth rest
  | array _ ih =>
      intro depth rest hdepth
      exact crosses_bracket (Or.inr rfl) ih hdepth rest
  | object _ ih =>
      intro depth rest hdepth
      exact crosses_bracket (Or.inl rfl) ih hdepth rest
  | lastItem hbefore _ hafter ih =>
      intro depth rest hdepth
      simp only [List.append_assoc, List.singleton_append, nested_blank hbefore,
        ih depth _ hdepth, nested_blank hafter, nested_close (Or.inr rfl),
        List.length_append, List.length_singleton]
      omega
  | item hbefore _ hafter _ ih ihRest =>
      intro depth rest hdepth
      simp only [List.append_assoc, List.cons_append, nested_blank hbefore,
        ih depth _ hdepth, nested_blank hafter, @nested_separator 44 rfl,
        ihRest depth _ hdepth, List.length_append, List.length_cons]
      omega
  | lastMember hbefore hname hcolon hbetween _ hafter ih =>
      intro depth rest hdepth
      simp only [List.append_assoc, List.cons_append, List.nil_append, nested_blank hbefore,
        nested_string hname, nested_blank hcolon, @nested_separator 58 rfl,
        nested_blank hbetween, ih depth _ hdepth, nested_blank hafter,
        nested_close (Or.inl rfl), List.length_append, List.length_cons, List.length_nil]
      omega
  | member hbefore hname hcolon hbetween _ hafter _ ih ihRest =>
      intro depth rest hdepth
      simp only [List.append_assoc, List.cons_append, nested_blank hbefore,
        nested_string hname, nested_blank hcolon, @nested_separator 58 rfl,
        nested_blank hbetween, ih depth _ hdepth, nested_blank hafter,
        @nested_separator 44 rfl, ihRest depth _ hdepth, List.length_append,
        List.length_cons]
      omega

/-! ## Values -/

theorem endsScalar_word {unit : UInt16} (hunit : isWordUnit unit = true) :
    endsScalar unit = false := by
  have hcode : 43 ≤ unit.toNat ∧ unit.toNat ≤ 117 ∧ unit ≠ 44 ∧ unit ≠ 93 := by
    rw [isWordUnit, Bool.or_eq_true] at hunit
    rcases hunit with hnumber | hletter
    · simp only [isNumberUnit, isDigit, Bool.or_eq_true, Bool.and_eq_true, decide_eq_true_eq,
        beq_iff_eq] at hnumber
      rcases hnumber with ((((⟨hlow, hhigh⟩ | rfl) | rfl) | rfl) | rfl) | rfl
      · refine ⟨by omega, by omega, ?_, ?_⟩ <;> rintro rfl <;> contradiction
      all_goals decide
    · have hletters : ∀ letter ∈ js "truefalsn",
          (43 ≤ letter.toNat ∧ letter.toNat ≤ 117 ∧ letter ≠ 44 ∧ letter ≠ 93) :=
        List.all_iff_forall_prop.mp (by decide)
      exact hletters unit (List.contains_iff_mem.mp hletter)
  obtain ⟨hlow, hhigh, hcomma, hbracket⟩ := hcode
  have hbrace : unit ≠ 125 := by
    rintro rfl
    exact absurd hhigh (by decide)
  have hspace : isSpace unit = false := by
    simp only [isSpace, isSpaceCode, Bool.or_eq_false_iff, Bool.and_eq_false_iff,
      decide_eq_false_iff_not, beq_eq_false_iff_ne]
    omega
  simp [endsScalar, hspace, hcomma, hbrace, hbracket]

theorem value_head {value : JsValue} {read : JsString} (hread : Reads (.value value) read) :
    ∃ unit tail, read = unit :: tail ∧ isSpace unit = false := by
  cases hread with
  | string => exact ⟨34, _, rfl, rfl⟩
  | noItems | array => exact ⟨91, _, rfl, rfl⟩
  | noMembers | object => exact ⟨123, _, rfl, rfl⟩
  | word hword =>
      obtain ⟨hsome, hunits⟩ := word_units hword
      cases read with
      | nil => exact absurd rfl hsome
      | cons unit tail =>
          have hends := endsScalar_word (hunits unit List.mem_cons_self)
          simp only [endsScalar, Bool.or_eq_false_iff] at hends
          exact ⟨unit, tail, rfl, hends.1.1.1⟩

section Values

variable {text read rest body : JsString} {value : JsValue} {i : Nat}

theorem skipSpaces_value (hread : Reads (.value value) read) (hi : text.drop i = read ++ rest) :
    skipSpaces text i = i := by
  obtain ⟨unit, tail, rfl, hunit⟩ := value_head hread
  exact skipSpaces_of_drop blank_nil hunit hi

theorem skipJsonValue_bracket {unit : UInt16} (hunit : unit = 123 ∨ unit = 91)
    (hbody : Encloses body) (hspaces : skipSpaces text i = i)
    (hi : text.drop i = unit :: body ++ rest) :
    skipJsonValue text i = i + (unit :: body).length := by
  have hhead : text[i]? = some unit := getElem?_of_drop hi
  have hquote : unit ≠ 34 := by rcases hunit with rfl | rfl <;> decide
  have hbracket : some unit = some 123 ∨ some unit = some 91 := by
    rcases hunit with rfl | rfl
    · exact Or.inl rfl
    · exact Or.inr rfl
  have hlength : (unit :: (body ++ rest)).length ≤ text.length := by
    rw [← List.cons_append, ← hi, List.length_drop]
    exact Nat.sub_le _ _
  have hnested : nestedTail text.length 0 (text.drop i) = (unit :: body).length := by
    rw [hi, List.cons_append, nestedTail_enough _ _ _ hlength, nested_open hunit, Int.zero_add,
      hbody 1 rest Int.one_pos, if_pos rfl, List.length_cons]
    omega
  simp only [skipJsonValue, hspaces, hhead, Option.some.injEq, if_neg hquote]
  rw [if_pos (by simpa using hbracket), hnested]

/-- The scan of a value ends where the parser's does. -/
theorem skipJsonValue_of_drop (hread : Reads (.value value) read)
    (hrest : ∃ unit tail, rest = unit :: tail ∧ endsScalar unit = true)
    (hi : text.drop i = read ++ rest) : skipJsonValue text i = i + read.length := by
  have hspaces := skipSpaces_value hread hi
  cases hread with
  | @string name body hquoted =>
      have hhead : text[i]? = some 34 := getElem?_of_drop hi
      have htail : text.drop (i + 1) = body ++ rest := drop_succ_of_drop hi
      simp only [skipJsonValue, hspaces, hhead, if_true]
      rw [skipJsonString, htail, stringTail_append hquoted, List.length_cons]
      omega
  | word hword =>
      obtain ⟨hsome, hunits⟩ := word_units hword
      obtain ⟨unit, tail, rfl, hend⟩ := hrest
      have hword : ∀ unit ∈ read, (!endsScalar unit) = true := by
        intro unit hunit
        rw [endsScalar_word (hunits unit hunit)]
        rfl
      cases read with
      | nil => exact absurd rfl hsome
      | cons first read =>
          have hhead : text[i]? = some first := getElem?_of_drop hi
          obtain ⟨-, hquote, hbracket, hbrace, -, -⟩ :=
            blank_not_wordUnit (hunits first List.mem_cons_self)
          simp only [skipJsonValue, hspaces, hhead, Option.some.injEq, if_neg hquote]
          rw [if_neg (by simp [hbracket, hbrace]), hi, List.takeWhile_append_of_pos hword,
            List.takeWhile_cons, hend]
          simp
  | noItems hblank =>
      exact skipJsonValue_bracket (Or.inr rfl) (encloses_empty hblank (Or.inr rfl)) hspaces hi
  | array hitems => exact skipJsonValue_bracket (Or.inr rfl) (crosses_of_reads hitems) hspaces hi
  | noMembers hblank =>
      exact skipJsonValue_bracket (Or.inl rfl) (encloses_empty hblank (Or.inl rfl)) hspaces hi
  | object hmembers =>
      exact skipJsonValue_bracket (Or.inl rfl) (crosses_of_reads hmembers) hspaces hi

end Values

/-! ## Members -/

/-- The text of an object up to a member still to be read, with the members in front of it. -/
def Opens (lead : JsString) (fields : List (JsString × JsValue)) : Prop :=
  ∀ (body tail : JsString) (last : List (JsString × JsValue)), Reads (.members fields last) body →
    Blank tail → Json.parse (lead ++ (body ++ tail)) = some (.object last)

/-- A value of the name `key` in a text, and that any other JSON text can stand in its place. -/
structure Place (keeps : JsString → List (JsString × JsValue) → Prop) (text key : JsString)
    (fields : List (JsString × JsValue)) (before read after : JsString) (value : JsValue) :
    Prop where
  text_eq : text = before ++ (read ++ after)
  lookup_eq : fields.lookup key = some value
  reads : Reads (.value value) read
  replaced : ∀ (written : JsString) (other : JsValue), Json.parse written = some other →
    keeps (before ++ (written ++ after)) (setField fields key other)

/-- A span marks the value of the name `key`, if the members have one. -/
def Marks (keeps : JsString → List (JsString × JsValue) → Prop) (text key : JsString)
    (fields : List (JsString × JsValue)) : Option (Nat × Nat) → Prop
  | none => fields.lookup key = none
  | some (start, stop) => ∃ before read after value,
      Place keeps text key fields before read after value ∧
        start = before.length ∧ stop = before.length + read.length

section Members

variable {keeps : JsString → List (JsString × JsValue) → Prop}
variable {text key lead front back read name body before colon between after rest : JsString}
variable {fields last : List (JsString × JsValue)} {value : JsValue}

/-- One more member, between the text in front of its value and the text behind it. -/
theorem marks_member {span : Option (Nat × Nat)} (hopens : Opens lead fields)
    (hread : Reads (.value value) read) (hspan : Marks Opens lead key fields span)
    (hkeeps : ∀ (lead written : JsString) (fields : List (JsString × JsValue)) (value : JsValue),
      Opens lead fields → Json.parse written = some value →
      keeps (lead ++ (front ++ (written ++ back))) (setField fields name value)) :
    Marks keeps (lead ++ (front ++ (read ++ back))) key (setField fields name value)
      (if name = key then
        some ((lead ++ front).length, (lead ++ front).length + read.length) else span) := by
  by_cases hname : name = key
  · subst hname
    rw [if_pos rfl]
    refine ⟨lead ++ front, read, back, value, ⟨(List.append_assoc _ _ _).symm, ?_, hread, ?_⟩,
      rfl, rfl⟩
    · rw [lookup_setField, if_pos rfl]
    · intro written other hwritten
      rw [setField_setField, List.append_assoc]
      exact hkeeps lead written fields other hopens hwritten
  · have hlookup : (setField fields name value).lookup key = fields.lookup key := by
      rw [lookup_setField, if_neg fun heq => hname heq.symm]
    have hparse : Json.parse read = some value := parse_of_reads hread
    rw [if_neg hname]
    cases span with
    | none => exact hlookup.trans hspan
    | some pair =>
        obtain ⟨before, held, after, standing, hplace, hstart, hstop⟩ := hspan
        refine ⟨before, held, after ++ (front ++ (read ++ back)), standing,
          ⟨?_, hlookup.trans hplace.lookup_eq, hplace.reads, ?_⟩, hstart, hstop⟩
        · simp only [hplace.text_eq, List.append_assoc]
        · intro written other hwritten
          have hopened := hkeeps _ read _ value (hplace.replaced written other hwritten) hparse
          rw [setField_comm hplace.lookup_eq hname] at hopened
          simpa only [List.append_assoc] using hopened

/-- A member up to its value. -/
def memberFront (before body colon between : JsString) : JsString :=
  before ++ 34 :: (body ++ (colon ++ 58 :: between))

/-- Another JSON text as the value of a member, with white space of its own. -/
theorem padded_member (hbetween : Blank between) (hafter : Blank after) {written : JsString}
    (hwritten : Json.parse written = some value) :
    ∃ ahead text behind, Blank ahead ∧ Blank behind ∧ Reads (.value value) text ∧
      between ++ (written ++ after) = ahead ++ (text ++ behind) := by
  obtain ⟨ahead, text, behind, hahead, hbehind, htext, rfl⟩ := parse_iff.mp hwritten
  refine ⟨between ++ ahead, text, behind ++ after, ?_, ?_, htext, by simp⟩
  · exact fun unit hunit => (List.mem_append.mp hunit).elim (hbetween unit) (hahead unit)
  · exact fun unit hunit => (List.mem_append.mp hunit).elim (hbehind unit) (hafter unit)

theorem opens_member (hbefore : Blank before) (hname : parseQuoted body = some (name, []))
    (hcolon : Blank colon) (hbetween : Blank between) (hafter : Blank after)
    {lead written : JsString} {fields : List (JsString × JsValue)} {value : JsValue}
    (hopens : Opens lead fields) (hwritten : Json.parse written = some value) :
    Opens (lead ++ (memberFront before body colon between ++ (written ++ (after ++ [44]))))
      (setField fields name value) := by
  intro more tail last hmore htail
  obtain ⟨ahead, text, behind, hahead, hbehind, htext, heq⟩ :=
    padded_member hbetween hafter hwritten
  have hparse := hopens _ tail last
    (Reads.member hbefore hname hcolon hahead htext hbehind hmore) htail
  have hshape : lead ++ (memberFront before body colon between ++ (written ++ (after ++ [44]))) ++
      (more ++ tail) = lead ++ (before ++ 34 :: (body ++ (colon ++ 58 ::
        (between ++ (written ++ after) ++ 44 :: (more ++ tail))))) := by
    simp [memberFront]
  rw [hshape, heq]
  simpa using hparse

theorem closes_member (hbefore : Blank before) (hname : parseQuoted body = some (name, []))
    (hcolon : Blank colon) (hbetween : Blank between) (hafter : Blank after) (htail : Blank rest)
    {lead written : JsString} {fields : List (JsString × JsValue)} {value : JsValue}
    (hopens : Opens lead fields) (hwritten : Json.parse written = some value) :
    Json.parse (lead ++ (memberFront before body colon between ++
        (written ++ (after ++ 125 :: rest)))) = some (.object (setField fields name value)) := by
  obtain ⟨ahead, text, behind, hahead, hbehind, htext, heq⟩ :=
    padded_member hbetween hafter hwritten
  have hparse := hopens _ rest _ (Reads.lastMember hbefore hname hcolon hahead htext hbehind) htail
  have hshape : lead ++ (memberFront before body colon between ++
      (written ++ (after ++ 125 :: rest))) = lead ++ (before ++ 34 :: (body ++ (colon ++ 58 ::
        (between ++ (written ++ after) ++ 125 :: rest)))) := by
    simp [memberFront]
  rw [hshape, heq]
  simpa using hparse

/-- What one round of the scan does on a member that the parser reads. -/
theorem spanLoop_member {separator : UInt16} {span : Option (Nat × Nat)} {fuel i : Nat}
    (hbefore : Blank before) (hname : parseQuoted body = some (name, [])) (hcolon : Blank colon)
    (hbetween : Blank between) (hread : Reads (.value value) read) (hafter : Blank after)
    (hseparator : separator = 44 ∨ separator = 125)
    (hi : text.drop i =
      memberFront before body colon between ++ (read ++ (after ++ separator :: rest))) :
    spanLoop text key (fuel + 1) i span =
      let start := i + (memberFront before body colon between).length
      let span := if name = key then some (start, start + read.length) else span
      if separator = 44 then spanLoop text key fuel (start + read.length + after.length + 1) span
      else span := by
  have hspace : isSpace separator = false := by rcases hseparator with rfl | rfl <;> rfl
  have hname' : Json.parse (34 :: body) = some (.string name) := parse_of_reads (Reads.string hname)
  have hfront : text.drop i = before ++ (34 :: body ++
      (colon ++ 58 :: (between ++ (read ++ (after ++ separator :: rest))))) := by
    rw [hi]
    simp [memberFront]
  have hquote := drop_of_drop hfront
  have hbody : text.drop (i + before.length + 1) =
      body ++ (colon ++ 58 :: (between ++ (read ++ (after ++ separator :: rest)))) :=
    drop_succ_of_drop hquote
  have hkeyEnd : skipJsonString text (i + before.length) =
      i + before.length + (34 :: body).length := by
    rw [skipJsonString, hbody, stringTail_append hname, List.length_cons]
    omega
  have hpunctuator := drop_of_drop (drop_of_drop hquote)
  have hvalue : text.drop (i + before.length + (34 :: body).length + colon.length + 1) =
      between ++ (read ++ (after ++ separator :: rest)) := drop_succ_of_drop hpunctuator
  have hread' := drop_of_drop hvalue
  have hend : ∃ unit tail, after ++ separator :: rest = unit :: tail ∧ endsScalar unit = true := by
    cases after with
    | nil =>
        refine ⟨separator, rest, rfl, ?_⟩
        rcases hseparator with rfl | rfl <;> rfl
    | cons unit after =>
        refine ⟨unit, after ++ separator :: rest, rfl, ?_⟩
        rw [endsScalar, isSpace_of_isBlank (hafter unit List.mem_cons_self)]
        rfl
  have hbehind := drop_of_drop hread'
  have hseparated := drop_of_drop hbehind
  have hstart : i + before.length + (34 :: body).length + colon.length + 1 + between.length =
      i + (memberFront before body colon between).length := by
    simp only [memberFront, List.length_append, List.length_cons]
    omega
  rw [hstart] at hread' hbehind hseparated
  have hskipName : skipSpaces text i = i + before.length :=
    skipSpaces_of_drop hbefore rfl hfront
  have hskipColon := skipSpaces_of_drop hcolon (show isSpace 58 = false from rfl)
    (drop_of_drop hquote)
  obtain ⟨first, tail, hfirst, hfirstSpace⟩ := value_head hread
  have hskipValue : skipSpaces text
      (i + before.length + (34 :: body).length + colon.length + 1) =
        i + (memberFront before body colon between).length := by
    rw [← hstart]
    exact skipSpaces_of_drop hbetween hfirstSpace (by rw [hvalue, hfirst]; rfl)
  simp only [spanLoop, hskipName, getElem?_of_drop hquote, if_true, hkeyEnd,
    slice_of_drop hquote, hname', hskipColon, getElem?_of_drop hpunctuator, hskipValue,
    skipJsonValue_of_drop hread hend hread', JsValue.asString, Option.some.injEq,
    skipSpaces_of_drop hafter hspace hbehind, getElem?_of_drop hseparated]

def ParsesTo (text : JsString) (fields : List (JsString × JsValue)) : Prop :=
  Json.parse text = some (.object fields)

/-- The rounds from a member on, where the rest of the object is read. -/
def Scans (key body : JsString) : Phrase → Prop
  | .members fields last => ∀ (lead tail : JsString) (span : Option (Nat × Nat)) (fuel : Nat),
      Opens lead fields → Blank tail → Marks Opens lead key fields span → body.length ≤ fuel →
      Marks ParsesTo (lead ++ (body ++ tail)) key last
        (spanLoop (lead ++ (body ++ tail)) key fuel lead.length span)
  | .value _ | .items _ => True

theorem scans_of_reads {phrase : Phrase} (hreads : Reads phrase body) : Scans key body phrase := by
  induction hreads with
  | string | word | noItems | array | noMembers | object | lastItem | item => trivial
  | @lastMember fields name value before body colon between text after hbefore hname hcolon
      hbetween hvalue hafter =>
      intro lead tail span fuel hopens htail hspan hfuel
      obtain ⟨fuel, rfl⟩ : ∃ less, fuel = less + 1 := by
        apply Nat.exists_eq_succ_of_ne_zero
        rintro rfl
        simp at hfuel
      have hshape : before ++ 34 :: (body ++ (colon ++ 58 :: (between ++ (text ++
          (after ++ [125]))))) ++ tail =
          memberFront before body colon between ++ (text ++ (after ++ 125 :: tail)) := by
        simp [memberFront]
      rw [hshape, spanLoop_member hbefore hname hcolon hbetween hvalue hafter (Or.inr rfl)
        List.drop_left]
      have hkeeps : ∀ (lead written : JsString) (fields : List (JsString × JsValue))
          (value : JsValue), Opens lead fields → Json.parse written = some value →
          ParsesTo (lead ++ (memberFront before body colon between ++
            (written ++ (after ++ 125 :: tail)))) (setField fields name value) :=
        fun lead written fields value hopens hwritten =>
          closes_member hbefore hname hcolon hbetween hafter htail hopens hwritten
      have hmarks := marks_member hopens hvalue hspan hkeeps
      rw [List.length_append] at hmarks
      exact hmarks
  | @member fields last name value before body colon between text after rest hbefore hname hcolon
      hbetween hvalue hafter _ _ ihRest =>
      intro lead tail span fuel hopens htail hspan hfuel
      obtain ⟨fuel, rfl⟩ : ∃ less, fuel = less + 1 := by
        apply Nat.exists_eq_succ_of_ne_zero
        rintro rfl
        simp at hfuel
      have hshape : before ++ 34 :: (body ++ (colon ++ 58 :: (between ++ (text ++
          (after ++ 44 :: rest))))) ++ tail =
          memberFront before body colon between ++ (text ++ (after ++ 44 :: (rest ++ tail))) := by
        simp [memberFront]
      have hparse : Json.parse text = some value := parse_of_reads hvalue
      have hstep := opens_member hbefore hname hcolon hbetween hafter hopens hparse
      have hkeeps : ∀ (lead written : JsString) (fields : List (JsString × JsValue))
          (value : JsValue), Opens lead fields → Json.parse written = some value →
          Opens (lead ++ (memberFront before body colon between ++ (written ++ (after ++ [44]))))
            (setField fields name value) :=
        fun lead written fields value hopens hwritten =>
          opens_member hbefore hname hcolon hbetween hafter hopens hwritten
      have hmarks := marks_member hopens hvalue hspan hkeeps
      have hrest := ihRest _ tail _ fuel hstep htail hmarks (by
        simp only [List.length_append, List.length_cons] at hfuel
        omega)
      have htext : lead ++ (memberFront before body colon between ++ (text ++ (after ++ [44]))) ++
          (rest ++ tail) = lead ++ (memberFront before body colon between ++
            (text ++ (after ++ 44 :: (rest ++ tail)))) := by
        simp
      have hend : (lead ++ (memberFront before body colon between ++
          (text ++ (after ++ [44])))).length =
          (lead ++ memberFront before body colon between).length + text.length + after.length +
            1 := by
        simp only [List.length_append, List.length_singleton]
        omega
      rw [htext, hend, List.length_append] at hrest
      rw [hshape, spanLoop_member hbefore hname hcolon hbetween hvalue hafter (Or.inl rfl)
        List.drop_left]
      exact hrest

end Members

theorem object_word {word : JsString} {fields : List (JsString × JsValue)} :
    parseWord word ≠ some (.object fields, []) := by
  rw [parseWord]
  split_ifs <;> simp

theorem opens_brace {before : JsString} (hbefore : Blank before) : Opens (before ++ [123]) [] := by
  intro body tail last hbody htail
  apply parse_iff.mpr
  exact ⟨before, 123 :: body, tail, hbefore, htail, Reads.object hbody, by simp⟩

theorem marks_topLevelValueSpan {text : JsString} {fields : List (JsString × JsValue)}
    (key : JsString) (hparse : ParsesTo text fields) :
    Marks ParsesTo text key fields (topLevelValueSpan text key) := by
  obtain ⟨before, read, after, hbefore, hafter, hread, rfl⟩ := parse_iff.mp hparse
  have hskip : ∀ more, skipSpaces (before ++ 123 :: more) 0 = before.length := by
    intro more
    rw [skipSpaces_of_drop (i := 0) hbefore rfl rfl, Nat.zero_add]
  have hhead : ∀ more, (before ++ 123 :: more)[before.length]? = some 123 :=
    fun more => getElem?_of_drop List.drop_left
  cases hread with
  | word hword => exact absurd hword object_word
  | @noMembers blank hblank =>
      have hshape : before ++ (123 :: (blank ++ [125]) ++ after) =
          before ++ 123 :: (blank ++ 125 :: after) := by
        simp
      have hdrop : (before ++ 123 :: (blank ++ 125 :: after)).drop (before.length + 1) =
          blank ++ 125 :: after := drop_succ_of_drop List.drop_left
      have hbrace : ¬some (125 : UInt16) = some 34 := by decide
      rw [hshape, topLevelValueSpan]
      simp only [hskip, hhead, if_true]
      cases (before ++ 123 :: (blank ++ 125 :: after)).length with
      | zero => rfl
      | succ fuel =>
          simp only [spanLoop, skipSpaces_of_drop hblank rfl hdrop,
            getElem?_of_drop (drop_of_drop hdrop), if_neg hbrace]
          rfl
  | @object _ body hmembers =>
      have hscan := (scans_of_reads hmembers : Scans key body (.members [] fields))
        (before ++ [123]) after none (before ++ 123 :: (body ++ after)).length
        (opens_brace hbefore) hafter rfl
        (by simp only [List.length_append, List.length_cons]; omega)
      have hshape : before ++ [123] ++ (body ++ after) = before ++ 123 :: (body ++ after) := by
        simp
      have hlead : (before ++ [123]).length = before.length + 1 := List.length_append
      rw [hshape, hlead] at hscan
      rw [List.cons_append, topLevelValueSpan]
      simp only [hskip, hhead, if_true]
      exact hscan

/-- On the text of an object the scan finds a span exactly for the names that the object has.
The span is the text of the value that `JSON.parse` reads under the name, of a later member
where a name is repeated: with any other JSON text put there, that member of the object
changes and nothing else. -/
theorem topLevelValueSpan_exact {text : JsString} {fields : List (JsString × JsValue)}
    (hparse : Json.parse text = some (.object fields)) (key : JsString) :
    (topLevelValueSpan text key = none ↔ fields.lookup key = none) ∧
      ∀ start stop, topLevelValueSpan text key = some (start, stop) →
        ∃ before read after value, text = before ++ (read ++ after) ∧
          before.length = start ∧ (before ++ read).length = stop ∧
          Json.parse read = some value ∧ fields.lookup key = some value ∧
          ∀ written other, Json.parse written = some other →
            Json.parse (before ++ (written ++ after)) =
              some (.object (setField fields key other)) := by
  have hmarks := marks_topLevelValueSpan key hparse
  constructor
  · cases hspan : topLevelValueSpan text key with
    | none =>
        rw [hspan] at hmarks
        exact iff_of_true rfl hmarks
    | some pair =>
        rw [hspan] at hmarks
        obtain ⟨before, read, after, value, hplace, -, -⟩ := hmarks
        rw [hplace.lookup_eq]
        exact iff_of_false nofun nofun
  · intro start stop hspan
    rw [hspan] at hmarks
    obtain ⟨before, read, after, value, hplace, rfl, rfl⟩ := hmarks
    have hread : Json.parse read = some value := parse_of_reads hplace.reads
    exact ⟨before, read, after, value, hplace.text_eq, rfl, List.length_append, hread,
      hplace.lookup_eq, hplace.replaced⟩

/-- A record with a nested `roots` in front of its own. -/
def nestedRoots : List (JsString × JsValue) :=
  [(js "ruling", .object [(js "roots", .string (js "a"))]),
    (js "roots", .array [.string (js "b")])]

def nestedRootsText : JsString :=
  js "\x7b\"ruling\":\x7b\"roots\":\"a\"\x7d,\"roots\":[\"b\"]\x7d"

theorem parse_nestedRoots : Json.parse nestedRootsText = some (.object nestedRoots) := by
  have hplain : Plain (.object nestedRoots) :=
    ⟨by decide, ⟨by decide, trivial, trivial⟩, ⟨trivial, trivial⟩, trivial⟩
  have htext : nestedRootsText = stringify Host.plainHost (.object nestedRoots) := by
    simp only [nestedRoots, stringify, stringifyFields, stringifyItems]
    decide +kernel
  rw [htext, Json.parse_stringify hplain]

/-- The span is that of the record's own `roots`. -/
theorem topLevelValueSpan_nestedRoots :
    topLevelValueSpan nestedRootsText (js "roots") = some (32, 37) ∧
      ∃ before read after value, nestedRootsText = before ++ (read ++ after) ∧
        before.length = 32 ∧ (before ++ read).length = 37 ∧ Json.parse read = some value ∧
        nestedRoots.lookup (js "roots") = some value ∧
        ∀ written other, Json.parse written = some other →
          Json.parse (before ++ (written ++ after)) =
            some (.object (setField nestedRoots (js "roots") other)) := by
  have hspan : topLevelValueSpan nestedRootsText (js "roots") = some (32, 37) := by
    decide +kernel
  exact ⟨hspan, (topLevelValueSpan_exact parse_nestedRoots (js "roots")).2 _ _ hspan⟩

end OdinSentinel.Audit
