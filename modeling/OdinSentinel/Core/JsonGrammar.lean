import OdinSentinel.Core.JsonRoundTrip

/-!
# The grammar of JSON text

Which texts `JSON.parse` reads, and to which values, as derivations over the text.
-/

namespace OdinSentinel.Json

open JsText Host

/-- White space only. -/
def Blank (text : JsString) : Prop := ∀ unit ∈ text, isBlank unit = true

/-- What a stretch of JSON text stands for: a value, the items of an array up to its bracket,
or the members of an object up to its brace, behind those that were read. -/
inductive Phrase
  | value (value : JsValue)
  | items (items : List JsValue)
  | members (before after : List (JsString × JsValue))

inductive Reads : Phrase → JsString → Prop
  | string {text body : JsString} (hquoted : parseQuoted body = some (text, [])) :
      Reads (.value (.string text)) (34 :: body)
  | word {value : JsValue} {text : JsString} (hword : parseWord text = some (value, [])) :
      Reads (.value value) text
  | noItems {blank : JsString} (hblank : Blank blank) :
      Reads (.value (.array [])) (91 :: (blank ++ [93]))
  | array {items : List JsValue} {body : JsString} (hitems : Reads (.items items) body) :
      Reads (.value (.array items)) (91 :: body)
  | noMembers {blank : JsString} (hblank : Blank blank) :
      Reads (.value (.object [])) (123 :: (blank ++ [125]))
  | object {fields : List (JsString × JsValue)} {body : JsString}
      (hmembers : Reads (.members [] fields) body) : Reads (.value (.object fields)) (123 :: body)
  | lastItem {item : JsValue} {before text after : JsString} (hbefore : Blank before)
      (hitem : Reads (.value item) text) (hafter : Blank after) :
      Reads (.items [item]) (before ++ (text ++ (after ++ [93])))
  | item {item : JsValue} {items : List JsValue} {before text after rest : JsString}
      (hbefore : Blank before) (hitem : Reads (.value item) text) (hafter : Blank after)
      (hitems : Reads (.items items) rest) :
      Reads (.items (item :: items)) (before ++ (text ++ (after ++ 44 :: rest)))
  | lastMember {fields : List (JsString × JsValue)} {name : JsString} {value : JsValue}
      {before body colon between text after : JsString} (hbefore : Blank before)
      (hname : parseQuoted body = some (name, [])) (hcolon : Blank colon)
      (hbetween : Blank between) (hvalue : Reads (.value value) text) (hafter : Blank after) :
      Reads (.members fields (setField fields name value))
        (before ++ 34 :: (body ++ (colon ++ 58 :: (between ++ (text ++ (after ++ [125]))))))
  | member {fields last : List (JsString × JsValue)} {name : JsString} {value : JsValue}
      {before body colon between text after rest : JsString} (hbefore : Blank before)
      (hname : parseQuoted body = some (name, [])) (hcolon : Blank colon)
      (hbetween : Blank between) (hvalue : Reads (.value value) text) (hafter : Blank after)
      (hmembers : Reads (.members (setField fields name value) last) rest) :
      Reads (.members fields last)
        (before ++ 34 :: (body ++ (colon ++ 58 :: (between ++ (text ++ (after ++ 44 :: rest))))))

/-! ## White space and punctuators -/

variable {text rest : JsString}

theorem blank_nil : Blank [] := List.forall_mem_nil _

theorem skipBlank_append {blank : JsString} (hblank : Blank blank) (rest : JsString) :
    skipBlank (blank ++ rest) = skipBlank rest :=
  List.dropWhile_append_of_pos hblank

theorem skipBlank_split (text : JsString) :
    ∃ blank, Blank blank ∧ text = blank ++ skipBlank text := by
  refine ⟨text.takeWhile isBlank, ?_, (List.takeWhile_append_dropWhile).symm⟩
  exact fun unit hunit => List.mem_takeWhile_imp hunit

theorem expect_split {punctuator : UInt16} (hexpect : expect punctuator text = some rest) :
    ∃ blank, Blank blank ∧ text = blank ++ punctuator :: rest := by
  obtain ⟨blank, hblank, htext⟩ := skipBlank_split text
  rw [expect] at hexpect
  split at hexpect
  · rename_i unit tail hskip
    split at hexpect
    · rename_i hunit
      cases hexpect
      rw [hskip, hunit] at htext
      exact ⟨blank, hblank, htext⟩
    · cases hexpect
  · cases hexpect

theorem expect_append {blank : JsString} (hblank : Blank blank) {punctuator : UInt16}
    (hpunctuator : isBlank punctuator = false) (rest : JsString) :
    expect punctuator (blank ++ punctuator :: rest) = some rest := by
  rw [expect, skipBlank_append hblank, skipBlank_cons hpunctuator]
  exact if_pos rfl

theorem expect_other {blank : JsString} (hblank : Blank blank) {unit punctuator : UInt16}
    (hunit : isBlank unit = false) (hne : unit ≠ punctuator) (rest : JsString) :
    expect punctuator (blank ++ unit :: rest) = none := by
  rw [expect, skipBlank_append hblank, skipBlank_cons hunit]
  exact if_neg hne

/-! ## Strings -/

theorem prepend_eq_some {unit : UInt16} {found : Option (JsString × JsString)} {text rest : JsString}
    (hfound : prepend unit found = some (text, rest)) :
    ∃ tail, found = some (tail, rest) ∧ text = unit :: tail := by
  cases found with
  | none => cases hfound
  | some pair =>
      cases hfound
      exact ⟨pair.1, rfl, rfl⟩

/-- The text of a string up to its quote, whatever follows. -/
def Quoted (text value rest : JsString) : Prop :=
  ∃ body, text = body ++ rest ∧ ∀ more, parseQuoted (body ++ more) = some (value, more)

theorem quoted_step {tail value : JsString} {unit : UInt16} (front : JsString)
    (hfront : ∀ more, parseQuoted (front ++ more) = prepend unit (parseQuoted more))
    (htail : ∀ value, parseQuoted tail = some (value, rest) → Quoted tail value rest)
    (hquoted : parseQuoted (front ++ tail) = some (value, rest)) :
    Quoted (front ++ tail) value rest := by
  rw [hfront] at hquoted
  obtain ⟨last, hlast, rfl⟩ := prepend_eq_some hquoted
  obtain ⟨body, rfl, hbody⟩ := htail last hlast
  refine ⟨front ++ body, by rw [List.append_assoc], fun more => ?_⟩
  rw [List.append_assoc, hfront, hbody]
  rfl

theorem parseQuoted_unicode {first second third fourth unit : UInt16}
    (hunit : hexUnit first second third fourth = some unit) (rest : JsString) :
    parseQuoted (92 :: 117 :: first :: second :: third :: fourth :: rest) =
      prepend unit (parseQuoted rest) := by
  rw [parseQuoted.eq_def]
  simp [hunit]

theorem parseQuoted_split {value : JsString} (hquoted : parseQuoted text = some (value, rest)) :
    Quoted text value rest := by
  induction text using parseQuoted.induct generalizing value with
  | case1 => cases hquoted
  | case2 tail =>
      rw [parseQuoted_close] at hquoted
      cases hquoted
      exact ⟨[34], rfl, fun more => parseQuoted_close more⟩
  | case3 => cases hquoted
  | case4 first second third fourth tail unit hunit _ ih =>
      exact quoted_step [92, 117, first, second, third, fourth]
        (fun more => parseQuoted_unicode hunit more) (fun value => ih) hquoted
  | case5 first second third fourth tail hunit =>
      rw [parseQuoted.eq_def] at hquoted
      simp [hunit] at hquoted
  | case6 tail hshort =>
      rw [parseQuoted.eq_def] at hquoted
      simp only [show ¬(92 : UInt16) = 34 by decide, if_true, if_false] at hquoted
      cases hquoted
  | case7 letter tail hletter unit hunit _ ih =>
      exact quoted_step [92, letter] (fun more => parseQuoted_letter hletter hunit more)
        (fun value => ih) hquoted
  | case8 letter tail hletter hunit =>
      rw [parseQuoted.eq_def] at hquoted
      simp [hletter, hunit] at hquoted
  | case9 unit tail hquote hescape hcontrol =>
      rw [parseQuoted.eq_def] at hquoted
      simp [hquote, hescape, hcontrol] at hquoted
  | case10 unit tail hquote hescape hcontrol ih =>
      exact quoted_step [unit]
        (fun more => parseQuoted_plain hquote hescape hcontrol more) (fun value => ih) hquoted

/-! ## Numbers -/

/-- The code units that start or go on a number. -/
def isNumberUnit (unit : UInt16) : Bool :=
  isDigit unit || unit == 43 || unit == 45 || unit == 46 || unit == 69 || unit == 101

theorem takeWhile_digits {digits : JsString} (hdigits : ∀ unit ∈ digits, isDigit unit = true)
    (hrest : ∀ unit ∈ rest.head?, isDigit unit = false) :
    (digits ++ rest).takeWhile isDigit = digits ∧ (digits ++ rest).dropWhile isDigit = rest := by
  rw [List.takeWhile_append_of_pos hdigits, List.dropWhile_append_of_pos hdigits]
  cases rest with
  | nil => simp
  | cons unit rest =>
      have hunit := hrest unit rfl
      simp [hunit]

theorem digits_split (text : JsString) : ∃ digits, (∀ unit ∈ digits, isDigit unit = true) ∧
    text.takeWhile isDigit = digits ∧ text = digits ++ text.dropWhile isDigit :=
  ⟨text.takeWhile isDigit, fun _ hunit => List.mem_takeWhile_imp hunit, rfl,
    (List.takeWhile_append_dropWhile).symm⟩

theorem isNumberUnit_digit {unit : UInt16} (hunit : isDigit unit = true) :
    isNumberUnit unit = true := by
  simp [isNumberUnit, hunit]

theorem parseFraction_split {fraction : ℚ} (hparse : parseFraction text = some (fraction, rest)) :
    ∃ part, text = part ++ rest ∧ (∀ unit ∈ part, isNumberUnit unit = true) ∧
      (∀ unit ∈ part.head?, isDigit unit = false) ∧
      ∀ more, (∀ unit ∈ more.head?, isDigit unit = false ∧ unit ≠ 46) →
        parseFraction (part ++ more) = some (fraction, more) := by
  have hnone : ∀ more : JsString, (∀ unit ∈ more.head?, isDigit unit = false ∧ unit ≠ 46) →
      parseFraction more = some (0, more) := by
    intro more hmore
    cases more with
    | nil => rfl
    | cons unit more => simp [parseFraction, (hmore unit rfl).2]
  cases text with
  | nil =>
      cases hparse
      exact ⟨[], rfl, List.forall_mem_nil _, by simp, hnone⟩
  | cons unit tail =>
      rw [parseFraction] at hparse
      split at hparse
      · rename_i hdot
        subst hdot
        obtain ⟨digits, hdigits, htake, htail⟩ := digits_split tail
        dsimp only at hparse
        split at hparse
        · cases hparse
        · rename_i hsome
          cases hparse
          rw [htake] at hsome
          refine ⟨46 :: digits, by rw [List.cons_append, ← htail], ?_, ?_, ?_⟩
          · refine List.forall_mem_cons.mpr ⟨rfl, fun unit hunit => ?_⟩
            exact isNumberUnit_digit (hdigits unit hunit)
          · rintro _ ⟨⟩
            rfl
          · intro more hmore
            obtain ⟨hfront, hback⟩ := takeWhile_digits hdigits fun unit hunit => (hmore unit hunit).1
            rw [List.cons_append, parseFraction]
            simp only [hfront, hback, if_true, if_neg hsome, htake]
      · cases hparse
        exact ⟨[], rfl, List.forall_mem_nil _, by simp, hnone⟩

/-- A sign, or none in front of a text that starts with no sign. -/
def IsSign (sign unsigned : JsString) : Prop :=
  sign = [43] ∨ sign = [45] ∨ sign = [] ∧ ∀ unit ∈ unsigned.head?, unit ≠ 43 ∧ unit ≠ 45

theorem isSign_split (text : JsString) : ∃ sign unsigned, IsSign sign unsigned ∧
    text = sign ++ unsigned := by
  cases text with
  | nil => exact ⟨[], [], .inr (.inr ⟨rfl, by simp⟩), rfl⟩
  | cons unit tail =>
      by_cases hplus : unit = 43
      · exact ⟨[43], tail, .inl rfl, by rw [hplus]; rfl⟩
      · by_cases hminus : unit = 45
        · exact ⟨[45], tail, .inr (.inl rfl), by rw [hminus]; rfl⟩
        · refine ⟨[], unit :: tail, .inr (.inr ⟨rfl, ?_⟩), rfl⟩
          rintro _ ⟨⟩
          exact ⟨hplus, hminus⟩

theorem isSign_digits {sign unsigned digits : JsString} (hsign : IsSign sign unsigned)
    (hdigits : ∀ unit ∈ digits, isDigit unit = true) (hsome : digits ≠ []) (more : JsString) :
    IsSign sign (digits ++ more) := by
  refine hsign.imp_right (Or.imp_right fun hnone => ⟨hnone.1, ?_⟩)
  cases digits with
  | nil => exact absurd rfl hsome
  | cons digit digits =>
      rintro _ ⟨⟩
      have hdigit := hdigits digit List.mem_cons_self
      constructor <;> rintro rfl <;> exact absurd hdigit (by decide)

theorem parseExponent_signed {mark : UInt16} (hmark : mark = 101 ∨ mark = 69)
    {sign unsigned : JsString} (hsign : IsSign sign unsigned) :
    parseExponent (mark :: (sign ++ unsigned)) =
      if unsigned.takeWhile isDigit = [] then none
      else some (if sign = [45] then -(decimal (unsigned.takeWhile isDigit) : Int)
        else (decimal (unsigned.takeWhile isDigit) : Int), unsigned.dropWhile isDigit) := by
  rw [parseExponent, if_pos hmark]
  rcases hsign with rfl | rfl | ⟨rfl, hhead⟩
  · rfl
  · rfl
  · have hminus : (unsigned.head? == some 45) = false := by
      rw [beq_eq_false_iff_ne]
      exact fun hsome => (hhead 45 hsome).2 rfl
    have hplus : (unsigned.head? == some 43) = false := by
      rw [beq_eq_false_iff_ne]
      exact fun hsome => (hhead 43 hsome).1 rfl
    simp [hminus, hplus]

theorem parseExponent_split {power : Int} (hparse : parseExponent text = some (power, rest)) :
    ∃ part, text = part ++ rest ∧ (∀ unit ∈ part, isNumberUnit unit = true) ∧
      (∀ unit ∈ part.head?, isDigit unit = false ∧ unit ≠ 46) ∧
      ∀ more, EndsNumber more → parseExponent (part ++ more) = some (power, more) := by
  have hnone : ∀ more, EndsNumber more → parseExponent more = some (0, more) := by
    intro more hmore
    cases more with
    | nil => rfl
    | cons unit more => simp [parseExponent, (hmore unit rfl).2.2]
  cases text with
  | nil =>
      cases hparse
      exact ⟨[], rfl, List.forall_mem_nil _, by simp, hnone⟩
  | cons mark tail =>
      by_cases hmark : mark = 101 ∨ mark = 69
      · obtain ⟨sign, unsigned, hsign, rfl⟩ := isSign_split tail
        obtain ⟨digits, hdigits, htake, htail⟩ := digits_split unsigned
        rw [parseExponent_signed hmark hsign, htake] at hparse
        split at hparse
        · cases hparse
        · rename_i hsome
          cases hparse
          have hunits : ∀ unit ∈ sign, isNumberUnit unit = true := by
            rcases hsign with rfl | rfl | ⟨rfl, -⟩
            · exact List.forall_mem_singleton.mpr rfl
            · exact List.forall_mem_singleton.mpr rfl
            · exact List.forall_mem_nil _
          refine ⟨mark :: (sign ++ digits), ?_, ?_, ?_, ?_⟩
          · rw [List.cons_append, List.append_assoc, ← htail]
          · refine List.forall_mem_cons.mpr ⟨?_, fun unit hunit => ?_⟩
            · rcases hmark with rfl | rfl <;> rfl
            · rcases List.mem_append.mp hunit with hunit | hunit
              · exact hunits unit hunit
              · exact isNumberUnit_digit (hdigits unit hunit)
          · rintro _ ⟨⟩
            rcases hmark with rfl | rfl <;> decide
          · intro more hmore
            obtain ⟨hfront, hback⟩ := takeWhile_digits hdigits fun unit hunit => (hmore unit hunit).1
            rw [List.cons_append, List.append_assoc,
              parseExponent_signed hmark (isSign_digits hsign hdigits hsome more), hfront, hback,
              if_neg hsome]
      · rw [parseExponent, if_neg hmark] at hparse
        cases hparse
        exact ⟨[], rfl, List.forall_mem_nil _, by simp, hnone⟩

/-- The number behind its sign. -/
def unsignedNumber (negative : Bool) (unsigned : JsString) : Option (JsNumber × JsString) := do
  let digits := unsigned.takeWhile isDigit
  if digits = [] ∨ (digits.head? = some 48 ∧ 1 < digits.length) then none
  else do
    let (fraction, rest) ← parseFraction (unsigned.dropWhile isDigit)
    let (power, rest) ← parseExponent rest
    let value := (decimal digits + fraction) * 10 ^ power
    some (toDouble (if negative then -value else value), rest)

theorem parseNumber_minus (unsigned : JsString) :
    parseNumber (45 :: unsigned) = unsignedNumber true unsigned := rfl

theorem parseNumber_unsigned {unsigned : JsString} (hhead : ∀ unit ∈ unsigned.head?, unit ≠ 45) :
    parseNumber unsigned = unsignedNumber false unsigned := by
  have hminus : (unsigned.head? == some 45) = false := by
    rw [beq_eq_false_iff_ne]
    exact fun hsome => hhead 45 hsome rfl
  rw [parseNumber, hminus]
  rfl

theorem head_append {front back : JsString} {holds : UInt16 → Prop}
    (hfront : ∀ unit ∈ front.head?, holds unit) (hback : ∀ unit ∈ back.head?, holds unit) :
    ∀ unit ∈ (front ++ back).head?, holds unit := by
  cases front with
  | nil => exact hback
  | cons first front => exact hfront

theorem unsignedNumber_split {negative : Bool} {value : JsNumber}
    (hparse : unsignedNumber negative text = some (value, rest)) :
    ∃ part, text = part ++ rest ∧ (∀ unit ∈ part, isNumberUnit unit = true) ∧
      (∃ digit tail, part = digit :: tail ∧ isDigit digit = true) ∧
      ∀ more, EndsNumber more → unsignedNumber negative (part ++ more) = some (value, more) := by
  obtain ⟨digits, hdigits, htake, htail⟩ := digits_split text
  rw [unsignedNumber, htake] at hparse
  dsimp only at hparse
  split at hparse
  · cases hparse
  · rename_i hlegal
    simp only [Option.bind_eq_bind, Option.bind_eq_some_iff, Prod.exists] at hparse
    obtain ⟨fraction, behind, hfraction, power, last, hexponent, hvalue⟩ := hparse
    obtain ⟨rfl, rfl⟩ := Prod.mk.inj (Option.some.inj hvalue)
    obtain ⟨part, hpart, hpartUnits, hpartHead, hpartMore⟩ := parseFraction_split hfraction
    obtain ⟨tail, htailPart, htailUnits, htailHead, htailMore⟩ := parseExponent_split hexponent
    have hsome : digits ≠ [] := fun hnil => hlegal (.inl hnil)
    refine ⟨digits ++ (part ++ tail), ?_, ?_, ?_, ?_⟩
    · rw [htail, hpart, htailPart]
      simp only [List.append_assoc]
    · intro unit hunit
      rcases List.mem_append.mp hunit with hunit | hunit
      · exact isNumberUnit_digit (hdigits unit hunit)
      · rcases List.mem_append.mp hunit with hunit | hunit
        · exact hpartUnits unit hunit
        · exact htailUnits unit hunit
    · cases digits with
      | nil => exact absurd rfl hsome
      | cons digit digits => exact ⟨digit, _, rfl, hdigits digit List.mem_cons_self⟩
    · intro more hmore
      have hbehind : ∀ unit ∈ (tail ++ more).head?, isDigit unit = false ∧ unit ≠ 46 :=
        head_append htailHead fun unit hunit => ⟨(hmore unit hunit).1, (hmore unit hunit).2.1⟩
      have hhead : ∀ unit ∈ (part ++ (tail ++ more)).head?, isDigit unit = false :=
        head_append hpartHead fun unit hunit => (hbehind unit hunit).1
      obtain ⟨hfront, hback⟩ := takeWhile_digits hdigits hhead
      rw [List.append_assoc, List.append_assoc, unsignedNumber, hfront, hback]
      dsimp only
      rw [if_neg hlegal, hpartMore _ hbehind]
      simp only [Option.bind_eq_bind, Option.bind_some, htailMore more hmore]

/-- A number ends where no code unit goes on with it. -/
theorem parseNumber_split {value : JsNumber} (hparse : parseNumber text = some (value, rest)) :
    ∃ part, text = part ++ rest ∧ part ≠ [] ∧ (∀ unit ∈ part, isNumberUnit unit = true) ∧
      ∀ more, EndsNumber more → parseNumber (part ++ more) = some (value, more) := by
  by_cases hminus : ∀ unit ∈ text.head?, unit ≠ 45
  · rw [parseNumber_unsigned hminus] at hparse
    obtain ⟨part, htext, hunits, ⟨digit, tail, rfl, hdigit⟩, hmore⟩ := unsignedNumber_split hparse
    refine ⟨digit :: tail, htext, List.cons_ne_nil _ _, hunits, fun more hend => ?_⟩
    rw [parseNumber_unsigned, hmore more hend]
    rintro _ ⟨⟩ rfl
    exact absurd hdigit (by decide)
  · obtain ⟨_, hhead, rfl⟩ : ∃ unit ∈ text.head?, unit = 45 := by simpa using hminus
    obtain ⟨unsigned, rfl⟩ := List.head?_eq_some_iff.mp hhead
    rw [parseNumber_minus] at hparse
    obtain ⟨part, rfl, hunits, -, hmore⟩ := unsignedNumber_split hparse
    refine ⟨45 :: part, rfl, List.cons_ne_nil _ _, List.forall_mem_cons.mpr ⟨rfl, hunits⟩, ?_⟩
    exact fun more hend => hmore more hend

/-! ## Words -/

/-- The code units of the words and numbers of the grammar. -/
def isWordUnit (unit : UInt16) : Bool :=
  isNumberUnit unit || (js "truefalsn").contains unit

theorem parseWord_number {unit : UInt16} (hunit : isNumberUnit unit = true) (tail : JsString) :
    parseWord (unit :: tail) =
      (parseNumber (unit :: tail)).map fun found => (.number found.1, found.2) := by
  have hnot : ∀ first (word : JsString), isNumberUnit first = false →
      List.isPrefixOf (first :: word) (unit :: tail) = false := by
    intro first word hfirst
    have hne : (first == unit) = false := by
      rw [beq_eq_false_iff_ne]
      rintro rfl
      rw [hfirst] at hunit
      cases hunit
    simp [List.isPrefixOf, hne]
  have htrue : js "true" = 116 :: js "rue" := rfl
  have hfalse : js "false" = 102 :: js "alse" := rfl
  have hnull : js "null" = 110 :: js "ull" := rfl
  rw [parseWord, htrue, hfalse, hnull, hnot _ _ (by decide), hnot _ _ (by decide),
    hnot _ _ (by decide)]
  rfl

theorem literal_split {word : JsString} (hword : word.isPrefixOf text = true) :
    text = word ++ text.drop word.length := by
  obtain ⟨tail, rfl⟩ := List.isPrefixOf_iff_prefix.mp hword
  rw [List.drop_left]

/-- What `parseWord` reads is a run of such units. -/
theorem parseWord_split {value : JsValue} (hparse : parseWord text = some (value, rest)) :
    ∃ part, text = part ++ rest ∧ part ≠ [] ∧ (∀ unit ∈ part, isWordUnit unit = true) ∧
      ∀ more, EndsNumber more → parseWord (part ++ more) = some (value, more) := by
  rw [parseWord] at hparse
  split at hparse
  · rename_i hword
    cases hparse
    exact ⟨js "true", literal_split hword, by decide, List.all_eq_true.mp (by decide),
      fun more _ => rfl⟩
  · split at hparse
    · rename_i hword
      cases hparse
      exact ⟨js "false", literal_split hword, by decide, List.all_eq_true.mp (by decide),
        fun more _ => rfl⟩
    · split at hparse
      · rename_i hword
        cases hparse
        exact ⟨js "null", literal_split hword, by decide, List.all_eq_true.mp (by decide),
          fun more _ => rfl⟩
      · obtain ⟨⟨number, behind⟩, hnumber, hvalue⟩ := Option.map_eq_some_iff.mp hparse
        obtain ⟨rfl, rfl⟩ := Prod.mk.inj hvalue
        obtain ⟨part, rfl, hsome, hunits, hmore⟩ := parseNumber_split hnumber
        refine ⟨part, rfl, hsome, fun unit hunit => ?_, fun more hend => ?_⟩
        · simp [isWordUnit, hunits unit hunit]
        · cases part with
          | nil => exact absurd rfl hsome
          | cons first part =>
              have hparsed := hmore more hend
              rw [List.cons_append] at hparsed ⊢
              rw [parseWord_number (hunits first List.mem_cons_self), hparsed]
              rfl

/-! ## From the parser to the grammar -/

/-- A value behind some white space, and what follows it. -/
def ReadsValue (value : JsValue) (text rest : JsString) : Prop :=
  ∃ blank read, Blank blank ∧ Reads (.value value) read ∧ text = blank ++ (read ++ rest)

theorem endsNumber_nil : EndsNumber [] := by simp [EndsNumber]

theorem reads_of_parse (fuel : Nat) :
    (∀ text value rest, parseValue fuel text = some (value, rest) → ReadsValue value text rest) ∧
    (∀ text items rest, parseItems fuel text = some (items, rest) →
      ∃ read, Reads (.items items) read ∧ text = read ++ rest) ∧
    ∀ text before after rest, parseMembers fuel before text = some (after, rest) →
      ∃ read, Reads (.members before after) read ∧ text = read ++ rest := by
  induction fuel with
  | zero => exact ⟨nofun, nofun, nofun⟩
  | succ fuel ih =>
      obtain ⟨hvalues, hitems, hmembers⟩ := ih
      refine ⟨fun text value rest hparse => ?_, fun text items rest hparse => ?_,
        fun text before after rest hparse => ?_⟩
      · obtain ⟨blank, hblank, htext⟩ := skipBlank_split text
        suffices hread : ∃ read, Reads (.value value) read ∧ skipBlank text = read ++ rest by
          obtain ⟨read, hread, hskip⟩ := hread
          exact ⟨blank, read, hblank, hread, by rw [← hskip]; exact htext⟩
        rw [parseValue] at hparse
        split at hparse
        · cases hparse
        · rename_i unit tail hskip
          rw [hskip]
          split_ifs at hparse with hquote hbracket hbrace
          · obtain ⟨⟨text, behind⟩, hquoted, hvalue⟩ := Option.map_eq_some_iff.mp hparse
            obtain ⟨rfl, rfl⟩ := Prod.mk.inj hvalue
            obtain ⟨body, rfl, hbody⟩ := parseQuoted_split hquoted
            have hexact := hbody []
            rw [List.append_nil] at hexact
            exact ⟨34 :: body, .string hexact, by rw [hquote]; rfl⟩
          · subst hbracket
            split at hparse
            · rename_i behind hclose
              cases hparse
              obtain ⟨blank, hblank, rfl⟩ := expect_split hclose
              exact ⟨91 :: (blank ++ [93]), .noItems hblank, by simp⟩
            · obtain ⟨⟨items, behind⟩, hfound, hvalue⟩ := Option.map_eq_some_iff.mp hparse
              obtain ⟨rfl, rfl⟩ := Prod.mk.inj hvalue
              obtain ⟨read, hread, rfl⟩ := hitems _ _ _ hfound
              exact ⟨91 :: read, .array hread, rfl⟩
          · subst hbrace
            split at hparse
            · rename_i behind hclose
              cases hparse
              obtain ⟨blank, hblank, rfl⟩ := expect_split hclose
              exact ⟨123 :: (blank ++ [125]), .noMembers hblank, by simp⟩
            · obtain ⟨⟨fields, behind⟩, hfound, hvalue⟩ := Option.map_eq_some_iff.mp hparse
              obtain ⟨rfl, rfl⟩ := Prod.mk.inj hvalue
              obtain ⟨read, hread, rfl⟩ := hmembers _ _ _ _ hfound
              exact ⟨123 :: read, .object hread, rfl⟩
          · obtain ⟨part, hpart, -, -, hmore⟩ := parseWord_split hparse
            have hexact := hmore [] endsNumber_nil
            rw [List.append_nil] at hexact
            exact ⟨part, .word hexact, hpart⟩
      · rw [parseItems] at hparse
        split at hparse
        · cases hparse
        · rename_i item behind hitem
          obtain ⟨blank, read, hblank, hread, rfl⟩ := hvalues _ _ _ hitem
          split at hparse
          · rename_i last hclose
            cases hparse
            obtain ⟨after, hafter, rfl⟩ := expect_split hclose
            exact ⟨_, .lastItem hblank hread hafter, by simp⟩
          · split at hparse
            · rename_i last hcomma
              obtain ⟨after, hafter, rfl⟩ := expect_split hcomma
              obtain ⟨⟨items, final⟩, hfound, hvalue⟩ := Option.map_eq_some_iff.mp hparse
              obtain ⟨rfl, rfl⟩ := Prod.mk.inj hvalue
              obtain ⟨more, hmore, rfl⟩ := hitems _ _ _ hfound
              exact ⟨_, .item hblank hread hafter hmore, by simp⟩
            · cases hparse
      · rw [parseMembers] at hparse
        simp only [Option.bind_eq_bind, Option.bind_eq_some_iff, Prod.exists] at hparse
        obtain ⟨quoted, hquote, name, behind, hname, colon, hcolon, value, last, hvalue, hparse⟩ :=
          hparse
        obtain ⟨blank, hblank, rfl⟩ := expect_split hquote
        obtain ⟨body, rfl, hbody⟩ := parseQuoted_split hname
        obtain ⟨between, hbetween, rfl⟩ := expect_split hcolon
        obtain ⟨space, read, hspace, hread, rfl⟩ := hvalues _ _ _ hvalue
        have hexact := hbody []
        rw [List.append_nil] at hexact
        split at hparse
        · rename_i final hclose
          cases hparse
          obtain ⟨after, hafter, rfl⟩ := expect_split hclose
          exact ⟨_, .lastMember hblank hexact hbetween hspace hread hafter, by simp⟩
        · split at hparse
          · rename_i final hcomma
            obtain ⟨after, hafter, rfl⟩ := expect_split hcomma
            obtain ⟨more, hmore, rfl⟩ := hmembers _ _ _ _ hparse
            exact ⟨_, .member hblank hexact hbetween hspace hread hafter hmore, by simp⟩
          · cases hparse

/-! ## From the grammar to the parser -/

theorem parseQuoted_append {body value : JsString} (hquoted : parseQuoted body = some (value, []))
    (more : JsString) : parseQuoted (body ++ more) = some (value, more) := by
  obtain ⟨part, hpart, hmore⟩ := parseQuoted_split hquoted
  rw [List.append_nil] at hpart
  rw [hpart]
  exact hmore more

theorem parseWord_append {value : JsValue} {word : JsString}
    (hword : parseWord word = some (value, [])) {more : JsString} (hmore : EndsNumber more) :
    parseWord (word ++ more) = some (value, more) := by
  obtain ⟨part, hpart, -, -, hparse⟩ := parseWord_split hword
  rw [List.append_nil] at hpart
  rw [hpart]
  exact hparse more hmore

theorem word_units {value : JsValue} {word : JsString} (hword : parseWord word = some (value, [])) :
    word ≠ [] ∧ ∀ unit ∈ word, isWordUnit unit = true := by
  obtain ⟨part, hpart, hsome, hunits, -⟩ := parseWord_split hword
  rw [List.append_nil] at hpart
  rw [hpart]
  exact ⟨hsome, hunits⟩

theorem blank_not_wordUnit {unit : UInt16} (hunit : isWordUnit unit = true) :
    isBlank unit = false ∧ unit ≠ 34 ∧ unit ≠ 91 ∧ unit ≠ 123 ∧ unit ≠ 93 ∧ unit ≠ 125 := by
  refine ⟨?_, ?_, ?_, ?_, ?_, ?_⟩
  · by_contra hblank
    simp only [isBlank, Bool.not_eq_false, Bool.or_eq_true, beq_iff_eq] at hblank
    rcases hblank with ((rfl | rfl) | rfl) | rfl <;> exact absurd hunit (by decide)
  all_goals
    rintro rfl
    exact absurd hunit (by decide)

/-- A value starts with a code unit that is neither white space nor closes anything. -/
theorem reads_head {value : JsValue} {text : JsString} (hreads : Reads (.value value) text) :
    ∃ unit tail, text = unit :: tail ∧ isBlank unit = false ∧ unit ≠ 93 ∧ unit ≠ 125 := by
  cases hreads with
  | string => exact ⟨34, _, rfl, by decide⟩
  | noItems | array => exact ⟨91, _, rfl, by decide⟩
  | noMembers | object => exact ⟨123, _, rfl, by decide⟩
  | word hword =>
      obtain ⟨hsome, hunits⟩ := word_units hword
      cases text with
      | nil => exact absurd rfl hsome
      | cons unit tail =>
          obtain ⟨hblank, -, -, -, hbracket, hbrace⟩ :=
            blank_not_wordUnit (hunits unit List.mem_cons_self)
          exact ⟨unit, tail, rfl, hblank, hbracket, hbrace⟩

/-- White space and a punctuator end a number. -/
theorem endsNumber_blank {blank : JsString} (hblank : Blank blank) {punctuator : UInt16}
    (hpunctuator : punctuator ∈ ([44, 93, 125] : JsString)) (rest : JsString) :
    EndsNumber (blank ++ punctuator :: rest) := by
  cases blank with
  | nil => exact endsNumber_punctuator hpunctuator rest
  | cons unit blank =>
      rintro _ ⟨⟩
      have hunit := hblank unit List.mem_cons_self
      simp only [isBlank, Bool.or_eq_true, beq_iff_eq] at hunit
      rcases hunit with ((rfl | rfl) | rfl) | rfl <;> decide

/-- What a phrase's parser gives of a text with enough fuel. -/
def Parses (text : JsString) : Phrase → Prop
  | .value value => ∀ fuel, 2 * text.length ≤ fuel → ∀ blank rest, Blank blank → EndsNumber rest →
      parseValue fuel (blank ++ (text ++ rest)) = some (value, rest)
  | .items items => ∀ fuel, 2 * text.length ≤ fuel → ∀ rest,
      parseItems fuel (text ++ rest) = some (items, rest)
  | .members before after => ∀ fuel, 2 * text.length ≤ fuel → ∀ rest,
      parseMembers fuel before (text ++ rest) = some (after, rest)

theorem fuel_succ {fuel : Nat} {unit : UInt16} {tail : JsString}
    (hfuel : 2 * (unit :: tail).length ≤ fuel) :
    ∃ more, fuel = more + 1 ∧ 2 * tail.length ≤ more := by
  rw [List.length_cons] at hfuel
  exact ⟨fuel - 1, by omega, by omega⟩

/-- The parser behind the white space of a value. -/
theorem parseValue_blank {blank : JsString} (hblank : Blank blank) {unit : UInt16} (fuel : Nat)
    (rest : JsString) :
    parseValue (fuel + 1) (blank ++ unit :: rest) = parseValue (fuel + 1) (unit :: rest) := by
  rw [parseValue, parseValue, skipBlank_append hblank]

/-- What starts with a value or a quote does not close at once. -/
theorem expect_items {items : List JsValue} {body : JsString} (hitems : Reads (.items items) body)
    (rest : JsString) : expect 93 (body ++ rest) = none := by
  have hvalue : ∀ {value : JsValue} {before text : JsString}, Blank before →
      Reads (.value value) text → ∀ more, expect 93 (before ++ (text ++ more)) = none := by
    intro value before text hbefore hreads more
    obtain ⟨unit, tail, rfl, hblank, hbracket, -⟩ := reads_head hreads
    exact expect_other hbefore hblank hbracket _
  cases hitems with
  | lastItem hbefore hitem =>
      rw [List.append_assoc, List.append_assoc]
      exact hvalue hbefore hitem _
  | item hbefore hitem =>
      rw [List.append_assoc, List.append_assoc]
      exact hvalue hbefore hitem _

theorem expect_members {before after : List (JsString × JsValue)} {body : JsString}
    (hmembers : Reads (.members before after) body) (rest : JsString) :
    expect 125 (body ++ rest) = none := by
  cases hmembers with
  | lastMember hbefore | member hbefore =>
      rw [List.append_assoc, List.cons_append]
      exact expect_other hbefore (by decide) (by decide) _

theorem parses_of_reads {phrase : Phrase} {text : JsString} (hreads : Reads phrase text) :
    Parses text phrase := by
  induction hreads with
  | @string text body hquoted =>
      intro fuel hfuel blank rest hblank _
      obtain ⟨fuel, rfl, -⟩ := fuel_succ hfuel
      rw [List.cons_append, parseValue_blank hblank, parseValue,
        skipBlank_cons (by decide)]
      simp only [if_true, parseQuoted_append hquoted, Option.map_some]
  | @word value text hword =>
      intro fuel hfuel blank rest hblank hrest
      obtain ⟨hsome, hunits⟩ := word_units hword
      cases text with
      | nil => exact absurd rfl hsome
      | cons unit tail =>
          obtain ⟨fuel, rfl, -⟩ := fuel_succ hfuel
          obtain ⟨hnot, hquote, hbracket, hbrace, -, -⟩ :=
            blank_not_wordUnit (hunits unit List.mem_cons_self)
          have hparse := parseWord_append hword hrest
          rw [List.cons_append] at hparse ⊢
          rw [parseValue_blank hblank, parseValue, skipBlank_cons hnot]
          simp only [if_neg hquote, if_neg hbracket, if_neg hbrace, hparse]
  | @noItems inner hinner =>
      intro fuel hfuel blank rest hblank _
      obtain ⟨fuel, rfl, -⟩ := fuel_succ hfuel
      rw [List.cons_append, List.append_assoc, parseValue_blank hblank, parseValue,
        skipBlank_cons (by decide)]
      simp only [show ¬(91 : UInt16) = 34 by decide, if_false, if_true]
      rw [List.cons_append, expect_append hinner (by decide)]
      rfl
  | @array items body hitems ih =>
      intro fuel hfuel blank rest hblank _
      obtain ⟨fuel, rfl, hmore⟩ := fuel_succ hfuel
      have hopen := expect_items hitems rest
      rw [List.cons_append, parseValue_blank hblank, parseValue,
        skipBlank_cons (by decide)]
      simp only [show ¬(91 : UInt16) = 34 by decide, if_false, if_true, hopen]
      rw [ih fuel hmore rest]
      rfl
  | @noMembers inner hinner =>
      intro fuel hfuel blank rest hblank _
      obtain ⟨fuel, rfl, -⟩ := fuel_succ hfuel
      rw [List.cons_append, List.append_assoc, parseValue_blank hblank, parseValue,
        skipBlank_cons (by decide)]
      simp only [show ¬(123 : UInt16) = 34 by decide, show ¬(123 : UInt16) = 91 by decide, if_false,
        if_true]
      rw [List.cons_append, expect_append hinner (by decide)]
      rfl
  | @object fields body hmembers ih =>
      intro fuel hfuel blank rest hblank _
      obtain ⟨fuel, rfl, hmore⟩ := fuel_succ hfuel
      have hopen := expect_members hmembers rest
      rw [List.cons_append, parseValue_blank hblank, parseValue,
        skipBlank_cons (by decide)]
      simp only [show ¬(123 : UInt16) = 34 by decide, show ¬(123 : UInt16) = 91 by decide, if_false,
        if_true, hopen]
      rw [ih fuel hmore rest]
      rfl
  | @lastItem item before text after hbefore hitem hafter ih =>
      intro fuel hfuel rest
      simp only [List.length_append, List.length_cons] at hfuel
      obtain ⟨fuel, rfl⟩ : ∃ more, fuel = more + 1 := ⟨fuel - 1, by omega⟩
      have hparse := ih fuel (by omega) before (after ++ 93 :: rest) hbefore
        (endsNumber_blank hafter (by decide) rest)
      simp only [List.append_assoc, List.cons_append, List.nil_append]
      rw [parseItems, hparse]
      dsimp only
      rw [expect_append hafter (by decide)]
  | @item item items before text after more hbefore hitem hafter hitems ihItem ihItems =>
      intro fuel hfuel rest
      simp only [List.length_append, List.length_cons] at hfuel
      obtain ⟨fuel, rfl⟩ : ∃ more, fuel = more + 1 := ⟨fuel - 1, by omega⟩
      have hparse := ihItem fuel (by omega) before (after ++ 44 :: (more ++ rest)) hbefore
        (endsNumber_blank hafter (by decide) _)
      simp only [List.append_assoc, List.cons_append]
      rw [parseItems, hparse]
      dsimp only
      rw [expect_other hafter (by decide) (by decide), expect_append hafter (by decide)]
      dsimp only
      rw [ihItems fuel (by omega) rest]
      rfl
  | @lastMember fields name value before body colon between text after hbefore hname hcolon hbetween
      hvalue hafter ih =>
      intro fuel hfuel rest
      simp only [List.length_append, List.length_cons] at hfuel
      obtain ⟨fuel, rfl⟩ : ∃ more, fuel = more + 1 := ⟨fuel - 1, by omega⟩
      have hparse := ih fuel (by omega) between (after ++ 125 :: rest) hbetween
        (endsNumber_blank hafter (by decide) rest)
      simp only [List.append_assoc, List.cons_append, List.nil_append]
      rw [parseMembers, expect_append hbefore (by decide)]
      simp only [Option.bind_eq_bind, Option.bind_some, parseQuoted_append hname]
      rw [expect_append hcolon (by decide)]
      simp only [Option.bind_some, hparse]
      rw [expect_append hafter (by decide)]
  | @member fields last name value before body colon between text after more hbefore hname hcolon
      hbetween hvalue hafter hmembers ihValue ihMembers =>
      intro fuel hfuel rest
      simp only [List.length_append, List.length_cons] at hfuel
      obtain ⟨fuel, rfl⟩ : ∃ more, fuel = more + 1 := ⟨fuel - 1, by omega⟩
      have hparse := ihValue fuel (by omega) between (after ++ 44 :: (more ++ rest)) hbetween
        (endsNumber_blank hafter (by decide) _)
      simp only [List.append_assoc, List.cons_append]
      rw [parseMembers, expect_append hbefore (by decide)]
      simp only [Option.bind_eq_bind, Option.bind_some, parseQuoted_append hname]
      rw [expect_append hcolon (by decide)]
      simp only [Option.bind_some, hparse]
      rw [expect_other hafter (by decide) (by decide), expect_append hafter (by decide)]
      exact ihMembers fuel (by omega) rest

theorem skipBlank_eq_nil : skipBlank text = [] ↔ Blank text := by
  rw [skipBlank, List.dropWhile_eq_nil_iff]
  rfl

theorem endsNumber_of_blank (hblank : Blank text) : EndsNumber text := by
  cases text with
  | nil => exact endsNumber_nil
  | cons unit tail =>
      rintro _ ⟨⟩
      have hunit := hblank unit List.mem_cons_self
      simp only [isBlank, Bool.or_eq_true, beq_iff_eq] at hunit
      rcases hunit with ((rfl | rfl) | rfl) | rfl <;> decide

/-- `JSON.parse` reads the texts of the grammar, white space around them allowed. -/
theorem parse_iff {value : JsValue} : parse text = some value ↔
    ∃ before read after, Blank before ∧ Blank after ∧ Reads (.value value) read ∧
      text = before ++ (read ++ after) := by
  constructor
  · intro hparse
    rw [parse] at hparse
    split at hparse
    · rename_i found rest hvalue
      split at hparse
      · rename_i hblank
        cases hparse
        obtain ⟨before, read, hbefore, hread, htext⟩ := (reads_of_parse _).1 _ _ _ hvalue
        exact ⟨before, read, rest, hbefore, skipBlank_eq_nil.mp hblank, hread, htext⟩
      · cases hparse
    · cases hparse
  · rintro ⟨before, read, after, hbefore, hafter, hread, rfl⟩
    have hparse := parses_of_reads hread (2 * (before ++ (read ++ after)).length)
      (by simp only [List.length_append]; omega) before after hbefore (endsNumber_of_blank hafter)
    rw [parse, hparse]
    exact if_pos (skipBlank_eq_nil.mpr hafter)

theorem parse_of_reads {value : JsValue} (hreads : Reads (.value value) text) :
    parse text = some value :=
  parse_iff.mpr ⟨[], text, [], blank_nil, blank_nil, hreads, (List.append_nil text).symm⟩

end OdinSentinel.Json
