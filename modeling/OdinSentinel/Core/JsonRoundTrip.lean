import OdinSentinel.Core.JsonParse

/-!
# JSON round trip

`JSON.parse` reads back what `JSON.stringify` writes of plain data, and that text is
one line.
-/

namespace OdinSentinel.Json

open JsText Host

/-! ## Reading back strings -/

theorem hexDigit_hex {digit : Nat} (hdigit : digit < 16) :
    hexDigit (if digit < 10 then 48 + digit else 87 + digit).toUInt16 = some digit := by
  have hall : (List.range 16).all fun digit =>
      hexDigit (if digit < 10 then 48 + digit else 87 + digit).toUInt16 == some digit := by decide
  simpa using List.all_eq_true.mp hall digit (List.mem_range.mpr hdigit)

theorem parseQuoted_plain {unit : UInt16} (hquote : unit ≠ 34) (hescape : unit ≠ 92)
    (hcontrol : ¬unit.toNat < 32) (rest : JsString) :
    parseQuoted (unit :: rest) = prepend unit (parseQuoted rest) := by
  rw [parseQuoted.eq_def]
  simp [hquote, hescape, hcontrol]

theorem parseQuoted_letter {letter unit : UInt16} (hletter : letter ≠ 117)
    (hunit : unescape letter = some unit) (rest : JsString) :
    parseQuoted (92 :: letter :: rest) = prepend unit (parseQuoted rest) := by
  rw [parseQuoted.eq_def]
  simp [hletter, hunit]

theorem parseQuoted_close (rest : JsString) : parseQuoted (34 :: rest) = some ([], rest) := by
  rw [parseQuoted.eq_def]
  rfl

/-- The four digits of a code unit denote it. -/
theorem hexUnit_hex4 (unit : UInt16) : ∃ first second third fourth,
    hex4 unit.toNat = [first, second, third, fourth] ∧
      hexUnit first second third fourth = some unit := by
  have hlt := unit.toNat_lt
  have hvalue : unit.toNat / 4096 * 4096 + unit.toNat / 256 % 16 * 256 +
      unit.toNat / 16 % 16 * 16 + unit.toNat % 16 = unit.toNat := by omega
  refine ⟨_, _, _, _, rfl, ?_⟩
  rw [hexUnit, hexDigit_hex (by omega), hexDigit_hex (by omega), hexDigit_hex (by omega),
    hexDigit_hex (by omega)]
  simp only [Option.bind_eq_bind, Option.bind_some, hvalue]
  simp

theorem parseQuoted_hex (unit : UInt16) (rest : JsString) :
    parseQuoted (js "\\u" ++ hex4 unit.toNat ++ rest) = prepend unit (parseQuoted rest) := by
  obtain ⟨first, second, third, fourth, hdigits, hunit⟩ := hexUnit_hex4 unit
  have hshape : js "\\u" ++ hex4 unit.toNat ++ rest =
      92 :: 117 :: first :: second :: third :: fourth :: rest := by
    rw [hdigits]
    rfl
  rw [hshape, parseQuoted.eq_def]
  simp [hunit]

theorem parseQuoted_quoteUnit (unit : UInt16) (rest : JsString) :
    parseQuoted (quoteUnit unit ++ rest) = prepend unit (parseQuoted rest) := by
  rw [quoteUnit]
  split_ifs with h8 h9 h10 h12 h13 h34 h92 hhex
  · subst h8
    exact parseQuoted_letter (by decide) rfl rest
  · subst h9
    exact parseQuoted_letter (by decide) rfl rest
  · subst h10
    exact parseQuoted_letter (by decide) rfl rest
  · subst h12
    exact parseQuoted_letter (by decide) rfl rest
  · subst h13
    exact parseQuoted_letter (by decide) rfl rest
  · subst h34
    exact parseQuoted_letter (by decide) rfl rest
  · subst h92
    exact parseQuoted_letter (by decide) rfl rest
  · exact parseQuoted_hex unit rest
  · exact parseQuoted_plain h34 h92 (fun hcontrol => hhex (.inl hcontrol)) rest

theorem parseQuoted_quoteUnits (text rest : JsString) :
    parseQuoted (quoteUnits text ++ 34 :: rest) = some (text, rest) := by
  induction text using quoteUnits.induct with
  | case1 => exact parseQuoted_close rest
  | case2 unit =>
      rw [quoteUnits, parseQuoted_quoteUnit, parseQuoted_close]
      rfl
  | case3 high low text hpair ih =>
      have hhigh : high ≠ 34 ∧ high ≠ 92 := by
        constructor <;> rintro rfl <;> exact absurd hpair.1 (by decide)
      have hlow : low ≠ 34 ∧ low ≠ 92 := by
        constructor <;> rintro rfl <;> exact absurd hpair.2.2.1 (by decide)
      rw [quoteUnits, if_pos hpair, List.cons_append, List.cons_append,
        parseQuoted_plain hhigh.1 hhigh.2 (by omega), parseQuoted_plain hlow.1 hlow.2 (by omega), ih]
      rfl
  | case4 high low text hpair ih =>
      rw [quoteUnits, if_neg hpair, List.append_assoc, parseQuoted_quoteUnit, ih]
      rfl
/-! ## Reading back numbers -/

theorem js_append (left right : String) : js (left ++ right) = js left ++ js right := by
  simp [js]

theorem natText_of_lt {value : Nat} (hvalue : value < 10) :
    natText value = [(48 + value).toUInt16] := by
  have hall : (List.range 10).all fun value => natText value == [(48 + value).toUInt16] := by
    decide
  simpa using List.all_eq_true.mp hall value (List.mem_range.mpr hvalue)

theorem natText_of_ge {value : Nat} (hvalue : 10 ≤ value) :
    natText value = natText (value / 10) ++ [(48 + value % 10).toUInt16] := by
  rw [← natText_of_lt (Nat.mod_lt value (by decide))]
  show js value.repr = js (value / 10).repr ++ js (value % 10).repr
  rw [Nat.repr_eq_repr_append_repr hvalue, js_append]

theorem digit_toNat {digit : Nat} (hdigit : digit < 10) :
    ((48 + digit).toUInt16).toNat = 48 + digit := by
  rw [Nat.toUInt16_eq, UInt16.toNat_ofNat']
  omega

theorem isDigit_of_mem_natText (value : Nat) : ∀ unit ∈ natText value, isDigit unit = true := by
  have hdigit : ∀ digit < 10, isDigit (48 + digit).toUInt16 = true := by
    intro digit hdigit
    rw [isDigit, digit_toNat hdigit]
    simp only [Bool.and_eq_true, decide_eq_true_eq]
    omega
  induction value using Nat.strong_induction_on with
  | _ value ih =>
      rcases Nat.lt_or_ge value 10 with hvalue | hvalue
      · rw [natText_of_lt hvalue]
        simpa using hdigit value hvalue
      · rw [natText_of_ge hvalue]
        intro unit hmem
        rcases List.mem_append.mp hmem with hmem | hmem
        · exact ih (value / 10) (Nat.div_lt_self (by omega) (by decide)) unit hmem
        · rw [List.mem_singleton.mp hmem]
          exact hdigit _ (Nat.mod_lt value (by decide))

theorem decimal_natText (value : Nat) : decimal (natText value) = value := by
  induction value using Nat.strong_induction_on with
  | _ value ih =>
      rcases Nat.lt_or_ge value 10 with hvalue | hvalue
      · rw [natText_of_lt hvalue]
        simp only [decimal, List.foldl_cons, List.foldl_nil, digit_toNat hvalue]
        omega
      · have hfront := ih (value / 10) (Nat.div_lt_self (by omega) (by decide))
        have hlast := digit_toNat (Nat.mod_lt value (show 0 < 10 by decide))
        rw [natText_of_ge hvalue]
        simp only [decimal, List.foldl_append, List.foldl_cons, List.foldl_nil] at hfront ⊢
        rw [hfront, hlast]
        omega

/-- No leading zero. -/
theorem natText_head (value : Nat) :
    ∃ unit rest, natText value = unit :: rest ∧ (unit = 48 → rest = []) := by
  induction value using Nat.strong_induction_on with
  | _ value ih =>
      rcases Nat.lt_or_ge value 10 with hvalue | hvalue
      · exact ⟨_, [], natText_of_lt hvalue, fun _ => rfl⟩
      · obtain ⟨unit, rest, hfront, hzero⟩ := ih (value / 10) (Nat.div_lt_self (by omega) (by decide))
        refine ⟨unit, rest ++ [(48 + value % 10).toUInt16], by rw [natText_of_ge hvalue, hfront]; rfl, ?_⟩
        intro hunit
        have hrest := hzero hunit
        subst hrest hunit
        have hvalue' := decimal_natText (value / 10)
        rw [hfront] at hvalue'
        have : value / 10 = 0 := by
          rw [← hvalue']
          rfl
        omega

/-- What can follow a number: nothing, or a code unit that does not continue it. -/
def EndsNumber (rest : JsString) : Prop :=
  ∀ unit ∈ rest.head?, isDigit unit = false ∧ unit ≠ 46 ∧ unit ≠ 101 ∧ unit ≠ 69

theorem takeWhile_natText (value : Nat) {rest : JsString} (hrest : EndsNumber rest) :
    (natText value ++ rest).takeWhile isDigit = natText value ∧
      (natText value ++ rest).dropWhile isDigit = rest := by
  have hdigits := isDigit_of_mem_natText value
  rw [List.takeWhile_append_of_pos hdigits, List.dropWhile_append_of_pos hdigits]
  cases rest with
  | nil => simp
  | cons unit rest =>
      have hunit := (hrest unit rfl).1
      simp [hunit]

theorem parseNumber_natText {value : Nat} (hvalue : value < 2 ^ 53) {rest : JsString}
    (hrest : EndsNumber rest) :
    parseNumber (natText value ++ rest) = some (.ofNat value, rest) := by
  obtain ⟨unit, tail, hhead, hzero⟩ := natText_head value
  have hdigit : isDigit unit = true := isDigit_of_mem_natText value unit (by simp [hhead])
  have hminus : unit ≠ 45 := by
    rintro rfl
    cases hdigit
  have hfraction : parseFraction rest = some (0, rest) := by
    cases rest with
    | nil => rfl
    | cons next rest => simp [parseFraction, (hrest next rfl).2.1]
  have hexponent : parseExponent rest = some (0, rest) := by
    cases rest with
    | nil => rfl
    | cons next rest => simp [parseExponent, (hrest next rfl).2.2.1, (hrest next rfl).2.2.2]
  have hround : toDouble ((value : Int) : ℚ) = .finite (value : Int) := toDouble_intCast (by simpa using hvalue)
  have hnonneg : ((natText value ++ rest).head? == some 45) = false := by
    rw [hhead]
    simpa using hminus
  rw [parseNumber]
  rw [hnonneg]
  simp only [Bool.false_eq_true, if_false, (takeWhile_natText value hrest).1, (takeWhile_natText value hrest).2]
  rw [if_neg]
  · rw [hfraction]
    simp only [Option.bind_eq_bind, Option.bind_some, hexponent, decimal_natText]
    simpa [JsNumber.ofNat] using hround
  · rintro (hnil | ⟨hfirst, hlong⟩)
    · rw [hhead] at hnil
      cases hnil
    · rw [hhead] at hfirst hlong
      simp [hzero (Option.some.inj hfirst)] at hlong

theorem skipBlank_cons {unit : UInt16} (hunit : isBlank unit = false) (rest : JsString) :
    skipBlank (unit :: rest) = unit :: rest := by
  simp [skipBlank, hunit]

theorem expect_self {unit : UInt16} (hunit : isBlank unit = false) (rest : JsString) :
    expect unit (unit :: rest) = some rest := by
  simp [expect, skipBlank_cons hunit]

theorem expect_ne {unit punctuator : UInt16} (hunit : isBlank unit = false)
    (hne : unit ≠ punctuator) (rest : JsString) : expect punctuator (unit :: rest) = none := by
  simp [expect, skipBlank_cons hunit, hne]

/-! ## Reading back values -/

mutual

/-- What `JSON.stringify` writes and `JSON.parse` reads back: no missing values, numbers
that are safe naturals, member names that differ. -/
def Plain : JsValue → Prop
  | .undefined => False
  | .null => True
  | .bool _ => True
  | .number value => ∃ natural < 2 ^ 53, value = .ofNat natural
  | .string _ => True
  | .array items => PlainItems items
  | .object fields => (fields.map Prod.fst).Nodup ∧ PlainFields fields

def PlainItems : List JsValue → Prop
  | [] => True
  | item :: items => Plain item ∧ PlainItems items

def PlainFields : List (JsString × JsValue) → Prop
  | [] => True
  | (_, value) :: fields => Plain value ∧ PlainFields fields

end

theorem plainItems_of_forall {items : List JsValue} (hitems : ∀ item ∈ items, Plain item) :
    PlainItems items := by
  induction items with
  | nil => exact trivial
  | cons item items ih =>
      exact ⟨hitems item List.mem_cons_self, ih (List.forall_mem_of_forall_mem_cons hitems)⟩

variable {host : HostRuntime}

theorem numberJson_ofNat {natural : Nat} (hsafe : natural < 2 ^ 53) :
    host.numberJson (.ofNat natural) = natText natural := by
  have hshort : (natural : ℚ).den = 1 ∧ (natural : ℚ).num.natAbs < 10 ^ 21 :=
    ⟨Rat.den_natCast natural, lt_trans hsafe (by decide)⟩
  show host.numberToString natural = natText natural
  rw [HostRuntime.numberToString, if_pos hshort, if_neg (by simp)]
  simp

theorem intercalate_cons_cons (first second : JsString) (rest : List JsString) :
    List.intercalate [44] (first :: second :: rest) =
      first ++ 44 :: List.intercalate [44] (second :: rest) := by
  simp [List.intercalate]

theorem intercalate_singleton (text : JsString) : List.intercalate [44] [text] = text := by
  simp [List.intercalate]

theorem stringifyFields_cons {value : JsValue} (hvalue : Plain value) (name : JsString)
    (fields : List (JsString × JsValue)) :
    stringifyFields host ((name, value) :: fields) =
      (quote name ++ 58 :: stringify host value) :: stringifyFields host fields := by
  cases value with
  | undefined => exact hvalue.elim
  | _ => rw [stringifyFields]; simp

/-- The text of a plain value starts with a code unit that is neither blank nor a
closing bracket. -/
theorem stringify_head {value : JsValue} (hvalue : Plain value) :
    ∃ unit rest, stringify host value = unit :: rest ∧ isBlank unit = false ∧ unit ≠ 93 := by
  cases value with
  | undefined => exact hvalue.elim
  | null => exact ⟨_, _, rfl, by decide, by decide⟩
  | bool value => cases value <;> exact ⟨_, _, rfl, by decide, by decide⟩
  | number value =>
      obtain ⟨natural, hsafe, rfl⟩ := hvalue
      obtain ⟨unit, rest, hhead, -⟩ := natText_head natural
      have hdigit := isDigit_of_mem_natText natural unit (by simp [hhead])
      refine ⟨unit, rest, by rw [stringify, numberJson_ofNat hsafe, hhead], ?_, ?_⟩
      · simp only [isBlank, Bool.or_eq_false_iff, beq_eq_false_iff_ne]
        refine ⟨⟨⟨?_, ?_⟩, ?_⟩, ?_⟩ <;> rintro rfl <;> cases hdigit
      · rintro rfl
        cases hdigit
  | string text => exact ⟨34, _, rfl, by decide, by decide⟩
  | array items => exact ⟨91, _, rfl, by decide, by decide⟩
  | object fields => exact ⟨123, _, rfl, by decide, by decide⟩

theorem expect_stringify {value : JsValue} (hvalue : Plain value) (rest : JsString) :
    expect 93 (stringify host value ++ rest) = none := by
  obtain ⟨unit, tail, htext, hblank, hne⟩ := @stringify_head host value hvalue
  rw [htext]
  exact expect_ne hblank hne (tail ++ rest)

/-- A punctuator ends a number. -/
theorem endsNumber_punctuator {punctuator : UInt16}
    (hpunctuator : punctuator ∈ ([44, 93, 125] : JsString)) (rest : JsString) :
    EndsNumber (punctuator :: rest) := by
  intro unit hunit
  obtain rfl := Option.some.inj hunit
  simp only [List.mem_cons, List.not_mem_nil, or_false] at hpunctuator
  rcases hpunctuator with rfl | rfl | rfl <;> decide

theorem endsNumber_comma (rest : JsString) : EndsNumber (44 :: rest) :=
  endsNumber_punctuator (by decide) rest

theorem endsNumber_bracket (rest : JsString) : EndsNumber (93 :: rest) :=
  endsNumber_punctuator (by decide) rest

theorem endsNumber_brace (rest : JsString) : EndsNumber (125 :: rest) :=
  endsNumber_punctuator (by decide) rest

theorem quote_member (name text : JsString) :
    quote name ++ 58 :: text = 34 :: (quoteUnits name ++ 34 :: 58 :: text) := by
  simp [quote]

/-- The last member of an object. -/
theorem parseMembers_last {fuel : Nat} {name text rest : JsString} {value : JsValue}
    (before : List (JsString × JsValue))
    (hvalue : parseValue fuel (text ++ 125 :: rest) = some (value, 125 :: rest)) :
    parseMembers (fuel + 1) before (quote name ++ 58 :: (text ++ 125 :: rest)) =
      some (setField before name value, rest) := by
  rw [parseMembers, quote_member, expect_self (by decide)]
  simp only [Option.bind_eq_bind, Option.bind_some, parseQuoted_quoteUnits]
  rw [expect_self (by decide)]
  simp only [Option.bind_some, hvalue]
  rw [expect_self (by decide)]

/-- A member with another one behind it. -/
theorem parseMembers_more {fuel : Nat} {name text rest : JsString} {value : JsValue}
    (before : List (JsString × JsValue))
    (hvalue : parseValue fuel (text ++ 44 :: rest) = some (value, 44 :: rest)) :
    parseMembers (fuel + 1) before (quote name ++ 58 :: (text ++ 44 :: rest)) =
      parseMembers fuel (setField before name value) rest := by
  rw [parseMembers, quote_member, expect_self (by decide)]
  simp only [Option.bind_eq_bind, Option.bind_some, parseQuoted_quoteUnits]
  rw [expect_self (by decide)]
  simp only [Option.bind_some, hvalue]
  rw [expect_ne (by decide) (by decide), expect_self (by decide)]

theorem setField_append {fields : List (JsString × JsValue)} {name : JsString}
    (hname : name ∉ fields.map Prod.fst) (value : JsValue) :
    setField fields name value = fields ++ [(name, value)] := by
  rw [setField, if_neg]
  simpa using hname

theorem parseWord_natText {natural : Nat} (hsafe : natural < 2 ^ 53) {rest : JsString}
    (hrest : EndsNumber rest) :
    parseWord (natText natural ++ rest) = some (.number (.ofNat natural), rest) := by
  obtain ⟨unit, tail, hhead, -⟩ := natText_head natural
  have hdigit := isDigit_of_mem_natText natural unit (by simp [hhead])
  have hnot : ∀ first word, isDigit first = false →
      List.isPrefixOf (first :: word) (natText natural ++ rest) = false := by
    intro first word hfirst
    have hne : (first == unit) = false := by
      rw [beq_eq_false_iff_ne]
      rintro rfl
      rw [hfirst] at hdigit
      cases hdigit
    simp [hhead, List.isPrefixOf, hne]
  have htrue : js "true" = 116 :: js "rue" := rfl
  have hfalse : js "false" = 102 :: js "alse" := rfl
  have hnull : js "null" = 110 :: js "ull" := rfl
  rw [parseWord, htrue, hfalse, hnull, hnot _ _ (by decide), hnot _ _ (by decide),
    hnot _ _ (by decide), parseNumber_natText hsafe hrest]
  rfl

mutual

theorem parseValue_stringify (value : JsValue) (hvalue : Plain value) (fuel : Nat)
    (rest : JsString) (hfuel : 2 * (stringify host value).length ≤ fuel)
    (hrest : EndsNumber rest) :
    parseValue fuel (stringify host value ++ rest) = some (value, rest) := by
  obtain ⟨unit, tail, htext, hblank, -⟩ := @stringify_head host value hvalue
  obtain ⟨fuel, rfl⟩ : ∃ more, fuel = more + 1 := by
    rw [htext] at hfuel
    exact ⟨fuel - 1, by simp at hfuel; omega⟩
  have hskip : skipBlank (stringify host value ++ rest) = stringify host value ++ rest := by
    rw [htext]
    exact skipBlank_cons hblank (tail ++ rest)
  rw [parseValue, hskip]
  match value, hvalue with
  | .null, _ => rfl
  | .bool true, _ => rfl
  | .bool false, _ => rfl
  | .number _, ⟨natural, hsafe, rfl⟩ =>
      rw [stringify, numberJson_ofNat hsafe] at htext ⊢
      have hdigit : isDigit unit = true :=
        isDigit_of_mem_natText natural unit (by simp [htext])
      have hother : unit ≠ 34 ∧ unit ≠ 91 ∧ unit ≠ 123 := by
        refine ⟨?_, ?_, ?_⟩ <;> rintro rfl <;> cases hdigit
      have hword := parseWord_natText hsafe hrest
      rw [htext, List.cons_append] at hword ⊢
      simp only [if_neg hother.1, if_neg hother.2.1, if_neg hother.2.2, hword]
  | .string text, _ =>
      have hquoted : stringify host (.string text) ++ rest =
          34 :: (quoteUnits text ++ 34 :: rest) := by simp [stringify, quote]
      rw [hquoted]
      simp [parseQuoted_quoteUnits]
  | .array [], _ => rfl
  | .array (item :: items), hitems =>
      have harray : stringify host (.array (item :: items)) ++ rest =
          91 :: (List.intercalate [44] (stringifyItems host (item :: items)) ++ 93 :: rest) := by
        simp [stringify]
      have hopen : expect 93 (List.intercalate [44] (stringifyItems host (item :: items)) ++
          93 :: rest) = none := by
        rw [stringifyItems]
        cases items with
        | nil =>
            rw [stringifyItems, intercalate_singleton]
            exact expect_stringify hitems.1 _
        | cons second items =>
            rw [stringifyItems, intercalate_cons_cons, List.append_assoc]
            exact expect_stringify hitems.1 _
      have hlength : 2 * (List.intercalate [44]
          (stringifyItems host (item :: items))).length + 1 ≤ fuel := by
        simp [stringify] at hfuel
        omega
      rw [harray]
      simp [hopen, parseItems_stringify item items hitems fuel rest hlength]
  | .object [], _ => rfl
  | .object ((name, value) :: fields), hfields =>
      have hobject : stringify host (.object ((name, value) :: fields)) ++ rest =
          123 :: (List.intercalate [44] (stringifyFields host ((name, value) :: fields)) ++
            125 :: rest) := by
        simp [stringify]
      have hopen : expect 125 (List.intercalate [44]
          (stringifyFields host ((name, value) :: fields)) ++ 125 :: rest) = none := by
        rw [stringifyFields_cons hfields.2.1]
        cases fields with
        | nil => 
            rw [stringifyFields, intercalate_singleton]
            exact expect_ne (by decide) (by decide) _
        | cons second fields =>
            rw [stringifyFields_cons hfields.2.2.1, intercalate_cons_cons]
            exact expect_ne (by decide) (by decide) _
      have hlength : 2 * (List.intercalate [44]
          (stringifyFields host ((name, value) :: fields))).length + 1 ≤ fuel := by
        simp [stringify] at hfuel
        omega
      rw [hobject]
      simp [hopen, parseMembers_stringify name value fields [] hfields.2 hfields.1 fuel rest hlength]
termination_by fuel

theorem parseItems_stringify (item : JsValue) (items : List JsValue)
    (hitems : PlainItems (item :: items)) (fuel : Nat) (rest : JsString)
    (hfuel : 2 * (List.intercalate [44] (stringifyItems host (item :: items))).length + 1 ≤ fuel) :
    parseItems fuel (List.intercalate [44] (stringifyItems host (item :: items)) ++ 93 :: rest) =
      some (item :: items, rest) := by
  obtain ⟨fuel, rfl⟩ : ∃ more, fuel = more + 1 := ⟨fuel - 1, by omega⟩
  rw [parseItems]
  match items, hitems with
  | [], hitems =>
      rw [stringifyItems, stringifyItems, intercalate_singleton] at hfuel ⊢
      rw [parseValue_stringify item hitems.1 fuel _ (by omega) (endsNumber_bracket rest)]
      simp [expect_self (show isBlank 93 = false by decide)]
  | second :: items, hitems =>
      rw [stringifyItems, stringifyItems, intercalate_cons_cons] at hfuel ⊢
      rw [List.length_append, List.length_cons] at hfuel
      rw [List.append_assoc, List.cons_append,
        parseValue_stringify item hitems.1 fuel _ (by omega) (endsNumber_comma _)]
      have hrest := parseItems_stringify second items hitems.2 fuel rest (by
        rw [stringifyItems]
        omega)
      rw [stringifyItems] at hrest
      simp [expect_ne (show isBlank 44 = false by decide) (show (44 : UInt16) ≠ 93 by decide),
        expect_self (show isBlank 44 = false by decide), hrest]
termination_by fuel

theorem parseMembers_stringify (name : JsString) (value : JsValue)
    (fields before : List (JsString × JsValue)) (hfields : PlainFields ((name, value) :: fields))
    (hnames : ((before ++ (name, value) :: fields).map Prod.fst).Nodup) (fuel : Nat)
    (rest : JsString)
    (hfuel : 2 * (List.intercalate [44]
      (stringifyFields host ((name, value) :: fields))).length + 1 ≤ fuel) :
    parseMembers fuel before
      (List.intercalate [44] (stringifyFields host ((name, value) :: fields)) ++ 125 :: rest) =
      some (before ++ (name, value) :: fields, rest) := by
  obtain ⟨fuel, rfl⟩ : ∃ more, fuel = more + 1 := ⟨fuel - 1, by omega⟩
  have hfresh : name ∉ before.map Prod.fst := by
    intro hmem
    rw [List.map_append, List.nodup_append] at hnames
    exact hnames.2.2 name hmem name (by simp) rfl
  have hset := setField_append hfresh value
  rw [stringifyFields_cons hfields.1] at hfuel ⊢
  match fields, hfields with
  | [], hfields =>
      rw [stringifyFields, intercalate_singleton] at hfuel ⊢
      rw [List.length_append, List.length_cons] at hfuel
      rw [List.append_assoc, List.cons_append, parseMembers_last before
        (parseValue_stringify value hfields.1 fuel _ (by omega) (endsNumber_brace rest)), hset]
  | (second, other) :: fields, hfields =>
      rw [stringifyFields_cons hfields.2.1, intercalate_cons_cons] at hfuel ⊢
      rw [List.length_append, List.length_append, List.length_cons, List.length_cons] at hfuel
      have hrest := parseMembers_stringify second other fields (before ++ [(name, value)])
        hfields.2 (by simpa using hnames) fuel rest (by
          rw [stringifyFields_cons hfields.2.1]
          omega)
      rw [stringifyFields_cons hfields.2.1] at hrest
      rw [List.append_assoc, List.append_assoc, List.cons_append, List.cons_append,
        parseMembers_more before
          (parseValue_stringify value hfields.1 fuel _ (by omega) (endsNumber_comma _)), hset]
      simpa using hrest
termination_by fuel

end

/-- Plain data comes back from its text. -/
theorem parse_stringify {value : JsValue} (hvalue : Plain value) :
    parse (stringify host value) = some value := by
  have hread := @parseValue_stringify host value hvalue
    (2 * (stringify host value).length) [] le_rfl (by rintro unit ⟨⟩)
  rw [List.append_nil] at hread
  simp [parse, hread, skipBlank]

/-! ## One line -/

theorem natText_ne_newline (value : Nat) : (10 : UInt16) ∉ natText value :=
  fun hmem => absurd (isDigit_of_mem_natText value 10 hmem) (by decide)

theorem hex4_ne_newline {value : Nat} (hvalue : value < 65536) : (10 : UInt16) ∉ hex4 value := by
  have hdigit : ∀ digit < 16,
      (if digit < 10 then 48 + digit else 87 + digit).toUInt16 ≠ 10 := by
    intro digit hdigit hnewline
    have hread := hexDigit_hex hdigit
    rw [hnewline] at hread
    cases hread
  simp only [hex4, List.map_cons, List.map_nil, List.mem_cons, List.not_mem_nil, or_false, not_or]
  exact ⟨(hdigit _ (by omega)).symm, (hdigit _ (by omega)).symm, (hdigit _ (by omega)).symm,
    (hdigit _ (by omega)).symm⟩

theorem quoteUnit_ne_newline (unit : UInt16) : (10 : UInt16) ∉ quoteUnit unit := by
  rw [quoteUnit]
  split_ifs with h8 h9 h10 h12 h13 h34 h92 hhex
  · decide
  · decide
  · decide
  · decide
  · decide
  · decide
  · decide
  · rw [List.mem_append, not_or]
    exact ⟨by decide, hex4_ne_newline unit.toNat_lt⟩
  · simpa using Ne.symm h10

theorem quoteUnits_ne_newline (text : JsString) : (10 : UInt16) ∉ quoteUnits text := by
  induction text using quoteUnits.induct with
  | case1 => exact List.not_mem_nil
  | case2 unit => exact quoteUnit_ne_newline unit
  | case3 high low rest hpair ih =>
      rw [quoteUnits, if_pos hpair]
      have hhigh : (10 : UInt16) ≠ high := by
        rintro rfl
        exact absurd hpair.1 (by decide)
      have hlow : (10 : UInt16) ≠ low := by
        rintro rfl
        exact absurd hpair.2.2.1 (by decide)
      simp [hhigh, hlow, ih]
  | case4 high low rest hpair ih =>
      rw [quoteUnits, if_neg hpair, List.mem_append, not_or]
      exact ⟨quoteUnit_ne_newline high, ih⟩

theorem quote_ne_newline (text : JsString) : (10 : UInt16) ∉ quote text := by
  have hunits := quoteUnits_ne_newline text
  simp [quote, hunits]

theorem intercalate_ne_newline {texts : List JsString}
    (htexts : ∀ text ∈ texts, (10 : UInt16) ∉ text) :
    (10 : UInt16) ∉ List.intercalate [44] texts := by
  induction texts with
  | nil => simp [List.intercalate]
  | cons text texts ih =>
      obtain ⟨hfirst, hrest⟩ := List.forall_mem_cons.mp htexts
      cases texts with
      | nil => rwa [intercalate_singleton]
      | cons second texts =>
          rw [intercalate_cons_cons]
          simp [hfirst, ih hrest]

mutual

/-- The text of plain data has no line end in it. -/
theorem stringify_ne_newline (value : JsValue) (hvalue : Plain value) :
    (10 : UInt16) ∉ stringify host value := by
  match value, hvalue with
  | .null, _ => exact (by decide : (10 : UInt16) ∉ js "null")
  | .bool true, _ => exact (by decide : (10 : UInt16) ∉ js "true")
  | .bool false, _ => exact (by decide : (10 : UInt16) ∉ js "false")
  | .number _, ⟨natural, hsafe, rfl⟩ =>
      rw [stringify, numberJson_ofNat hsafe]
      exact natText_ne_newline natural
  | .string text, _ => exact quote_ne_newline text
  | .array items, hitems =>
      have hinner := intercalate_ne_newline (stringifyItems_ne_newline items hitems)
      simp [stringify, hinner]
  | .object fields, hfields =>
      have hinner := intercalate_ne_newline (stringifyFields_ne_newline fields hfields.2)
      simp [stringify, hinner]

theorem stringifyItems_ne_newline (items : List JsValue) (hitems : PlainItems items) :
    ∀ text ∈ stringifyItems host items, (10 : UInt16) ∉ text := by
  match items, hitems with
  | [], _ => simp [stringifyItems]
  | item :: items, hitems =>
      rw [stringifyItems, List.forall_mem_cons]
      exact ⟨stringify_ne_newline item hitems.1, stringifyItems_ne_newline items hitems.2⟩

theorem stringifyFields_ne_newline (fields : List (JsString × JsValue))
    (hfields : PlainFields fields) :
    ∀ text ∈ stringifyFields host fields, (10 : UInt16) ∉ text := by
  match fields, hfields with
  | [], _ => simp [stringifyFields]
  | (name, value) :: fields, hfields =>
      rw [stringifyFields_cons hfields.1, List.forall_mem_cons]
      have hname := quote_ne_newline name
      have hvalue := stringify_ne_newline value hfields.1
      exact ⟨by simp [hname, hvalue], stringifyFields_ne_newline fields hfields.2⟩

end

end OdinSentinel.Json
