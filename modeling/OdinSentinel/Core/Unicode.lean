import OdinSentinel.Core.JsText
import Mathlib.Tactic.Linarith

/-!
# Unicode case and normalisation

The host's Unicode tables are a parameter: compatibility normalisation of a
string, and the full default case mappings of a code point.  `Standard` states
the documented facts about the tables that results about folding use.
-/

namespace OdinSentinel.Unicode

open JsText

/-- A code unit that is half of a pair. -/
def isSurrogate (unit : UInt16) : Bool := 0xD800 ≤ unit.toNat && unit.toNat ≤ 0xDFFF

/-- The code points of a string; a lone surrogate counts as itself. -/
def codePoints : JsString → List Nat
  | [] => []
  | [unit] => [unit.toNat]
  | high :: low :: rest =>
      if 0xD800 ≤ high.toNat ∧ high.toNat ≤ 0xDBFF ∧ 0xDC00 ≤ low.toNat ∧ low.toNat ≤ 0xDFFF then
        (0x10000 + (high.toNat - 0xD800) * 0x400 + (low.toNat - 0xDC00)) :: codePoints rest
      else high.toNat :: codePoints (low :: rest)

/-- A code unit outside the pairs splits the code points. -/
theorem codePoints_append_cons {unit : UInt16} (hunit : isSurrogate unit = false)
    (front text : JsString) :
    codePoints (front ++ unit :: text) =
      codePoints front ++ unit.toNat :: codePoints text := by
  have hplain : ¬(0xDC00 ≤ unit.toNat ∧ unit.toNat ≤ 0xDFFF) ∧
      ¬(0xD800 ≤ unit.toNat ∧ unit.toNat ≤ 0xDBFF) := by
    simp only [isSurrogate, Bool.and_eq_false_iff, decide_eq_false_iff_not] at hunit
    omega
  have halone : codePoints (unit :: text) = unit.toNat :: codePoints text := by
    cases text with
    | nil => rfl
    | cons next rest =>
        rw [codePoints, if_neg]
        intro hpair
        exact hplain.2 ⟨hpair.1, hpair.2.1⟩
  induction front using codePoints.induct with
  | case1 => simpa [codePoints] using halone
  | case2 last =>
      have hlast : codePoints (last :: unit :: text) =
          last.toNat :: codePoints (unit :: text) := by
        rw [codePoints, if_neg]
        intro hpair
        exact hplain.1 hpair.2.2
      rw [List.singleton_append, hlast, halone]
      rfl
  | case3 high low rest hpair ih =>
      simp only [List.cons_append, codePoints, if_pos hpair, ih]
  | case4 high low rest hpair ih =>
      simp only [List.cons_append] at ih ⊢
      rw [codePoints, if_neg hpair, ih, codePoints, if_neg hpair, List.cons_append]

/-- A code point is a code unit of the string, or lies beyond U+FFFF. -/
theorem mem_codePoints {code : Nat} {text : JsString} (hmem : code ∈ codePoints text) :
    code < 0x110000 ∧ ((∃ unit ∈ text, code = unit.toNat) ∨ 0x10000 ≤ code) := by
  induction text using codePoints.induct with
  | case1 => cases hmem
  | case2 last =>
      obtain rfl := List.mem_singleton.mp hmem
      have hlt := last.toNat_lt
      exact ⟨by omega, .inl ⟨last, by simp, rfl⟩⟩
  | case3 high low rest hpair ih =>
      rw [codePoints, if_pos hpair] at hmem
      rcases List.mem_cons.mp hmem with hcode | hmem
      · exact ⟨by omega, .inr (by omega)⟩
      · obtain ⟨hlt, hunit⟩ := ih hmem
        refine ⟨hlt, hunit.imp_left ?_⟩
        rintro ⟨unit, hunit, hcode⟩
        exact ⟨unit, List.mem_cons_of_mem _ (List.mem_cons_of_mem _ hunit), hcode⟩
  | case4 high low rest hpair ih =>
      rw [codePoints, if_neg hpair] at hmem
      rcases List.mem_cons.mp hmem with rfl | hmem
      · have hlt := high.toNat_lt
        exact ⟨by omega, .inl ⟨high, by simp, rfl⟩⟩
      · obtain ⟨hlt, hunit⟩ := ih hmem
        refine ⟨hlt, hunit.imp_left ?_⟩
        rintro ⟨unit, hunit, hcode⟩
        exact ⟨unit, List.mem_cons_of_mem _ hunit, hcode⟩

theorem utf16_of_lt {code : Nat} (hcode : code < 0x10000) : utf16 code = [code.toUInt16] := by
  rw [utf16, if_pos hcode]

/-- The text of a code point outside ASCII has a code unit outside ASCII, and no
blank unless the code point is one. -/
theorem exists_mem_utf16 {code : Nat} (hlow : 128 ≤ code) (hhigh : code < 0x110000) :
    ∃ unit ∈ utf16 code, 128 ≤ unit.toNat ∧ (isSpace unit = true → isSpaceCode code = true) := by
  by_cases hplane : code < 0x10000
  · have hunit : code.toUInt16.toNat = code := by
      rw [UInt16.toNat_ofNat']
      exact Nat.mod_eq_of_lt hplane
    refine ⟨code.toUInt16, by simp [utf16_of_lt hplane], by omega, ?_⟩
    intro hspace
    rwa [isSpace, hunit] at hspace
  · have hunit : ((0xD800 + (code - 0x10000) / 0x400).toUInt16).toNat =
        0xD800 + (code - 0x10000) / 0x400 := by
      rw [UInt16.toNat_ofNat']
      omega
    refine ⟨(0xD800 + (code - 0x10000) / 0x400).toUInt16, by simp [utf16, hplane], by omega, ?_⟩
    intro hspace
    simp only [isSpace, hunit, isSpaceCode, Bool.or_eq_true, Bool.and_eq_true, decide_eq_true_eq,
      beq_iff_eq] at hspace
    omega

/-- Without surrogates the code points are the code units. -/
theorem codePoints_of_forall_not {text : JsString}
    (htext : ∀ unit ∈ text, isSurrogate unit = false) :
    codePoints text = text.map UInt16.toNat := by
  induction text with
  | nil => rfl
  | cons head rest ih =>
      have hhead := codePoints_append_cons (htext head (by simp)) [] rest
      rw [List.nil_append] at hhead
      rw [hhead, ih (fun unit hmem => htext unit (List.mem_cons_of_mem _ hmem))]
      rfl

/-- The host's Unicode tables. -/
structure Tables where
  toNFKC : JsString → JsString
  upperOf : Nat → List Nat
  lowerOf : Nat → List Nat

/-- `text.toUpperCase()`: the full mapping of every code point, in order. -/
def toUpperCase (tables : Tables) (text : JsString) : JsString :=
  (codePoints text).flatMap (fun code => (tables.upperOf code).flatMap utf16)

/-- `text.toLowerCase()`, without the final-sigma rule. -/
def toLowerCase (tables : Tables) (text : JsString) : JsString :=
  (codePoints text).flatMap (fun code => (tables.lowerOf code).flatMap utf16)

/-- ASCII upper case. -/
def upperAscii (code : Nat) : Nat := if 97 ≤ code ∧ code ≤ 122 then code - 32 else code

/-- The compatibility characters that upper-case to ASCII letters but that
normalisation replaces: the long s and the Latin ligatures. -/
def isFoldedLatin (code : Nat) : Bool := code == 0x17F || (0xFB00 ≤ code && code ≤ 0xFB06)

/-- What folding relies on: ASCII is stable under normalisation, a slash neither
reorders nor composes, the compatibility letters do not survive; upper-casing is
the ASCII one on ASCII, maps U+0131 to `I` and U+00DF to `SS`, and maps every other
code point that survives normalisation to a text that is not all ASCII and has no
blank where there was none. -/
structure Standard (tables : Tables) : Prop where
  nfkc_ascii : ∀ text, (∀ unit ∈ text, unit.toNat < 128) → tables.toNFKC text = text
  nfkc_slash : ∀ left right, tables.toNFKC (left ++ 47 :: right) =
    tables.toNFKC left ++ 47 :: tables.toNFKC right
  nfkc_latin : ∀ text, ∀ unit ∈ tables.toNFKC text, isFoldedLatin unit.toNat = false
  upper_ascii : ∀ code < 128, tables.upperOf code = [upperAscii code]
  upper_dotless : tables.upperOf 0x131 = [0x49]
  upper_sharp : tables.upperOf 0xDF = [0x53, 0x53]
  upper_other : ∀ code, 128 ≤ code → code < 0x110000 → code ≠ 0x131 → code ≠ 0xDF →
    isFoldedLatin code = false →
      ∃ upper ∈ tables.upperOf code, 128 ≤ upper ∧ upper < 0x110000 ∧
        (isSpaceCode upper = true → isSpaceCode code = true)

/-- ASCII lower case. -/
def lowerAscii (code : Nat) : Nat := if 65 ≤ code ∧ code ≤ 90 then code + 32 else code

/-- Lower-casing is the ASCII one on ASCII. -/
def LowersAscii (tables : Tables) : Prop := ∀ code < 128, tables.lowerOf code = [lowerAscii code]

/-- ASCII text has one lower case. -/
theorem toLowerCase_ascii {left right : Tables} (hleft : LowersAscii left)
    (hright : LowersAscii right) {text : JsString} (htext : ∀ unit ∈ text, unit.toNat < 128) :
    toLowerCase left text = toLowerCase right text := by
  have hcodes : codePoints text = text.map UInt16.toNat := by
    apply codePoints_of_forall_not
    intro unit hunit
    have hlow := htext unit hunit
    simp only [isSurrogate, Bool.and_eq_false_iff, decide_eq_false_iff_not]
    omega
  rw [toLowerCase, toLowerCase, hcodes]
  apply List.flatMap_congr
  intro code hcode
  obtain ⟨unit, hunit, rfl⟩ := List.mem_map.mp hcode
  rw [hleft _ (htext unit hunit), hright _ (htext unit hunit)]

/-! ## Small tables

Tables that normalise the full-width forms, the non-breaking blank and hyphen and
the compatibility letters, and leave every other code unit alone. -/

/-- The normalisation of one code unit. -/
def smallCompat (unit : UInt16) : JsString :=
  let code := unit.toNat
  if 0xFF01 ≤ code ∧ code ≤ 0xFF5E then [(code - 0xFEE0).toUInt16]
  else if code = 0xA0 ∨ code = 0x3000 then [32]
  else if code = 0x2011 then [0x2010]
  else if code = 0x17F then [115]
  else if code = 0xFB00 then [102, 102]
  else if code = 0xFB01 then [102, 105]
  else if code = 0xFB02 then [102, 108]
  else if code = 0xFB03 then [102, 102, 105]
  else if code = 0xFB04 then [102, 102, 108]
  else if code = 0xFB05 ∨ code = 0xFB06 then [115, 116]
  else [unit]

/-- The upper case of one code point. -/
def smallUpper (code : Nat) : List Nat :=
  if code < 128 then [upperAscii code]
  else if code = 0x131 then [0x49]
  else if code = 0xDF then [0x53, 0x53]
  else [code]

def smallTables : Tables where
  toNFKC text := text.flatMap smallCompat
  upperOf := smallUpper
  lowerOf code := if 65 ≤ code ∧ code ≤ 90 then [code + 32] else [code]

theorem smallTables_lowersAscii : LowersAscii smallTables := by
  intro code _
  by_cases hupper : 65 ≤ code ∧ code ≤ 90
  · simp only [smallTables, lowerAscii, if_pos hupper]
  · simp only [smallTables, lowerAscii, if_neg hupper]

theorem smallCompat_latin (unit : UInt16) :
    ∀ target ∈ smallCompat unit, isFoldedLatin target.toNat = false := by
  intro target htarget
  by_cases hfull : 0xFF01 ≤ unit.toNat ∧ unit.toNat ≤ 0xFF5E
  · obtain rfl : target = (unit.toNat - 0xFEE0).toUInt16 := by
      simpa [smallCompat, hfull] using htarget
    have hcode : ((unit.toNat - 0xFEE0).toUInt16).toNat = unit.toNat - 0xFEE0 := by
      rw [Nat.toUInt16_eq, UInt16.toNat_ofNat']
      omega
    simp only [hcode, isFoldedLatin, Bool.or_eq_false_iff, Bool.and_eq_false_iff,
      decide_eq_false_iff_not, beq_eq_false_iff_ne]
    omega
  · simp only [smallCompat, if_neg hfull] at htarget
    split at htarget
    · obtain rfl := List.mem_singleton.mp htarget
      decide
    split at htarget
    · obtain rfl := List.mem_singleton.mp htarget
      decide
    split at htarget
    · obtain rfl := List.mem_singleton.mp htarget
      decide
    iterate 6
      split at htarget
      · simpa using List.all_eq_true.mp
          (rfl : List.all _ (fun target => !isFoldedLatin target.toNat) = true) target htarget
    obtain rfl := List.mem_singleton.mp htarget
    simp only [isFoldedLatin, Bool.or_eq_false_iff, Bool.and_eq_false_iff,
      decide_eq_false_iff_not, beq_eq_false_iff_ne]
    omega

theorem smallCompat_ascii {unit : UInt16} (hunit : unit.toNat < 128) :
    smallCompat unit = [unit] := by
  unfold smallCompat
  dsimp only
  repeat rw [if_neg (by omega)]

theorem smallTables_standard : Standard smallTables where
  nfkc_ascii text htext := by
    induction text with
    | nil => rfl
    | cons head rest ih =>
        have ih := ih (fun unit hmem => htext unit (List.mem_cons_of_mem _ hmem))
        simp only [smallTables, List.flatMap_cons] at ih ⊢
        rw [smallCompat_ascii (htext head (by simp)), ih]
        rfl
  nfkc_slash left right := by
    have hslash : smallCompat 47 = [47] := by decide
    simp [smallTables, hslash]
  nfkc_latin text unit hunit := by
    obtain ⟨source, -, htarget⟩ := List.mem_flatMap.mp hunit
    exact smallCompat_latin source unit htarget
  upper_ascii code hcode := by simp [smallTables, smallUpper, hcode]
  upper_dotless := rfl
  upper_sharp := rfl
  upper_other code hlow hhigh hdotless hsharp _ := by
    have hupper : smallTables.upperOf code = [code] := by
      simp [smallTables, smallUpper, hdotless, hsharp, Nat.not_lt.mpr hlow]
    exact ⟨code, by simp [hupper], hlow, hhigh, id⟩

end OdinSentinel.Unicode
