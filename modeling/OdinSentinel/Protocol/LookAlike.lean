import OdinSentinel.Protocol.RoleIdentity

/-!
# Look-alike characters

A slot that still holds a character outside ASCII after the fold should be no
slot at all.  Two characters get past that: the dotless i and the sharp s survive
normalisation and upper-case to ASCII letters.
-/

namespace OdinSentinel.RoleIdentity

open JsText Unicode

/-- ASCII letters and digits, with U+0131 and U+00DF counted as letters. -/
def isLookAlikeName (code : Nat) : Bool :=
  (48 ≤ code && code ≤ 57) || (65 ≤ code && code ≤ 90) || (97 ≤ code && code ≤ 122) ||
    code == 0x131 || code == 0xDF

/-- Blanks, underscore and hyphen. -/
def isSeparatorCode (code : Nat) : Bool := isSpaceCode code || code == 95 || code == 45

/-- One or two components of such letters, digits and separators. -/
def isLookAlikeSlot (folded : JsString) : Bool :=
  Text.pathShaped 47 isSpaceCode isLookAlikeName isSeparatorCode (codePoints folded)

/-- No slot, no authority, and equal to no other slot. -/
def Refused (tables : Tables) (value : JsValue) : Prop :=
  canonicalRoleSlot tables value = none ∧ hasExecutiveAuthority tables value = false ∧
    hasRosterMutationAuthority tables value = false ∧
    ∀ other, roleSlotsEqual tables value other = false

variable {tables : Tables}

theorem refused_iff (value : JsValue) :
    Refused tables value ↔ canonicalRoleSlot tables value = none := by
  constructor
  · exact fun hrefused => hrefused.1
  · intro hnone
    refine ⟨hnone, ?_, ?_, fun other => ?_⟩
    · simp [hasExecutiveAuthority, isMember, hnone]
    · simp [hasRosterMutationAuthority, isMember, hnone]
    · simp [roleSlotsEqual, hnone]

/-! ## What survives the fold -/

/-- The fold leaves no blank outside ASCII. -/
theorem isSpace_foldBeforeCase {value : JsString} {unit : UInt16}
    (hmem : unit ∈ foldBeforeCase tables value) (hunit : 128 ≤ unit.toNat) :
    isSpace unit = false := by
  have hvisible := (Text.trimBy_infix_self isSpace _).subset hmem
  rcases Text.mem_replaceRuns hvisible with rfl | ⟨-, hspace⟩
  · exact absurd hunit (by decide)
  · exact hspace

/-- The fold leaves none of the compatibility letters. -/
theorem isFoldedLatin_foldBeforeCase (hstandard : Standard tables) {value : JsString}
    {unit : UInt16} (hmem : unit ∈ foldBeforeCase tables value) :
    isFoldedLatin unit.toNat = false := by
  have hvisible := (Text.trimBy_infix_self isSpace _).subset hmem
  rcases Text.mem_replaceRuns hvisible with rfl | ⟨hmapped, -⟩
  · decide
  · obtain ⟨source, hsource, rfl⟩ := List.mem_map.mp hmapped
    by_cases hhyphen : source = 0x2010 ∨ source = 0x2011
    · rw [foldHyphen, if_pos hhyphen]
      decide
    · rw [foldHyphen, if_neg hhyphen]
      exact hstandard.nfkc_latin value source (List.mem_of_mem_filter hsource)

/-- The text that upper-casing puts in place of one code point. -/
def upperText (tables : Tables) (code : Nat) : JsString := (tables.upperOf code).flatMap utf16

theorem upperText_ascii (hstandard : Standard tables) {code : Nat} (hcode : code < 128) :
    upperText tables code = [(upperAscii code).toUInt16] := by
  have hupper : upperAscii code < 0x10000 := by
    rw [upperAscii]
    split <;> omega
  rw [upperText, hstandard.upper_ascii code hcode, List.flatMap_cons, utf16_of_lt hupper]
  rfl

/-- On ASCII, upper-casing turns letters and digits into component characters,
and nothing else into them. -/
theorem upperAscii_class : ∀ code < 128, code ≠ 47 →
    (upperAscii code).toUInt16 ≠ 47 ∧
    isSpace (upperAscii code).toUInt16 = isSpaceCode code ∧
    isComponentUnit (upperAscii code).toUInt16 = isLookAlikeName code ∧
    isSeparator (upperAscii code).toUInt16 = isSeparatorCode code := by
  decide

/-- The code points that upper-casing turns into ASCII. -/
def isUpperAscii (code : Nat) : Bool := decide (code < 128) || code == 0x131 || code == 0xDF

/-- Upper-casing keeps what those code points are for a slot. -/
theorem upperText_class (hstandard : Standard tables) {code : Nat}
    (hcode : isUpperAscii code = true) (hne : code ≠ 47) :
    (47 : UInt16) ∉ upperText tables code ∧ upperText tables code ≠ [] ∧
      ∀ target ∈ upperText tables code, isSpace target = isSpaceCode code ∧
        isComponentUnit target = isLookAlikeName code ∧
        (isComponentUnit target || isSeparator target) =
          (isLookAlikeName code || isSeparatorCode code) := by
  simp only [isUpperAscii, Bool.or_eq_true, decide_eq_true_eq, beq_iff_eq] at hcode
  rcases hcode with (hascii | rfl) | rfl
  · obtain ⟨hslash, hspace, hname, hseparator⟩ := upperAscii_class code hascii hne
    rw [upperText_ascii hstandard hascii]
    refine ⟨by simpa using Ne.symm hslash, by simp, fun target htarget => ?_⟩
    obtain rfl := List.mem_singleton.mp htarget
    exact ⟨hspace, hname, by rw [hname, hseparator]⟩
  · rw [upperText, hstandard.upper_dotless]
    refine ⟨by decide, by decide, fun target htarget => ?_⟩
    obtain rfl : target = 73 := List.mem_singleton.mp htarget
    decide
  · rw [upperText, hstandard.upper_sharp]
    refine ⟨by decide, by decide, fun target htarget => ?_⟩
    obtain rfl : target = 83 := List.eq_of_mem_replicate (n := 2) htarget
    decide

/-- Every other code point that survives the fold leaves a character behind that
no slot may hold. -/
theorem exists_bad_of_not_upperAscii (hstandard : Standard tables) {value : JsString}
    {code : Nat} (hmem : code ∈ codePoints (foldBeforeCase tables value))
    (hcode : isUpperAscii code = false) :
    isLookAlikeSlot (foldBeforeCase tables value) = false ∧
      Text.pathShaped 47 isSpace isComponentUnit isSeparator (foldRoleInput tables value) =
        false := by
  obtain ⟨hbound, hunit⟩ := mem_codePoints hmem
  simp only [isUpperAscii, Bool.or_eq_false_iff, decide_eq_false_iff_not, beq_eq_false_iff_ne,
    not_lt] at hcode
  obtain ⟨⟨hlow, hdotless⟩, hsharp⟩ := hcode
  have hspace : isSpaceCode code = false := by
    rcases hunit with ⟨unit, hunit, rfl⟩ | hplane
    · exact isSpace_foldBeforeCase hunit hlow
    · by_contra hspace
      simp only [isSpaceCode, Bool.not_eq_false, Bool.or_eq_true, Bool.and_eq_true,
        decide_eq_true_eq, beq_iff_eq] at hspace
      omega
  have hlatin : isFoldedLatin code = false := by
    rcases hunit with ⟨unit, hunit, rfl⟩ | hplane
    · exact isFoldedLatin_foldBeforeCase hstandard hunit
    · simp only [isFoldedLatin, Bool.or_eq_false_iff, Bool.and_eq_false_iff,
        decide_eq_false_iff_not, beq_eq_false_iff_ne]
      omega
  have hname : isLookAlikeName code = false := by
    simp only [isLookAlikeName, Bool.or_eq_false_iff, Bool.and_eq_false_iff,
      decide_eq_false_iff_not, beq_eq_false_iff_ne]
    omega
  have hseparator : isSeparatorCode code = false := by
    simp only [isSeparatorCode, hspace, Bool.false_or, Bool.or_eq_false_iff, beq_eq_false_iff_ne]
    omega
  refine ⟨Text.pathShaped_of_mem_not hmem (by omega) hspace hname hseparator, ?_⟩
  obtain ⟨upper, hupper, hupperLow, hupperHigh, hupperSpace⟩ :=
    hstandard.upper_other code hlow hbound hdotless hsharp hlatin
  obtain ⟨unit, hunit, hunitLow, hunitSpace⟩ := exists_mem_utf16 hupperLow hupperHigh
  have hblank : isSpace unit = false := by
    by_contra hblank
    rw [hupperSpace (hunitSpace (by simpa using hblank))] at hspace
    cases hspace
  have hfolded : unit ∈ foldRoleInput tables value :=
    List.mem_flatMap.mpr ⟨code, hmem, List.mem_flatMap.mpr ⟨upper, hupper, hunit⟩⟩
  have hne : ∀ small : UInt16, small.toNat < 128 → unit ≠ small := by
    rintro small hsmall rfl
    omega
  refine Text.pathShaped_of_mem_not hfolded (hne 47 (by decide)) hblank ?_ ?_
  · simp only [isComponentUnit, isUpper, isDigit, Bool.or_eq_false_iff, Bool.and_eq_false_iff,
      decide_eq_false_iff_not]
    omega
  · simp [isSeparator, hblank, hne 95 (by decide), hne 45 (by decide)]

/-- A string is a slot exactly when its fold before upper-casing is one with the
two look-alikes counted as letters. -/
theorem canonicalRoleSlot_isSome_iff (hstandard : Standard tables) (value : JsString) :
    (canonicalRoleSlot tables (.string value)).isSome =
      isLookAlikeSlot (foldBeforeCase tables value) := by
  rw [canonicalRoleSlot_isSome]
  by_cases hgood : ∀ code ∈ codePoints (foldBeforeCase tables value), isUpperAscii code = true
  · have hslash : upperText tables 47 = [47] := by
      rw [upperText_ascii hstandard (by decide)]
      rfl
    exact Text.pathShaped_flatMap hslash
      (fun code hmem hne => upperText_class hstandard (hgood code hmem) hne)
  · obtain ⟨code, hcode⟩ := not_forall.mp hgood
    obtain ⟨hmem, hcode⟩ := Classical.not_imp.mp hcode
    obtain ⟨hlook, hfolded⟩ := exists_bad_of_not_upperAscii hstandard hmem (by simpa using hcode)
    rw [hlook, hfolded]

/-- A string that still holds a character outside ASCII before upper-casing is
refused, except when it is a slot whose characters outside ASCII are all the
dotless i and the sharp s. -/
theorem nonAscii_refused_iff (hstandard : Standard tables) (value : JsString) :
    ((∃ unit ∈ foldBeforeCase tables value, 128 ≤ unit.toNat) →
      Refused tables (.string value)) ↔
    ((∀ unit ∈ foldBeforeCase tables value, unit.toNat < 128) ∨
      isLookAlikeSlot (foldBeforeCase tables value) = false) := by
  have hslot : canonicalRoleSlot tables (.string value) = none ↔
      isLookAlikeSlot (foldBeforeCase tables value) = false := by
    rw [← canonicalRoleSlot_isSome_iff hstandard value]
    simp
  rw [refused_iff, hslot]
  constructor
  · intro hrefused
    by_cases hascii : ∀ unit ∈ foldBeforeCase tables value, unit.toNat < 128
    · exact .inl hascii
    · obtain ⟨unit, hunit⟩ := not_forall.mp hascii
      obtain ⟨hmem, hunit⟩ := Classical.not_imp.mp hunit
      exact .inr (hrefused ⟨unit, hmem, by omega⟩)
  · rintro (hascii | hslot) ⟨unit, hmem, hunit⟩
    · have hlt := hascii unit hmem
      omega
    · exact hslot

/-- `A/EXEC-ODIN` with a dotless i. -/
def dotlessOdin : JsString := js "A/EXEC-ODıN"

theorem nonAscii_refused_iff_dotlessOdin :
    ¬((∃ unit ∈ foldBeforeCase smallTables dotlessOdin, 128 ≤ unit.toNat) →
      Refused smallTables (.string dotlessOdin)) := by
  rw [nonAscii_refused_iff smallTables_standard]
  rintro (hascii | hslot)
  · exact absurd (hascii 0x131 (by decide)) (by decide)
  · exact absurd hslot (by decide)

theorem dotlessOdin_authority : ¬∀ tables, Standard tables → ∀ value,
    (∃ unit ∈ foldBeforeCase tables value, 128 ≤ unit.toNat) →
      Refused tables (.string value) := by
  intro hrefused
  have hodin := hrefused smallTables smallTables_standard dotlessOdin
    ⟨0x131, by decide, by decide⟩
  exact absurd hodin.2.1 (by decide)

end OdinSentinel.RoleIdentity
