import Mathlib.Data.Bool.AllAny
import OdinSentinel.Core.Semver
import OdinSentinel.Protocol.Validators

/-!
# The order of versions

The comparator reads the dotted pieces of a version as numbers: the three numbers, then
what the pieces of the pre-release and of the build start with, the first piece apart.  It
orders two versions as their precedence does where those numbers happen to.
-/

namespace OdinSentinel.Validators

open JsText Semver ZeroPadded

variable {left right : JsString} {leftVersion rightVersion version : Version}

/-! ## The numbers of a version -/

/-- A number as the comparator reads it. -/
def readNumber (value : Nat) : ℚ :=
  match roundToDouble value with
  | .finite rounded => rounded
  | _ => 0

def readNumbers (version : Version) : List ℚ := version.numbers.map readNumber

/-- The number that a text starts with. -/
def leadingNumber (text : JsString) : ℚ := readNumber (Json.decimal (text.takeWhile isDigit))

/-- The numbers that some identifiers of a pre-release start with, and those that the
identifiers of a build start with, the first one apart. -/
def leadingNumbers (identifiers : List Identifier) (build : List Label) : List ℚ :=
  identifiers.map (fun identifier => leadingNumber identifier.text) ++
    build.tail.map fun label => leadingNumber label.text

theorem not_isSpace_of_isVersionUnit {unit : UInt16} (hunit : IsVersionUnit unit) :
    isSpace unit = false := by
  obtain ⟨hlow, hhigh⟩ := hunit.bounds
  simp only [isSpace, isSpaceCode, Bool.or_eq_false_iff, Bool.and_eq_false_iff,
    decide_eq_false_iff_not, beq_eq_false_iff_ne]
  omega

theorem not_isLineTerminator_of_isVersionUnit {unit : UInt16} (hunit : IsVersionUnit unit) :
    isLineTerminator unit = false := by
  obtain ⟨hlow, hhigh⟩ := hunit.bounds
  simp only [isLineTerminator, Bool.or_eq_false_iff, beq_eq_false_iff_ne]
  refine ⟨⟨⟨?_, ?_⟩, ?_⟩, ?_⟩
  · rintro rfl
    exact absurd hlow (by decide)
  · rintro rfl
    exact absurd hlow (by decide)
  · rintro rfl
    exact absurd hhigh (by decide)
  · rintro rfl
    exact absurd hhigh (by decide)

theorem trim_of_isVersionUnit {text : JsString} (htext : ∀ unit ∈ text, IsVersionUnit unit) :
    trim text = text :=
  Text.trimBy_of_forall_not fun unit hunit => not_isSpace_of_isVersionUnit (htext unit hunit)

theorem head_of_natText (value : Nat) : ∃ unit rest, natText value = unit :: rest ∧
    isDigit unit = true := by
  obtain ⟨unit, rest, htext, -⟩ := Json.natText_head value
  exact ⟨unit, rest, htext, Json.isDigit_of_mem_natText value unit (by simp [htext])⟩

theorem isSpace_of_isDigit {unit : UInt16} (hdigit : isDigit unit = true) :
    isSpace unit = false :=
  not_isSpace_of_isVersionUnit (.inl (isIdentifierUnit_of_isDigit hdigit))

theorem parseInt_digits {digits : JsString} (hdigits : ∀ unit ∈ digits, isDigit unit = true)
    (hsome : digits ≠ []) : parseInt digits = roundToDouble (Json.decimal digits) := by
  obtain ⟨unit, rest, rfl⟩ := List.exists_cons_of_ne_nil hsome
  have hdigit := hdigits unit List.mem_cons_self
  have hminus : unit ≠ 45 := by
    rintro rfl
    cases hdigit
  have hplus : unit ≠ 43 := by
    rintro rfl
    cases hdigit
  have hstart : (unit :: rest).dropWhile isSpace = unit :: rest :=
    List.dropWhile_cons_of_neg (by simp [isSpace_of_isDigit hdigit])
  have hall : (unit :: rest).takeWhile isDigit = unit :: rest :=
    List.takeWhile_eq_self_iff.mpr hdigits
  have hfold : (fun (read : Nat) (unit : UInt16) => read * 10 + (unit.toNat - 48)) =
      fun read unit => 10 * read + (unit.toNat - 48) := by
    funext read unit
    rw [Nat.mul_comm]
  have hheadMinus : ((unit :: rest).head? == some 45) = false := by simp [hminus]
  have hheadPlus : ((unit :: rest).head? == some 43) = false := by simp [hplus]
  simp only [parseInt, hstart, hheadMinus, hheadPlus, Bool.or_false, Bool.false_eq_true, if_false,
    hall, hfold, Json.decimal, if_neg hsome]

theorem cutAtNonDigit_append {digits rest : JsString} (hdigits : ∀ unit ∈ digits, isDigit unit = true)
    (hhead : ∀ unit ∈ rest.head?, isDigit unit = false)
    (hrest : ∀ unit ∈ rest, isLineTerminator unit = false) :
    cutAtNonDigit (digits ++ rest) = digits := by
  induction digits with
  | nil =>
      cases rest with
      | nil => rfl
      | cons unit rest =>
          have hends : rest.any isLineTerminator = false :=
            List.any_eq_false.mpr fun later hlater => by
              simp [hrest later (List.mem_cons_of_mem unit hlater)]
          rw [List.nil_append, cutAtNonDigit, hhead unit rfl, hends]
          rfl
  | cons unit digits ih =>
      obtain ⟨hunit, hdigits⟩ := List.forall_mem_cons.mp hdigits
      rw [List.cons_append, cutAtNonDigit, hunit, Bool.not_true, Bool.false_and,
        if_neg Bool.false_ne_true, ih hdigits]

theorem roundToDouble_of_lt {value : Nat} (hvalue : value < 2 ^ 53) :
    roundToDouble value = .ofNat value := by
  have hlog : value.log2 - 52 = 0 := by
    rcases Nat.eq_zero_or_pos value with rfl | hpos
    · rfl
    · have hlt := (Nat.log2_lt hpos.ne').mpr hvalue
      omega
  have hsmall : value < 2 ^ 1024 :=
    Nat.lt_of_lt_of_le hvalue (Nat.pow_le_pow_right (by decide) (by decide))
  have hup : ¬(1 < 0 ∨ 1 = 0 ∧ value % 2 = 1) := by omega
  simp only [roundToDouble, hlog, pow_zero, Nat.mod_one, mul_zero, Nat.div_one, mul_one]
  rw [if_neg hup, if_pos hsmall]

theorem readNumber_of_lt {value : Nat} (hvalue : value < 2 ^ 53) : readNumber value = value := by
  have hread := roundToDouble_of_lt hvalue
  unfold readNumber
  generalize roundToDouble value = rounded at hread ⊢
  rw [hread]
  rfl

theorem readNumber_zero : readNumber 0 = 0 := by
  rw [readNumber_of_lt (by decide), Nat.cast_zero]

/-- A piece without digits counts as zero. -/
theorem semverPart_nil : semverPart [] = 0 := rfl

/-- Behind an identifier a piece may go on, but not with a digit. -/
theorem semverPart_append {text rest : JsString}
    (htext : ∀ unit ∈ text, isIdentifierUnit unit = true)
    (hhead : ∀ unit ∈ rest.head?, isDigit unit = false)
    (hrest : ∀ unit ∈ rest, isLineTerminator unit = false) :
    semverPart (text ++ rest) = leadingNumber text := by
  have hdigits : ∀ unit ∈ text.takeWhile isDigit, isDigit unit = true :=
    fun unit hunit => List.mem_takeWhile_imp hunit
  have hbehind : ∀ unit ∈ (text.dropWhile isDigit ++ rest).head?, isDigit unit = false := by
    intro unit hunit
    cases hdrop : text.dropWhile isDigit with
    | nil =>
        rw [hdrop] at hunit
        exact hhead unit hunit
    | cons other more =>
        rw [hdrop] at hunit
        cases hunit
        have hsome : text.dropWhile isDigit ≠ [] := by simp [hdrop]
        simpa [hdrop] using List.head_dropWhile_not isDigit hsome
  have hplain : ∀ unit ∈ text.dropWhile isDigit ++ rest, isLineTerminator unit = false := by
    intro unit hunit
    rcases List.mem_append.mp hunit with hunit | hunit
    · exact not_isLineTerminator_of_isVersionUnit
        (.inl (htext unit ((List.dropWhile_suffix isDigit).subset hunit)))
    · exact hrest unit hunit
  have hcut := cutAtNonDigit_append hdigits hbehind hplain
  rw [← List.append_assoc, List.takeWhile_append_dropWhile] at hcut
  rw [semverPart, hcut, leadingNumber]
  by_cases hnone : text.takeWhile isDigit = []
  · have hempty : Json.decimal [] = 0 := rfl
    rw [hnone, hempty, readNumber_zero]
    exact semverPart_nil
  · rw [parseInt_digits hdigits hnone]
    unfold readNumber
    generalize roundToDouble (Json.decimal (text.takeWhile isDigit)) = rounded
    cases rounded <;> rfl

theorem leadingNumber_natText (value : Nat) : leadingNumber (natText value) = readNumber value := by
  rw [leadingNumber, List.takeWhile_eq_self_iff.mpr (Json.isDigit_of_mem_natText value),
    Json.decimal_natText]

theorem semverPart_natText (value : Nat) {rest : JsString}
    (hhead : ∀ unit ∈ rest.head?, isDigit unit = false)
    (hrest : ∀ unit ∈ rest, isLineTerminator unit = false) :
    semverPart (natText value ++ rest) = readNumber value := by
  rw [semverPart_append (isIdentifierUnit_natText value) hhead hrest, leadingNumber_natText]

/-! ## The pieces of a version -/

theorem dot_not_mem_natText (value : Nat) : (46 : UInt16) ∉ natText value := by
  intro hdot
  cases Json.isDigit_of_mem_natText value 46 hdot

/-- A front without the separator belongs to the first piece. -/
theorem splitOn_append_of_not_mem {separator : UInt16} {front text : JsString}
    (hfront : separator ∉ front) : ∃ piece pieces, text.splitOn separator = piece :: pieces ∧
      (front ++ text).splitOn separator = (front ++ piece) :: pieces := by
  induction front with
  | nil =>
      cases hsplit : text.splitOn separator with
      | nil => exact absurd hsplit (List.splitOn_ne_nil separator text)
      | cons piece pieces => exact ⟨piece, pieces, rfl, hsplit⟩
  | cons unit front ih =>
      have hunit := List.ne_of_not_mem_cons hfront
      have hfront := List.not_mem_of_not_mem_cons hfront
      obtain ⟨piece, pieces, hsplit, hfronted⟩ := ih hfront
      obtain ⟨head, tail, htail, hcons⟩ :=
        Text.splitOn_cons_of_ne (Ne.symm hunit) (front ++ text)
      rw [hfronted] at htail
      obtain ⟨rfl, rfl⟩ := List.cons.inj htail
      exact ⟨piece, pieces, hsplit, hcons⟩

theorem dot_not_mem {text : JsString} (htext : ∀ unit ∈ text, isIdentifierUnit unit = true) :
    (46 : UInt16) ∉ text := by
  intro hdot
  cases htext 46 hdot

/-- The pieces of dotted identifiers are these, the last with what follows up to its dot. -/
theorem pieces_intercalate {text : JsString} {texts : List JsString} {rest piece : JsString}
    {pieces : List JsString}
    (htexts : ∀ other ∈ text :: texts, ∀ unit ∈ other, isIdentifierUnit unit = true)
    (hsplit : rest.splitOn 46 = piece :: pieces)
    (hhead : ∀ unit ∈ piece.head?, isDigit unit = false)
    (hpiece : ∀ unit ∈ piece, isLineTerminator unit = false) :
    (([46].intercalate (text :: texts) ++ rest).splitOn 46).map semverPart =
      (text :: texts).map leadingNumber ++ pieces.map semverPart := by
  induction texts generalizing text with
  | nil =>
      have htext := htexts text List.mem_cons_self
      obtain ⟨first, later, hrest, hfronted⟩ :=
        @splitOn_append_of_not_mem 46 text rest (dot_not_mem htext)
      obtain ⟨rfl, rfl⟩ := List.cons.inj (hsplit.symm.trans hrest)
      rw [List.intercalate_singleton, hfronted, List.map_cons,
        semverPart_append htext hhead hpiece]
      rfl
  | cons next texts ih =>
      have htext := htexts text List.mem_cons_self
      have halone := @semverPart_append text [] htext (by simp) (by simp)
      rw [List.append_nil] at halone
      rw [List.intercalate_cons_cons, List.append_assoc, List.append_assoc, List.singleton_append,
        List.splitOn_append_cons_self_of_not_mem (dot_not_mem htext), List.map_cons, halone,
        ih fun other hother => htexts other (List.mem_cons_of_mem text hother)]
      rfl

/-- The piece that a mark starts is apart, whatever follows it up to the first dot. -/
theorem pieces_marked {mark : UInt16} {texts : List JsString} {rest piece : JsString}
    {pieces : List JsString} (hmark : mark ≠ 46)
    (htexts : ∀ other ∈ texts, ∀ unit ∈ other, isIdentifierUnit unit = true)
    (hsplit : rest.splitOn 46 = piece :: pieces)
    (hhead : ∀ unit ∈ piece.head?, isDigit unit = false)
    (hpiece : ∀ unit ∈ piece, isLineTerminator unit = false) :
    ((Version.marked mark texts ++ rest).splitOn 46).tail.map semverPart =
      texts.tail.map leadingNumber ++ pieces.map semverPart := by
  cases texts with
  | nil =>
      rw [Version.marked, List.nil_append, hsplit]
      rfl
  | cons text texts =>
      obtain ⟨first, later, hrest, hmarked⟩ :=
        Text.splitOn_cons_of_ne hmark ([46].intercalate (text :: texts) ++ rest)
      have hpieces := pieces_intercalate htexts hsplit hhead hpiece
      rw [hrest] at hpieces
      have htext : Version.marked mark (text :: texts) = mark :: [46].intercalate (text :: texts) :=
        rfl
      rw [htext, List.cons_append, hmarked]
      exact (List.cons.inj hpieces).2

theorem head_piece {text piece : JsString} {pieces : List JsString}
    (hsplit : text.splitOn 46 = piece :: pieces) : piece <+: text := by
  have htext := @List.intercalate_splitOn _ text _ _ 46
  rw [hsplit] at htext
  cases pieces with
  | nil =>
      rw [List.intercalate_singleton] at htext
      exact htext ▸ List.prefix_rfl
  | cons next pieces =>
      rw [List.intercalate_cons_cons, List.append_assoc] at htext
      exact ⟨_, htext⟩

/-- The first piece of a text that is empty or starts with a mark does so too. -/
theorem head_piece_marked {text piece : JsString} {pieces : List JsString}
    (hsplit : text.splitOn 46 = piece :: pieces)
    (hunits : ∀ unit ∈ text, IsVersionUnit unit)
    (hhead : ∀ unit ∈ text.head?, isDigit unit = false) :
    (∀ unit ∈ piece.head?, isDigit unit = false) ∧
      ∀ unit ∈ piece, isLineTerminator unit = false := by
  have hleading := head_piece hsplit
  refine ⟨fun unit hunit => ?_, fun unit hunit => ?_⟩
  · obtain ⟨rest, rfl⟩ := hleading
    apply hhead unit
    rw [List.head?_append, Option.mem_def.mp hunit]
    rfl
  · exact not_isLineTerminator_of_isVersionUnit (hunits unit (hleading.subset hunit))

theorem head_marked {mark : UInt16} (hmark : isDigit mark = false) (texts : List JsString) :
    ∀ unit ∈ (Version.marked mark texts).head?, isDigit unit = false := by
  cases texts with
  | nil => simp [Version.marked]
  | cons text texts =>
      intro unit hunit
      cases hunit
      exact hmark

/-- The pieces behind the first one behind the numbers of a version. -/
theorem laterPieces (version : Version) :
    (version.suffix.splitOn 46).tail.map semverPart =
      leadingNumbers version.preRelease.tail version.build := by
  have hbuild : ((Version.marked 43 (version.build.map Label.text)).splitOn 46).tail.map
      semverPart = (version.build.map Label.text).tail.map leadingNumber := by
    have hpieces := @pieces_marked 43 (version.build.map Label.text) [] [] [] (by decide)
      version.plain_build (List.splitOn_nil 46) (by simp) (by simp)
    rwa [List.append_nil, List.map_nil, List.append_nil] at hpieces
  cases hsplit : (Version.marked 43 (version.build.map Label.text)).splitOn 46 with
  | nil => exact absurd hsplit (List.splitOn_ne_nil _ _)
  | cons piece pieces =>
      obtain ⟨hhead, hplain⟩ := head_piece_marked hsplit
        (fun unit hunit => version.isVersionUnit_suffix unit (List.mem_append_right _ hunit))
        (head_marked rfl _)
      rw [hsplit, List.tail_cons] at hbuild
      rw [Version.suffix, pieces_marked (by decide) version.plain_preRelease hsplit hhead hplain,
        hbuild, leadingNumbers]
      rw [← List.map_tail, ← List.map_tail, List.map_map, List.map_map]
      simp only [Function.comp_def]

theorem splitOn_text (version : Version) :
    (version.text.splitOn 46).map semverPart =
      readNumbers version ++ leadingNumbers version.preRelease.tail version.build := by
  obtain ⟨piece, pieces, hsplit, hpatch⟩ :=
    @splitOn_append_of_not_mem 46 (natText version.patch) version.suffix
      (dot_not_mem_natText version.patch)
  have hsuffix : ∀ unit ∈ version.suffix.head?, isDigit unit = false := by
    intro unit hunit
    rcases version.suffix_head with hnone | hmark | hmark
    · cases hnone.symm.trans hunit
    · cases hmark.symm.trans hunit
      rfl
    · cases hmark.symm.trans hunit
      rfl
  obtain ⟨hhead, hplain⟩ := head_piece_marked hsplit version.isVersionUnit_suffix hsuffix
  have hlater := laterPieces version
  rw [hsplit, List.tail_cons] at hlater
  have htext : version.text = natText version.major ++ 46 :: (natText version.minor ++
      46 :: (natText version.patch ++ version.suffix)) := by
    simp only [Version.text, List.append_assoc, List.cons_append]
  have hnumber : ∀ value, semverPart (natText value) = readNumber value := by
    intro value
    have hread := @semverPart_natText value [] (by simp) (by simp)
    rwa [List.append_nil] at hread
  rw [htext, List.splitOn_append_cons_self_of_not_mem (dot_not_mem_natText _),
    List.splitOn_append_cons_self_of_not_mem (dot_not_mem_natText _), hpatch, readNumbers, ← hlater]
  simp only [List.map_cons, hnumber, semverPart_natText _ hhead hplain, Version.numbers,
    List.map_nil, List.cons_append, List.nil_append]

theorem semverParts_of_denotes (htext : Denotes left version) :
    semverParts left = readNumbers version ++ leadingNumbers version.preRelease.tail version.build := by
  obtain ⟨unit, rest, hmajor, hdigit⟩ := head_of_natText version.major
  have hhead : version.text.head? = some unit := by simp [Version.text, hmajor]
  have hunits := version.isVersionUnit_text
  rcases htext with rfl | rfl
  · have hlower : unit ≠ 118 := by
      rintro rfl
      cases hdigit
    have hupper : unit ≠ 86 := by
      rintro rfl
      cases hdigit
    simp only [semverParts, trim_of_isVersionUnit hunits, hhead]
    rw [if_neg (by simp [hlower, hupper])]
    exact splitOn_text version
  · have hmark : ∀ unit ∈ (118 : UInt16) :: version.text, IsVersionUnit unit :=
      List.forall_mem_cons.mpr ⟨.inl (by decide), hunits⟩
    simp only [semverParts, trim_of_isVersionUnit hmark, List.head?_cons]
    exact splitOn_text version

/-! ## The sign of the comparison -/

/-- The order that a difference stands for. -/
def signOf (difference : ℚ) : Ordering := compare difference 0

theorem signOf_sub (left right : ℚ) : signOf (left - right) = compare left right := by
  rw [signOf]
  rcases lt_trichotomy left right with hlt | rfl | hgt
  · rw [compare_lt_iff_lt.mpr hlt, compare_lt_iff_lt.mpr (sub_neg.mpr hlt)]
  · rw [sub_self, compare_eq_iff_eq.mpr rfl, compare_eq_iff_eq.mpr rfl]
  · rw [compare_gt_iff_gt.mpr hgt, compare_gt_iff_gt.mpr (sub_pos.mpr hgt)]

theorem then_of_ne {first : Ordering} (hfirst : first ≠ .eq) (second : Ordering) :
    first.then second = first := by
  cases first with
  | eq => exact absurd rfl hfirst
  | lt => rfl
  | gt => rfl

theorem signOf_compareParts (lefts rights : List ℚ) :
    signOf (compareParts lefts rights) = order lefts rights := by
  induction lefts, rights using order.induct with
  | case1 =>
      rw [order, compareParts, signOf]
      exact compare_eq_iff_eq.mpr rfl
  | case2 left lefts ih =>
      rw [compareParts, order, ← ih]
      by_cases hzero : left = 0
      · rw [if_neg (not_not.mpr hzero), compare_eq_iff_eq.mpr hzero]
        rfl
      · rw [if_pos hzero, then_of_ne (mt compare_eq_iff_eq.mp hzero), signOf]
  | case3 right rights ih =>
      rw [compareParts, order, ← ih]
      by_cases hzero : right = 0
      · rw [if_neg (not_not.mpr hzero), compare_eq_iff_eq.mpr hzero.symm]
        rfl
      · rw [if_pos hzero, then_of_ne (mt compare_eq_iff_eq.mp (Ne.symm hzero)), ← zero_sub,
          signOf_sub]
  | case4 left lefts right rights ih =>
      rw [compareParts, order, ← ih]
      by_cases hsame : left - right = 0
      · rw [if_neg (not_not.mpr hsame), compare_eq_iff_eq.mpr (sub_eq_zero.mp hsame)]
        rfl
      · have hne : compare left right ≠ .eq :=
          fun heq => hsame (sub_eq_zero.mpr (compare_eq_iff_eq.mp heq))
        rw [if_pos hsame, signOf_sub, then_of_ne hne]

theorem order_append {lefts rights : List ℚ} (hlength : lefts.length = rights.length)
    (laterLefts laterRights : List ℚ) :
    order (lefts ++ laterLefts) (rights ++ laterRights) =
      (order lefts rights).then (order laterLefts laterRights) := by
  induction lefts generalizing rights with
  | nil =>
      obtain rfl := List.length_eq_zero_iff.mp hlength.symm
      rw [order]
      rfl
  | cons left lefts ih =>
      cases rights with
      | nil => cases hlength
      | cons right rights =>
          rw [List.cons_append, List.cons_append, order, order, ih (Nat.succ.inj hlength),
            Ordering.then_assoc]

theorem length_readNumbers (left right : Version) :
    (readNumbers left).length = (readNumbers right).length := by
  rw [readNumbers, readNumbers, List.length_map, List.length_map]
  rfl

/-- The numbers of two versions decide, then the numbers behind them. -/
theorem signOf_compareSemver (hleft : Denotes left leftVersion)
    (hright : Denotes right rightVersion) :
    signOf (compareSemver left right) =
      (order (readNumbers leftVersion) (readNumbers rightVersion)).then
        (order (leadingNumbers leftVersion.preRelease.tail leftVersion.build)
          (leadingNumbers rightVersion.preRelease.tail rightVersion.build)) := by
  rw [compareSemver, semverParts_of_denotes hleft, semverParts_of_denotes hright,
    signOf_compareParts, order_append (length_readNumbers leftVersion rightVersion)]

/-! ## Precedence -/

/-- The comparator orders two texts as the precedence of their versions does, and flags the
one that precedes. -/
structure FollowsPrecedence (left right : JsString) (leftVersion rightVersion : Version) :
    Prop where
  sign : signOf (compareSemver left right) = precedence leftVersion rightVersion
  below : isVersionBelow left right = true ↔ precedence leftVersion rightVersion = .lt

/-- What it takes, for each way in which one version may precede another whose three numbers
are read as the same, that the numbers at the start of the identifiers put it first. -/
structure StartsLower (left right : Version) : Prop where
  /-- Numbers that differ but are read as the same. -/
  rounded : Lower left.numbers right.numbers →
    Lower (leadingNumbers left.preRelease.tail left.build)
      (leadingNumbers right.preRelease.tail right.build)
  /-- A pre-release of the release. -/
  release : left.numbers = right.numbers → ∀ first rest, left.preRelease = first :: rest →
    right.preRelease = [] → Lower (leadingNumbers rest left.build) (leadingNumbers [] right.build)
  /-- A pre-release that the other one goes on from. -/
  longer : left.numbers = right.numbers → ∀ identifier rest, left.preRelease ≠ [] →
    right.preRelease = left.preRelease ++ identifier :: rest →
    Lower (leadingNumbers [] left.build) (leadingNumbers (identifier :: rest) right.build)
  /-- Pre-releases that part at their first identifier, which is not read. -/
  first : left.numbers = right.numbers → ∀ leftFirst rightFirst lefts rights,
    left.preRelease = leftFirst :: lefts → right.preRelease = rightFirst :: rights →
    leftFirst.order rightFirst = .lt →
    Lower (leadingNumbers lefts left.build) (leadingNumbers rights right.build)
  /-- Pre-releases that part at a later identifier. -/
  later : left.numbers = right.numbers → ∀ shared leftNext rightNext lefts rights, shared ≠ [] →
    left.preRelease = shared ++ leftNext :: lefts →
    right.preRelease = shared ++ rightNext :: rights → leftNext.order rightNext = .lt →
    Lower (leadingNumbers (leftNext :: lefts) left.build)
      (leadingNumbers (rightNext :: rights) right.build)

/-- The three numbers are read in the order in which they stand, which large ones might not be,
and where they are read as the same the numbers at the start of the identifiers decide as the
identifiers do. -/
structure NumbersDecide (left right : Version) : Prop where
  rounded : (∃ value ∈ left.numbers ++ right.numbers, 2 ^ 53 ≤ value) →
    readNumbers left ≠ readNumbers right →
    (Lower (readNumbers left) (readNumbers right) ↔ Lower left.numbers right.numbers)
  below : readNumbers left = readNumbers right → StartsLower left right
  above : readNumbers left = readNumbers right → StartsLower right left
  same : left.numbers = right.numbers → left.preRelease = right.preRelease →
    Same (leadingNumbers [] left.build) (leadingNumbers [] right.build)

theorem isVersionBelow_iff : isVersionBelow left right = true ↔
    signOf (compareSemver left right) = .lt := by
  rw [isVersionBelow, decide_eq_true_iff, signOf, compare_lt_iff_lt]

theorem leadingNumbers_append (shared identifiers : List Identifier) (build : List Label) :
    leadingNumbers (shared ++ identifiers) build =
      shared.map (fun identifier => leadingNumber identifier.text) ++
        leadingNumbers identifiers build := by
  rw [leadingNumbers, leadingNumbers, List.map_append, List.append_assoc]

/-- Behind identifiers that two versions share, the numbers are compared without them. -/
theorem lower_shared (shared lefts rights : List Identifier) (leftBuild rightBuild : List Label) :
    Lower (leadingNumbers (shared ++ lefts) leftBuild)
        (leadingNumbers (shared ++ rights) rightBuild) ↔
      Lower (leadingNumbers lefts leftBuild) (leadingNumbers rights rightBuild) := by
  rw [leadingNumbers_append, leadingNumbers_append, lower_append]

theorem startsLower_iff {left right : Version} : StartsLower left right ↔
    (precedence left right = .lt → Lower (leadingNumbers left.preRelease.tail left.build)
      (leadingNumbers right.preRelease.tail right.build)) := by
  constructor
  · intro hlower hprecedes
    rcases precedence_eq_lt_iff.mp hprecedes with hnumbers | ⟨hnumbers, hpre⟩
    · exact hlower.rounded hnumbers
    · obtain ⟨hsome, hnone | ⟨identifier, rest, hlonger⟩ |
        ⟨shared, leftNext, rightNext, lefts, rights, hleft, hright, hnext⟩⟩ :=
        preReleaseOrder_eq_lt_iff.mp hpre
      · obtain ⟨first, rest, hfirst⟩ := List.exists_cons_of_ne_nil hsome
        rw [hfirst, hnone]
        exact hlower.release hnumbers first rest hfirst hnone
      · rw [hlonger, List.tail_append_of_ne_nil hsome]
        have hbehind := hlower.longer hnumbers identifier rest hsome hlonger
        have hshared := (lower_shared left.preRelease.tail [] (identifier :: rest) left.build
          right.build).mpr hbehind
        rwa [List.append_nil] at hshared
      · cases shared with
        | nil =>
            rw [hleft, hright]
            exact hlower.first hnumbers leftNext rightNext lefts rights hleft hright hnext
        | cons first shared =>
            have hbehind := hlower.later hnumbers (first :: shared) leftNext rightNext lefts rights
              (List.cons_ne_nil first shared) hleft hright hnext
            rw [hleft, hright]
            exact (lower_shared shared _ _ _ _).mpr hbehind
  · intro hlower
    have hequal : left.numbers = right.numbers →
        preReleaseOrder left.preRelease right.preRelease = .lt → precedence left right = .lt :=
      fun hnumbers hpre => precedence_eq_lt_iff.mpr (.inr ⟨hnumbers, hpre⟩)
    constructor
    · exact fun hnumbers => hlower (precedence_eq_lt_iff.mpr (.inl hnumbers))
    · intro hnumbers first rest hleft hright
      have hbehind := hlower (hequal hnumbers (by rw [hleft, hright]; rfl))
      rwa [hleft, hright] at hbehind
    · intro hnumbers identifier rest hsome hlonger
      have hpre := preReleaseOrder_eq_lt_iff.mpr ⟨hsome, .inr (.inl ⟨identifier, rest, hlonger⟩)⟩
      have hbehind := hlower (hequal hnumbers hpre)
      rw [hlonger, List.tail_append_of_ne_nil hsome, ← List.append_nil left.preRelease.tail,
        List.append_assoc, lower_shared] at hbehind
      exact hbehind
    · intro hnumbers leftFirst rightFirst lefts rights hleft hright hfirst
      have hpre := preReleaseOrder_eq_lt_iff.mpr ⟨by simp [hleft], .inr (.inr
        ⟨[], leftFirst, rightFirst, lefts, rights, hleft, hright, hfirst⟩)⟩
      have hbehind := hlower (hequal hnumbers hpre)
      rwa [hleft, hright] at hbehind
    · intro hnumbers shared leftNext rightNext lefts rights hsome hleft hright hnext
      have hpre := preReleaseOrder_eq_lt_iff.mpr ⟨by simp [hleft], .inr (.inr
        ⟨shared, leftNext, rightNext, lefts, rights, hleft, hright, hnext⟩)⟩
      have hbehind := hlower (hequal hnumbers hpre)
      rwa [hleft, hright, List.tail_append_of_ne_nil hsome, List.tail_append_of_ne_nil hsome,
        lower_shared] at hbehind

theorem readNumbers_of_lt (hsmall : ∀ value ∈ version.numbers, value < 2 ^ 53) :
    readNumbers version = version.numbers.map Nat.cast :=
  List.map_congr_left fun value hvalue => readNumber_of_lt (hsmall value hvalue)

/-- Numbers below 2^53 are read in their order. -/
theorem lower_readNumbers (hsmall : ∀ value ∈ leftVersion.numbers ++ rightVersion.numbers,
    value < 2 ^ 53) : Lower (readNumbers leftVersion) (readNumbers rightVersion) ↔
      Lower leftVersion.numbers rightVersion.numbers := by
  rw [readNumbers_of_lt fun value hvalue => hsmall value (List.mem_append_left _ hvalue),
    readNumbers_of_lt fun value hvalue => hsmall value (List.mem_append_right _ hvalue)]
  exact lower_map Nat.cast_zero Nat.strictMono_cast

theorem eq_iff_lt_iff_lt {first second : Ordering} (hfirst : first ≠ .eq)
    (hsecond : second ≠ .eq) : first = second ↔ (first = .lt ↔ second = .lt) := by
  cases first with
  | eq => exact absurd rfl hfirst
  | lt => cases second <;> simp at hsecond ⊢
  | gt => cases second <;> simp at hsecond ⊢

theorem order_eq_gt_iff {lefts rights : List ℚ} :
    order lefts rights = .gt ↔ Lower rights lefts := by
  rw [← order_eq_lt_iff, ← order_swap lefts rights, Ordering.swap_eq_lt]

theorem precedence_eq_gt_iff {left right : Version} :
    precedence left right = .gt ↔ precedence right left = .lt := by
  rw [← precedence_swap left right, Ordering.swap_eq_lt]

/-- Of versions that are told apart by nothing but their builds, the builds are compared. -/
theorem same_leadingNumbers (hpre : leftVersion.preRelease = rightVersion.preRelease) :
    Same (leadingNumbers leftVersion.preRelease.tail leftVersion.build)
        (leadingNumbers rightVersion.preRelease.tail rightVersion.build) ↔
      Same (leadingNumbers [] leftVersion.build) (leadingNumbers [] rightVersion.build) := by
  have hempty := leadingNumbers_append rightVersion.preRelease.tail []
  simp only [List.append_nil] at hempty
  rw [hpre, hempty, hempty, same_append]

/-- Where the three numbers are read as the same, what stands behind them decides. -/
theorem order_leadingNumbers (hread : readNumbers leftVersion = readNumbers rightVersion) :
    order (leadingNumbers leftVersion.preRelease.tail leftVersion.build)
        (leadingNumbers rightVersion.preRelease.tail rightVersion.build) =
          precedence leftVersion rightVersion ↔ NumbersDecide leftVersion rightVersion := by
  constructor
  · intro horder
    constructor
    · exact fun _ hdiffer => absurd hread hdiffer
    · exact fun _ => startsLower_iff.mpr fun hprecedes =>
        order_eq_lt_iff.mp (horder.trans hprecedes)
    · exact fun _ => startsLower_iff.mpr fun hprecedes =>
        order_eq_gt_iff.mp (horder.trans (precedence_eq_gt_iff.mpr hprecedes))
    · intro hnumbers hpre
      have hprecedence := precedence_eq_eq_iff.mpr ⟨hnumbers, hpre⟩
      exact (same_leadingNumbers hpre).mp (order_eq_eq_iff.mp (horder.trans hprecedence))
  · intro hdecide
    cases hprecedence : precedence leftVersion rightVersion with
    | lt => exact order_eq_lt_iff.mpr (startsLower_iff.mp (hdecide.below hread) hprecedence)
    | eq =>
        obtain ⟨hnumbers, hpre⟩ := precedence_eq_eq_iff.mp hprecedence
        exact order_eq_eq_iff.mpr ((same_leadingNumbers hpre).mpr (hdecide.same hnumbers hpre))
    | gt =>
        have hprecedes := precedence_eq_gt_iff.mp hprecedence
        exact order_eq_gt_iff.mpr (startsLower_iff.mp (hdecide.above hread) hprecedes)

theorem length_numbers (left right : Version) : left.numbers.length = right.numbers.length := rfl

theorem numbers_ne (hread : readNumbers leftVersion ≠ readNumbers rightVersion) :
    leftVersion.numbers ≠ rightVersion.numbers :=
  fun hsame => hread (congrArg (List.map readNumber) hsame)

theorem order_numbers_ne (hnumbers : leftVersion.numbers ≠ rightVersion.numbers) :
    order leftVersion.numbers rightVersion.numbers ≠ .eq :=
  fun hequal => hnumbers ((order_eq_eq_iff_eq (length_numbers leftVersion rightVersion)).mp hequal)

theorem order_readNumbers_ne (hread : readNumbers leftVersion ≠ readNumbers rightVersion) :
    order (readNumbers leftVersion) (readNumbers rightVersion) ≠ .eq :=
  fun hequal => hread ((order_eq_eq_iff_eq (length_readNumbers leftVersion rightVersion)).mp hequal)

/-- Where the three numbers are not read as the same, they decide. -/
theorem order_readNumbers (hread : readNumbers leftVersion ≠ readNumbers rightVersion) :
    order (readNumbers leftVersion) (readNumbers rightVersion) =
        order leftVersion.numbers rightVersion.numbers ↔
      NumbersDecide leftVersion rightVersion := by
  have hnumbers := numbers_ne hread
  rw [eq_iff_lt_iff_lt (order_readNumbers_ne hread) (order_numbers_ne hnumbers), order_eq_lt_iff,
    order_eq_lt_iff]
  constructor
  · intro hlower
    constructor
    · exact fun _ _ => hlower
    · exact fun hequal => absurd hequal hread
    · exact fun hequal => absurd hequal hread
    · exact fun hequal => absurd hequal hnumbers
  · intro hdecide
    by_cases hlarge : ∃ value ∈ leftVersion.numbers ++ rightVersion.numbers, 2 ^ 53 ≤ value
    · exact hdecide.rounded hlarge hread
    · apply lower_readNumbers
      intro value hvalue
      exact Nat.lt_of_not_le fun hle => hlarge ⟨value, hvalue, hle⟩

/-- The comparator follows the precedence of two versions exactly where the numbers at the
start of their identifiers decide it. -/
theorem compareSemver_precedence_iff (hleft : Denotes left leftVersion)
    (hright : Denotes right rightVersion) :
    FollowsPrecedence left right leftVersion rightVersion ↔
      NumbersDecide leftVersion rightVersion := by
  have hfollows : FollowsPrecedence left right leftVersion rightVersion ↔
      signOf (compareSemver left right) = precedence leftVersion rightVersion := by
    constructor
    · exact FollowsPrecedence.sign
    · exact fun hsame => ⟨hsame, by rw [isVersionBelow_iff, hsame]⟩
  rw [hfollows, signOf_compareSemver hleft hright]
  by_cases hread : readNumbers leftVersion = readNumbers rightVersion
  · have hequal := (order_eq_eq_iff_eq (length_readNumbers leftVersion rightVersion)).mpr hread
    rw [hequal]
    exact order_leadingNumbers hread
  · rw [then_of_ne (order_readNumbers_ne hread), precedence,
      compareLex_eq_order (length_numbers leftVersion rightVersion),
      then_of_ne (order_numbers_ne (numbers_ne hread))]
    exact order_readNumbers hread

/-! ### A release candidate -/

/-- `1.0.0-rc.1`. -/
def candidate : Version where
  major := 1
  minor := 0
  patch := 0
  preRelease :=
    [.alphanumeric ⟨js "rc", by decide, List.all_iff_forall_prop.mp (by decide)⟩
      (List.any_iff_exists_prop.mp (by decide)), .numeric 1]
  build := []

/-- `1.0.0`. -/
def release : Version := { candidate with preRelease := [] }

theorem denotes_candidate : Denotes (js "1.0.0-rc.1") candidate := .inl (by decide +kernel)

theorem denotes_release : Denotes (js "v1.0.0") release := .inr (by decide +kernel)

theorem compareSemver_precedence_iff_candidate :
    FollowsPrecedence (js "1.0.0-rc.1") (js "v1.0.0") candidate release ↔
      NumbersDecide candidate release :=
  compareSemver_precedence_iff denotes_candidate denotes_release

/-- The candidate precedes the release, and the comparator puts it behind. -/
theorem candidate_not_below : ¬∀ left right leftVersion rightVersion, Denotes left leftVersion →
    Denotes right rightVersion → FollowsPrecedence left right leftVersion rightVersion := by
  intro hfollows
  have hsign := (hfollows _ _ _ _ denotes_candidate denotes_release).sign
  have hcandidate : semverParts (js "1.0.0-rc.1") = [1, 0, 0, 1] := by decide +kernel
  have hrelease : semverParts (js "v1.0.0") = [1, 0, 0] := by decide +kernel
  have hbehind : compareSemver (js "1.0.0-rc.1") (js "v1.0.0") = 1 := by
    rw [compareSemver, hcandidate, hrelease]
    simp [compareParts]
  rw [hbehind] at hsign
  exact absurd hsign (by decide +kernel)

end OdinSentinel.Validators
