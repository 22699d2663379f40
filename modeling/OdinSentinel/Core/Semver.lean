import OdinSentinel.Core.JsonRoundTrip
import OdinSentinel.Core.ZeroPadded

/-!
# Semantic versions

Versions as Semantic Versioning 2.0.0 writes and orders them: three numbers, then the
identifiers of a pre-release and those of a build, which the order ignores.
-/

namespace OdinSentinel.Semver

open JsText

/-- `[0-9A-Za-z-]`. -/
def isIdentifierUnit (unit : UInt16) : Bool :=
  isDigit unit || isUpper unit || isLower unit || unit == 45

/-- An identifier of a build: a run of letters, digits and hyphens. -/
@[ext]
structure Label where
  text : JsString
  nonempty : text ≠ []
  plain : ∀ unit ∈ text, isIdentifierUnit unit = true

/-- An identifier of a pre-release: a number, written without leading zeros, or a label that
is no number. -/
inductive Identifier
  | numeric (value : Nat)
  | alphanumeric (label : Label) (hletter : ∃ unit ∈ label.text, isDigit unit = false)

def Identifier.text : Identifier → JsString
  | .numeric value => natText value
  | .alphanumeric label _ => label.text

structure Version where
  major : Nat
  minor : Nat
  patch : Nat
  preRelease : List Identifier
  build : List Label

namespace Version

def numbers (version : Version) : List Nat := [version.major, version.minor, version.patch]

/-- Identifiers behind their mark. -/
def marked (mark : UInt16) : List JsString → JsString
  | [] => []
  | identifiers => mark :: [46].intercalate identifiers

/-- What stands behind the numbers. -/
def suffix (version : Version) : JsString :=
  marked 45 (version.preRelease.map Identifier.text) ++ marked 43 (version.build.map Label.text)

def text (version : Version) : JsString :=
  natText version.major ++ 46 :: natText version.minor ++ 46 :: natText version.patch ++
    version.suffix

end Version

/-- A text is that of a version, with or without a `v` in front. -/
def Denotes (text : JsString) (version : Version) : Prop :=
  text = version.text ∨ text = 118 :: version.text

/-! ## Precedence -/

/-- Numbers are ordered by value, labels by their characters, and a number precedes a label. -/
def Identifier.order : Identifier → Identifier → Ordering
  | .numeric left, .numeric right => compare left right
  | .numeric _, .alphanumeric _ _ => .lt
  | .alphanumeric _ _, .numeric _ => .gt
  | .alphanumeric left _, .alphanumeric right _ => List.compareLex compare left.text right.text

/-- A pre-release precedes the release, and a shorter one the longer one that it starts. -/
def preReleaseOrder : List Identifier → List Identifier → Ordering
  | [], [] => .eq
  | [], _ :: _ => .gt
  | _ :: _, [] => .lt
  | left, right => List.compareLex Identifier.order left right

def precedence (left right : Version) : Ordering :=
  (List.compareLex compare left.numbers right.numbers).then
    (preReleaseOrder left.preRelease right.preRelease)

theorem Identifier.order_eq_iff {left right : Identifier} :
    left.order right = .eq ↔ left = right := by
  cases left with
  | numeric left =>
      cases right with
      | numeric right =>
          rw [Identifier.order, compare_eq_iff_eq, Identifier.numeric.injEq]
      | alphanumeric right hright => exact iff_of_false Ordering.noConfusion Identifier.noConfusion
  | alphanumeric left hleft =>
      cases right with
      | numeric right => exact iff_of_false Ordering.noConfusion Identifier.noConfusion
      | alphanumeric right hright =>
          rw [Identifier.order, Std.LawfulEqCmp.compare_eq_iff_eq, Identifier.alphanumeric.injEq]
          exact ⟨Label.ext, congrArg Label.text⟩

theorem Identifier.order_swap (left right : Identifier) :
    (left.order right).swap = right.order left := by
  cases left with
  | numeric left =>
      cases right with
      | numeric right => rw [order, order, ← Std.OrientedCmp.eq_swap]
      | alphanumeric right hright => rfl
  | alphanumeric left hleft =>
      cases right with
      | numeric right => rfl
      | alphanumeric right hright => rw [order, order, ← Std.OrientedCmp.eq_swap]

instance : Std.LawfulEqCmp Identifier.order where
  compare_self := Identifier.order_eq_iff.mpr rfl
  eq_of_compare := Identifier.order_eq_iff.mp

instance : Std.OrientedCmp Identifier.order where
  eq_swap := (Identifier.order_swap _ _).symm

/-- A list is below another that it starts, and below one that is above it where they part. -/
theorem compareLex_eq_lt_iff {α : Type*} {cmp : α → α → Ordering} [Std.LawfulEqCmp cmp]
    {left right : List α} :
    List.compareLex cmp left right = .lt ↔
      (∃ value rest, right = left ++ value :: rest) ∨
        ∃ shared first second lefts rights, left = shared ++ first :: lefts ∧
          right = shared ++ second :: rights ∧ cmp first second = .lt := by
  induction left generalizing right with
  | nil =>
      cases right with
      | nil => simp [List.compareLex_nil_nil]
      | cons value right => simp [List.compareLex_nil_cons]
  | cons first lefts ih =>
      cases right with
      | nil => simp [List.compareLex_cons_nil]
      | cons second rights =>
          rw [List.compareLex_cons_cons, ZeroPadded.then_eq_lt_iff, ih,
            Std.LawfulEqCmp.compare_eq_iff_eq]
          constructor
          · rintro (hlower | ⟨rfl, ⟨value, rest, rfl⟩ |
              ⟨shared, left, right, lefts, rights, rfl, rfl, hlower⟩⟩)
            · exact .inr ⟨[], first, second, lefts, rights, rfl, rfl, hlower⟩
            · exact .inl ⟨value, rest, rfl⟩
            · exact .inr ⟨first :: shared, left, right, lefts, rights, rfl, rfl, hlower⟩
          · rintro (⟨value, rest, hright⟩ | ⟨shared, left, right, ls, rs, hleft, hright, hlower⟩)
            · obtain ⟨rfl, rfl⟩ := List.cons.inj hright
              exact .inr ⟨rfl, .inl ⟨value, rest, rfl⟩⟩
            · cases shared with
              | nil =>
                  obtain ⟨rfl, rfl⟩ := List.cons.inj hleft
                  obtain ⟨rfl, rfl⟩ := List.cons.inj hright
                  exact .inl hlower
              | cons value shared =>
                  obtain ⟨rfl, rfl⟩ := List.cons.inj hleft
                  obtain ⟨rfl, rfl⟩ := List.cons.inj hright
                  exact .inr ⟨rfl, .inr ⟨shared, left, right, ls, rs, rfl, rfl, hlower⟩⟩

theorem preReleaseOrder_eq_lt_iff {left right : List Identifier} :
    preReleaseOrder left right = .lt ↔ left ≠ [] ∧
      (right = [] ∨ (∃ identifier rest, right = left ++ identifier :: rest) ∨
        ∃ shared first second lefts rights, left = shared ++ first :: lefts ∧
          right = shared ++ second :: rights ∧ first.order second = .lt) := by
  cases left with
  | nil => cases right <;> simp [preReleaseOrder]
  | cons first lefts =>
      cases right with
      | nil => simp [preReleaseOrder]
      | cons second rights =>
          rw [preReleaseOrder, compareLex_eq_lt_iff]
          simp
          all_goals simp

theorem preReleaseOrder_eq_eq_iff {left right : List Identifier} :
    preReleaseOrder left right = .eq ↔ left = right := by
  cases left with
  | nil => cases right <;> simp [preReleaseOrder]
  | cons first lefts =>
      cases right with
      | nil => simp [preReleaseOrder]
      | cons second rights =>
          rw [preReleaseOrder, Std.LawfulEqCmp.compare_eq_iff_eq]
          all_goals simp

theorem preReleaseOrder_swap (left right : List Identifier) :
    (preReleaseOrder left right).swap = preReleaseOrder right left := by
  cases left with
  | nil => cases right <;> rfl
  | cons first lefts =>
      cases right with
      | nil => rfl
      | cons second rights =>
          rw [preReleaseOrder, preReleaseOrder, ← Std.OrientedCmp.eq_swap]
          all_goals simp

theorem precedence_eq_lt_iff {left right : Version} : precedence left right = .lt ↔
    ZeroPadded.Lower left.numbers right.numbers ∨
      left.numbers = right.numbers ∧ preReleaseOrder left.preRelease right.preRelease = .lt := by
  have hlength : left.numbers.length = right.numbers.length := rfl
  rw [precedence, ZeroPadded.then_eq_lt_iff, Std.LawfulEqCmp.compare_eq_iff_eq,
    ZeroPadded.compareLex_eq_order hlength, ZeroPadded.order_eq_lt_iff]

theorem precedence_eq_eq_iff {left right : Version} : precedence left right = .eq ↔
    left.numbers = right.numbers ∧ left.preRelease = right.preRelease := by
  rw [precedence, ZeroPadded.then_eq_eq_iff, Std.LawfulEqCmp.compare_eq_iff_eq,
    preReleaseOrder_eq_eq_iff]

theorem precedence_swap (left right : Version) :
    (precedence left right).swap = precedence right left := by
  rw [precedence, Ordering.swap_then, preReleaseOrder_swap, ← Std.OrientedCmp.eq_swap]
  rfl

/-! ## The units of a version -/

/-- A unit that may stand in a version. -/
def IsVersionUnit (unit : UInt16) : Prop := isIdentifierUnit unit = true ∨ unit = 43 ∨ unit = 46

theorem isIdentifierUnit_of_isDigit {unit : UInt16} (hdigit : isDigit unit = true) :
    isIdentifierUnit unit = true := by
  rw [isIdentifierUnit, hdigit]
  rfl

theorem isIdentifierUnit_natText (value : Nat) :
    ∀ unit ∈ natText value, isIdentifierUnit unit = true :=
  fun unit hunit => isIdentifierUnit_of_isDigit (Json.isDigit_of_mem_natText value unit hunit)

theorem Identifier.plain (identifier : Identifier) :
    ∀ unit ∈ identifier.text, isIdentifierUnit unit = true := by
  cases identifier with
  | numeric value => exact isIdentifierUnit_natText value
  | alphanumeric label hletter => exact label.plain

/-- No blank, line end or other control character stands in a version. -/
theorem IsVersionUnit.bounds {unit : UInt16} (hunit : IsVersionUnit unit) :
    43 ≤ unit.toNat ∧ unit.toNat ≤ 122 := by
  rcases hunit with hidentifier | rfl | rfl
  · simp only [isIdentifierUnit, isDigit, isUpper, isLower, Bool.or_eq_true, Bool.and_eq_true,
      decide_eq_true_eq, beq_iff_eq] at hidentifier
    rcases hidentifier with ((hdigit | hupper) | hlower) | rfl
    · omega
    · omega
    · omega
    · decide
  · decide
  · decide

theorem mem_intercalate {mark unit : UInt16} {pieces : List JsString}
    (hunit : unit ∈ [mark].intercalate pieces) : unit = mark ∨ ∃ piece ∈ pieces, unit ∈ piece := by
  induction pieces with
  | nil => cases hunit
  | cons piece pieces ih =>
      cases pieces with
      | nil =>
          rw [List.intercalate_singleton] at hunit
          exact .inr ⟨piece, List.mem_singleton_self piece, hunit⟩
      | cons next pieces =>
          rw [List.intercalate_cons_cons, List.append_assoc] at hunit
          rcases List.mem_append.mp hunit with hunit | hunit
          · exact .inr ⟨piece, List.mem_cons_self, hunit⟩
          · rcases List.mem_append.mp hunit with hunit | hunit
            · exact .inl (List.mem_singleton.mp hunit)
            · exact (ih hunit).imp_right fun ⟨found, hfound, hunit⟩ =>
                ⟨found, List.mem_cons_of_mem piece hfound, hunit⟩

theorem mem_marked {mark unit : UInt16} {identifiers : List JsString}
    (hplain : ∀ identifier ∈ identifiers, ∀ unit ∈ identifier, isIdentifierUnit unit = true)
    (hunit : unit ∈ Version.marked mark identifiers) :
    unit = mark ∨ unit = 46 ∨ isIdentifierUnit unit = true := by
  cases identifiers with
  | nil => cases hunit
  | cons identifier identifiers =>
      rcases List.mem_cons.mp hunit with rfl | hunit
      · exact .inl rfl
      · rcases mem_intercalate hunit with rfl | ⟨found, hfound, hunit⟩
        · exact .inr (.inl rfl)
        · exact .inr (.inr (hplain found hfound unit hunit))

theorem Version.plain_preRelease (version : Version) :
    ∀ identifier ∈ version.preRelease.map Identifier.text, ∀ unit ∈ identifier,
      isIdentifierUnit unit = true := by
  intro text htext
  obtain ⟨identifier, -, rfl⟩ := List.mem_map.mp htext
  exact identifier.plain

theorem Version.plain_build (version : Version) :
    ∀ identifier ∈ version.build.map Label.text, ∀ unit ∈ identifier,
      isIdentifierUnit unit = true := by
  intro text htext
  obtain ⟨label, -, rfl⟩ := List.mem_map.mp htext
  exact label.plain

theorem Version.isVersionUnit_suffix (version : Version) :
    ∀ unit ∈ version.suffix, IsVersionUnit unit := by
  intro unit hunit
  rcases List.mem_append.mp hunit with hunit | hunit
  · rcases mem_marked version.plain_preRelease hunit with rfl | rfl | hunit
    · exact .inl rfl
    · exact .inr (.inr rfl)
    · exact .inl hunit
  · rcases mem_marked version.plain_build hunit with rfl | rfl | hunit
    · exact .inr (.inl rfl)
    · exact .inr (.inr rfl)
    · exact .inl hunit

theorem Version.isVersionUnit_text (version : Version) :
    ∀ unit ∈ version.text, IsVersionUnit unit := by
  intro unit hunit
  simp only [Version.text, List.mem_append, List.mem_cons] at hunit
  rcases hunit with ((hmajor | rfl | hminor) | rfl | hpatch) | hsuffix
  · exact .inl (isIdentifierUnit_natText _ unit hmajor)
  · exact .inr (.inr rfl)
  · exact .inl (isIdentifierUnit_natText _ unit hminor)
  · exact .inr (.inr rfl)
  · exact .inl (isIdentifierUnit_natText _ unit hpatch)
  · exact version.isVersionUnit_suffix unit hsuffix

/-- What stands behind the numbers starts with its mark. -/
theorem Version.suffix_head (version : Version) :
    version.suffix.head? = none ∨ version.suffix.head? = some 45 ∨
      version.suffix.head? = some 43 := by
  rw [Version.suffix]
  cases version.preRelease with
  | nil =>
      cases version.build with
      | nil => exact .inl rfl
      | cons label build => exact .inr (.inr rfl)
  | cons identifier preRelease => exact .inr (.inl rfl)

end OdinSentinel.Semver
