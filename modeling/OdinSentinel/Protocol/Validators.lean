import OdinSentinel.Core.JsText

/-!
# Validators

The helpers that the protocol's validators share, and the order on version
strings.  A plain object is a `JsValue`; a field that is not there reads as
`undefined`.
-/

namespace OdinSentinel.Validators

open JsText

structure ValidationResult where
  valid : Bool
  missing : List JsString
  invalid : List JsString
  warnings : List JsString
  deriving DecidableEq

inductive FieldKind
  | string
  | boolean
  | stringArray
  | object
  deriving DecidableEq

def asRecord (value : JsValue) : JsValue :=
  match value with
  | .object _ => value
  | _ => .object []

/-- `typeof value === "string" && value.trim() === ""`. -/
def isBlankText : JsValue → Bool
  | .string text => trim text == []
  | _ => false

/-- `typeof value === "string" && value.trim() !== ""`. -/
def isNonBlankText : JsValue → Bool
  | .string text => trim text != []
  | _ => false

/-- `value === undefined || value === null`. -/
def isNullish : JsValue → Bool
  | .undefined | .null => true
  | _ => false

def buildValidationResult (missing invalid warnings : List JsString) : ValidationResult where
  valid := missing.isEmpty && invalid.isEmpty
  missing := missing
  invalid := invalid
  warnings := warnings

def validateRequiredFields (value : JsValue) (requiredFields : List JsString) : List JsString :=
  requiredFields.filter fun name => isNullish (value.field name) || isBlankText (value.field name)

/-- Whether a value that is there is not of the kind. -/
def isWrongKind (kind : FieldKind) (current : JsValue) : Bool :=
  match kind, current with
  | .string, current => !isNonBlankText current
  | .boolean, .bool _ => false
  | .boolean, _ => true
  | .stringArray, .array items => items.any fun item => !isNonBlankText item
  | .stringArray, _ => true
  | .object, .object _ => false
  | .object, _ => true

def validateFieldTypes (value : JsValue) (expected : List (JsString × FieldKind)) :
    List JsString :=
  (expected.filter fun entry =>
    !isNullish (value.field entry.1) && isWrongKind entry.2 (value.field entry.1)).map Prod.fst

theorem asRecord_field (value : JsValue) (name : JsString) :
    (asRecord value).field name = value.field name := by
  cases value <;> rfl

/-- A field that is there and no blank text. -/
def IsGiven (value : JsValue) (name : JsString) : Prop :=
  isNullish (value.field name) = false ∧ isBlankText (value.field name) = false

theorem buildValidationResult_valid_iff {missing invalid warnings : List JsString} :
    (buildValidationResult missing invalid warnings).valid = true ↔
      missing = [] ∧ invalid = [] := by
  rw [buildValidationResult, Bool.and_eq_true, List.isEmpty_iff, List.isEmpty_iff]

theorem validateRequiredFields_eq_nil_iff {value : JsValue} {requiredFields : List JsString} :
    validateRequiredFields value requiredFields = [] ↔
      ∀ name ∈ requiredFields, IsGiven value name := by
  simp only [validateRequiredFields, List.filter_eq_nil_iff, Bool.or_eq_true, not_or,
    Bool.not_eq_true, IsGiven]

/-! ## Findings -/

/-- What a validator's rules push, in order: fields refused and texts for the reader. -/
structure Findings where
  invalid : List JsString
  warnings : List JsString
  deriving DecidableEq

namespace Findings

def none : Findings where
  invalid := []
  warnings := []

/-- A rule that refuses a field, where its condition holds. -/
def refuseIf (holds : Bool) (name text : JsString) : Findings :=
  if holds then { invalid := [name], warnings := [text] } else none

/-- A field refused without a text. -/
def refuse (name : JsString) : Findings where
  invalid := [name]
  warnings := []

/-- A rule that only speaks, where its condition holds. -/
def adviseIf (holds : Bool) (text : JsString) : Findings :=
  if holds then { invalid := [], warnings := [text] } else none

instance : Append Findings where
  append left right :=
    { invalid := left.invalid ++ right.invalid
      warnings := left.warnings ++ right.warnings }

def result (findings : Findings) (missing : List JsString) : ValidationResult :=
  buildValidationResult missing findings.invalid findings.warnings

theorem invalid_append (left right : Findings) :
    (left ++ right).invalid = left.invalid ++ right.invalid := rfl

theorem invalid_refuseIf {holds : Bool} {name text : JsString} :
    (refuseIf holds name text).invalid = if holds then [name] else [] := by
  cases holds <;> rfl

theorem invalid_adviseIf {holds : Bool} {text : JsString} :
    (adviseIf holds text).invalid = [] := by
  cases holds <;> rfl

/-- A rule refuses nothing exactly where its condition fails. -/
theorem refuseIf_eq_nil_iff {holds : Bool} {name text : JsString} :
    (refuseIf holds name text).invalid = [] ↔ holds = false := by
  cases holds <;> simp [refuseIf, none]

theorem result_valid_iff {findings : Findings} {missing : List JsString} :
    (findings.result missing).valid = true ↔ missing = [] ∧ findings.invalid = [] :=
  buildValidationResult_valid_iff

end Findings

/-! ## Versions -/

/-- What `.` does not match. -/
def isLineTerminator (unit : UInt16) : Bool :=
  unit == 10 || unit == 13 || unit == 0x2028 || unit == 0x2029

/-- `part.replace(/[^0-9].*$/, "")`: cut at the first unit that is no digit and
has no line terminator behind it. -/
def cutAtNonDigit : JsString → JsString
  | [] => []
  | unit :: rest =>
      if !isDigit unit && !rest.any isLineTerminator then [] else unit :: cutAtNonDigit rest

/-- An integer as a double, its halves to even. -/
def roundToDouble (value : Nat) : JsNumber :=
  let shift := value.log2 - 52
  let unit := 2 ^ shift
  let low := value % unit
  let kept := value / unit
  let up := unit < 2 * low ∨ (unit = 2 * low ∧ kept % 2 = 1)
  let rounded := (if up then kept + 1 else kept) * unit
  if rounded < 2 ^ 1024 then .ofNat rounded else .infinity

/-- `Number.parseInt(text, 10)`. -/
def parseInt (text : JsString) : JsNumber :=
  let start := text.dropWhile isSpace
  let negative := start.head? == some 45
  let unsigned := if negative || start.head? == some 43 then start.drop 1 else start
  let digits := unsigned.takeWhile isDigit
  if digits = [] then .nan
  else
    let value := roundToDouble
      (digits.foldl (fun value unit => value * 10 + (unit.toNat - 48)) 0)
    if negative then value.neg else value

/-- One part of a version; what is no finite number counts as 0. -/
def semverPart (part : JsString) : ℚ :=
  match parseInt (cutAtNonDigit part) with
  | .finite value => value
  | _ => 0

def semverParts (value : JsString) : List ℚ :=
  let trimmed := trim value
  let bare := if trimmed.head? == some 118 || trimmed.head? == some 86 then trimmed.drop 1
    else trimmed
  (bare.splitOn 46).map semverPart

/-- The first difference that is not zero, missing parts counting as 0. -/
def compareParts : List ℚ → List ℚ → ℚ
  | [], [] => 0
  | left :: lefts, [] => if left ≠ 0 then left else compareParts lefts []
  | [], right :: rights => if right ≠ 0 then -right else compareParts [] rights
  | left :: lefts, right :: rights =>
      if left - right ≠ 0 then left - right else compareParts lefts rights

def compareSemver (left right : JsString) : ℚ :=
  compareParts (semverParts left) (semverParts right)

def isVersionBelow (version minimum : JsString) : Bool := compareSemver version minimum < 0

end OdinSentinel.Validators
