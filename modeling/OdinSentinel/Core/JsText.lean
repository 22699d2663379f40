import Mathlib.Data.Rat.Floor
import OdinSentinel.Core.Text

/-!
# Script strings and numbers

A script string is a list of UTF-16 code units, as the language has it: lone
surrogates are values like any other.  `js` writes a literal.  Numbers are the
finite rationals together with the two infinities and `NaN`, exact here: which of
them are doubles, and what a sum or product is rounded to, is said where it is used.
-/

namespace OdinSentinel.JsText

/-- UTF-16 code units. -/
abbrev JsString := List UInt16

instance : LawfulBEq JsString := inferInstance

/-- The code units of one code point: itself below U+10000, else a surrogate pair. -/
def utf16 (code : Nat) : JsString :=
  if code < 0x10000 then [code.toUInt16]
  else [(0xD800 + (code - 0x10000) / 0x400).toUInt16,
    (0xDC00 + (code - 0x10000) % 0x400).toUInt16]

/-- A string literal. -/
def js (literal : String) : JsString :=
  literal.toList.flatMap (fun character => utf16 character.toNat)

/-- The decimal digits of a natural number, as a template literal prints it. -/
def natText (value : Nat) : JsString :=
  js (toString value)

/-- `WhiteSpace` and `LineTerminator`: what `trim` strips and `\s` matches. -/
def isSpaceCode (code : Nat) : Bool :=
  (9 ≤ code && code ≤ 13) || code == 0x20 || code == 0xA0 || code == 0x1680 ||
    (0x2000 ≤ code && code ≤ 0x200A) || code == 0x2028 || code == 0x2029 ||
    code == 0x202F || code == 0x205F || code == 0x3000 || code == 0xFEFF

def isSpace (unit : UInt16) : Bool := isSpaceCode unit.toNat

/-- `text.trim()`. -/
def trim (text : JsString) : JsString := Text.trimBy isSpace text

/-- `text.trim() === ""`. -/
theorem trim_eq_nil_iff (text : JsString) :
    trim text = [] ↔ ∀ unit ∈ text, isSpace unit = true :=
  Text.trimBy_eq_nil_iff isSpace text

/-- A decimal digit `0`–`9`. -/
def isDigit (unit : UInt16) : Bool := 48 ≤ unit.toNat && unit.toNat ≤ 57

/-- A letter `A`–`Z`. -/
def isUpper (unit : UInt16) : Bool := 65 ≤ unit.toNat && unit.toNat ≤ 90

/-- A letter `a`–`z`. -/
def isLower (unit : UInt16) : Bool := 97 ≤ unit.toNat && unit.toNat ≤ 122

/-- A script number without its rounding. -/
inductive JsNumber
  | nan
  | negInfinity
  | infinity
  | finite (value : ℚ)
  deriving DecidableEq

namespace JsNumber

/-- A natural number as a script number. -/
def ofNat (value : Nat) : JsNumber := .finite value

/-- An integer as a script number. -/
def ofInt (value : Int) : JsNumber := .finite value

/-- The exact `left + right`. -/
def add : JsNumber → JsNumber → JsNumber
  | .finite left, .finite right => .finite (left + right)
  | .nan, _ | _, .nan => .nan
  | .infinity, .negInfinity | .negInfinity, .infinity => .nan
  | .infinity, _ | _, .infinity => .infinity
  | .negInfinity, _ | _, .negInfinity => .negInfinity

/-- `-value`. -/
def neg : JsNumber → JsNumber
  | .finite value => .finite (-value)
  | .infinity => .negInfinity
  | .negInfinity => .infinity
  | .nan => .nan

/-- `left <= right`; false as soon as one side is `NaN`. -/
def le : JsNumber → JsNumber → Bool
  | .nan, _ | _, .nan => false
  | .negInfinity, _ | _, .infinity => true
  | .infinity, _ | _, .negInfinity => false
  | .finite left, .finite right => left ≤ right

/-- `Math.max(0, value)`. -/
def maxZero : JsNumber → JsNumber
  | .finite value => .finite (max 0 value)
  | .negInfinity => .finite 0
  | other => other

/-- `Number.isFinite(value)`. -/
def isFinite : JsNumber → Bool
  | .finite _ => true
  | _ => false

theorem le_of_le_of_le {left middle right : JsNumber}
    (hleft : left.le middle = true) (hright : middle.le right = true) :
    left.le right = true := by
  cases left <;> cases middle <;> cases right <;> simp_all [le]
  exact le_trans hleft hright

end JsNumber

/-- A script value as `JSON.parse` builds it, with the `undefined` of a field
that is not there. -/
inductive JsValue
  | undefined
  | null
  | bool (value : Bool)
  | number (value : JsNumber)
  | string (value : JsString)
  | array (items : List JsValue)
  | object (fields : List (JsString × JsValue))
  deriving Inhabited

namespace JsValue

/-- `value[name]` on a plain object's own fields; anything else has none. -/
def field (value : JsValue) (name : JsString) : JsValue :=
  match value with
  | .object fields => (fields.lookup name).getD .undefined
  | _ => .undefined

/-- The text of a string value. -/
def asString : JsValue → Option JsString
  | .string text => some text
  | _ => none

/-- A nullable text, as a record stores it. -/
def ofNullable : Option JsString → JsValue
  | none => .null
  | some text => .string text

end JsValue

end OdinSentinel.JsText
