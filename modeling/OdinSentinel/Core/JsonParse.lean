import OdinSentinel.Core.Double
import OdinSentinel.Core.Json

/-!
# Reading JSON text

`JSON.parse` without a reviver.
-/

namespace OdinSentinel.Json

open JsText Host

/-- The white space of JSON. -/
def isBlank (unit : UInt16) : Bool := unit == 32 || unit == 9 || unit == 10 || unit == 13

def skipBlank (text : JsString) : JsString := text.dropWhile isBlank

/-! ## Strings -/

def hexDigit (unit : UInt16) : Option Nat :=
  let code := unit.toNat
  if 48 ≤ code ∧ code ≤ 57 then some (code - 48)
  else if 97 ≤ code ∧ code ≤ 102 then some (code - 87)
  else if 65 ≤ code ∧ code ≤ 70 then some (code - 55)
  else none

/-- The code unit that four hexadecimal digits denote. -/
def hexUnit (first second third fourth : UInt16) : Option UInt16 := do
  let first ← hexDigit first
  let second ← hexDigit second
  let third ← hexDigit third
  let fourth ← hexDigit fourth
  some (first * 4096 + second * 256 + third * 16 + fourth).toUInt16

/-- The code unit that a one-letter escape denotes. -/
def unescape (letter : UInt16) : Option UInt16 :=
  if letter = 34 ∨ letter = 92 ∨ letter = 47 then some letter
  else if letter = 98 then some 8
  else if letter = 102 then some 12
  else if letter = 110 then some 10
  else if letter = 114 then some 13
  else if letter = 116 then some 9
  else none

/-- One more code unit in front of a text that was read. -/
def prepend (unit : UInt16) : Option (JsString × JsString) → Option (JsString × JsString)
  | some (text, rest) => some (unit :: text, rest)
  | none => none

/-- The text of a string behind its opening quote, and what follows its closing one. -/
def parseQuoted : JsString → Option (JsString × JsString)
  | [] => none
  | unit :: rest =>
      if unit = 34 then some ([], rest)
      else if unit = 92 then
        match rest with
        | [] => none
        | letter :: rest =>
            if letter = 117 then
              match rest with
              | first :: second :: third :: fourth :: rest =>
                  match hexUnit first second third fourth with
                  | some unit => prepend unit (parseQuoted rest)
                  | none => none
              | _ => none
            else
              match unescape letter with
              | some unit => prepend unit (parseQuoted rest)
              | none => none
      else if unit.toNat < 32 then none
      else prepend unit (parseQuoted rest)

/-! ## Numbers -/

def decimal (digits : JsString) : Nat :=
  digits.foldl (fun value unit => 10 * value + (unit.toNat - 48)) 0

/-- The value of a fraction, if one stands there, and what follows it. -/
def parseFraction (text : JsString) : Option (ℚ × JsString) :=
  match text with
  | unit :: rest =>
      if unit = 46 then
        let digits := rest.takeWhile isDigit
        if digits = [] then none
        else some ((decimal digits : ℚ) / 10 ^ digits.length, rest.dropWhile isDigit)
      else some (0, text)
  | [] => some (0, [])

/-- The power of ten of an exponent, if one stands there, and what follows it. -/
def parseExponent (text : JsString) : Option (Int × JsString) :=
  match text with
  | unit :: rest =>
      if unit = 101 ∨ unit = 69 then
        let negative := rest.head? == some 45
        let unsigned := if negative || rest.head? == some 43 then rest.drop 1 else rest
        let digits := unsigned.takeWhile isDigit
        if digits = [] then none
        else
          let power : Int := decimal digits
          some (if negative then -power else power, unsigned.dropWhile isDigit)
      else some (0, text)
  | [] => some (0, [])

def parseNumber (text : JsString) : Option (JsNumber × JsString) := do
  let negative := text.head? == some 45
  let unsigned := if negative then text.drop 1 else text
  let digits := unsigned.takeWhile isDigit
  if digits = [] ∨ (digits.head? = some 48 ∧ 1 < digits.length) then none
  else do
    let (fraction, rest) ← parseFraction (unsigned.dropWhile isDigit)
    let (power, rest) ← parseExponent rest
    let value := (decimal digits + fraction) * 10 ^ power
    some (toDouble (if negative then -value else value), rest)

/-! ## Values -/

/-- A member set on an object: a repeated name takes the later value. -/
def setField (fields : List (JsString × JsValue)) (name : JsString) (value : JsValue) :
    List (JsString × JsValue) :=
  if fields.any fun entry => entry.1 == name then
    fields.map fun entry => if entry.1 = name then (name, value) else entry
  else fields ++ [(name, value)]

/-- A word of the grammar, or else a number. -/
def parseWord (text : JsString) : Option (JsValue × JsString) :=
  if (js "true").isPrefixOf text then some (.bool true, text.drop 4)
  else if (js "false").isPrefixOf text then some (.bool false, text.drop 5)
  else if (js "null").isPrefixOf text then some (.null, text.drop 4)
  else (parseNumber text).map fun found => (.number found.1, found.2)

/-- What follows a punctuator, if it stands there. -/
def expect (punctuator : UInt16) (text : JsString) : Option JsString :=
  match skipBlank text with
  | unit :: rest => if unit = punctuator then some rest else none
  | [] => none

mutual

/-- One value and what follows it. -/
def parseValue : Nat → JsString → Option (JsValue × JsString)
  | 0, _ => none
  | fuel + 1, text =>
      match skipBlank text with
      | [] => none
      | unit :: rest =>
          if unit = 34 then (parseQuoted rest).map fun found => (.string found.1, found.2)
          else if unit = 91 then
            match expect 93 rest with
            | some rest => some (.array [], rest)
            | none => (parseItems fuel rest).map fun found => (.array found.1, found.2)
          else if unit = 123 then
            match expect 125 rest with
            | some rest => some (.object [], rest)
            | none => (parseMembers fuel [] rest).map fun found => (.object found.1, found.2)
          else parseWord (unit :: rest)

/-- The items of an array up to its bracket. -/
def parseItems : Nat → JsString → Option (List JsValue × JsString)
  | 0, _ => none
  | fuel + 1, text =>
      match parseValue fuel text with
      | none => none
      | some (item, rest) =>
          match expect 93 rest with
          | some rest => some ([item], rest)
          | none =>
              match expect 44 rest with
              | some rest => (parseItems fuel rest).map fun found => (item :: found.1, found.2)
              | none => none

/-- The members of an object up to its brace, behind those that were read. -/
def parseMembers : Nat → List (JsString × JsValue) → JsString →
    Option (List (JsString × JsValue) × JsString)
  | 0, _, _ => none
  | fuel + 1, fields, text => do
      let text ← expect 34 text
      let (name, rest) ← parseQuoted text
      let rest ← expect 58 rest
      let (value, rest) ← parseValue fuel rest
      match expect 125 rest with
      | some rest => some (setField fields name value, rest)
      | none =>
          match expect 44 rest with
          | some rest => parseMembers fuel (setField fields name value) rest
          | none => none

end

/-- `JSON.parse(text)`; `none` where it throws.  Every level of the grammar takes at
least one of the code units. -/
def parse (text : JsString) : Option JsValue :=
  match parseValue (2 * text.length) text with
  | some (value, rest) => if skipBlank rest = [] then some value else none
  | none => none

end OdinSentinel.Json
