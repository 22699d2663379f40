import OdinSentinel.Core.Host
import OdinSentinel.Core.Unicode

/-!
# JSON text

`JSON.stringify` without a replacer or indentation.
-/

namespace OdinSentinel.Json

open JsText Host

/-- Four lower-case hexadecimal digits. -/
def hex4 (value : Nat) : JsString :=
  [value / 4096, value / 256 % 16, value / 16 % 16, value % 16].map
    (fun digit => (if digit < 10 then 48 + digit else 87 + digit).toUInt16)

/-- One code unit inside quotes; a surrogate here stands alone. -/
def quoteUnit (unit : UInt16) : JsString :=
  if unit = 8 then js "\\b"
  else if unit = 9 then js "\\t"
  else if unit = 10 then js "\\n"
  else if unit = 12 then js "\\f"
  else if unit = 13 then js "\\r"
  else if unit = 34 then js "\\\""
  else if unit = 92 then js "\\\\"
  else if unit.toNat < 32 ∨ Unicode.isSurrogate unit then js "\\u" ++ hex4 unit.toNat
  else [unit]

def quoteUnits : JsString → JsString
  | [] => []
  | [unit] => quoteUnit unit
  | high :: low :: rest =>
      if 0xD800 ≤ high.toNat ∧ high.toNat ≤ 0xDBFF ∧ 0xDC00 ≤ low.toNat ∧ low.toNat ≤ 0xDFFF then
        high :: low :: quoteUnits rest
      else quoteUnit high ++ quoteUnits (low :: rest)

def quote (text : JsString) : JsString := 34 :: quoteUnits text ++ [34]

mutual

/-- `JSON.stringify(value)`; a missing value is written `null`, as in an array. -/
def stringify (host : HostRuntime) : JsValue → JsString
  | .undefined => js "null"
  | .null => js "null"
  | .bool value => if value then js "true" else js "false"
  | .number value => host.numberJson value
  | .string text => quote text
  | .array items => 91 :: List.intercalate [44] (stringifyItems host items) ++ [93]
  | .object fields => 123 :: List.intercalate [44] (stringifyFields host fields) ++ [125]

def stringifyItems (host : HostRuntime) : List JsValue → List JsString
  | [] => []
  | item :: items => stringify host item :: stringifyItems host items

/-- The members of an object; a field whose value is `undefined` is left out. -/
def stringifyFields (host : HostRuntime) : List (JsString × JsValue) → List JsString
  | [] => []
  | (_, .undefined) :: fields => stringifyFields host fields
  | (name, value) :: fields =>
      (quote name ++ 58 :: stringify host value) :: stringifyFields host fields

end

end OdinSentinel.Json
