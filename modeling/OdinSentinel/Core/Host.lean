import OdinSentinel.Core.Calendar
import OdinSentinel.Core.JsText

/-!
# The script host

What the scripting host computes in ways that a caller can observe but the
repository does not decide: the text of numbers and instants, the parser of
instants, path joining.  Results about the code hold for every host unless a
law of it is named as a hypothesis.
-/

namespace OdinSentinel.Host

open JsText

/-- Host functions.  `longNumberText` is the text of a finite number that is no integer
below 10^21, `toISOString` is `none` where it throws a `RangeError`, and `dateParse`
is `none` for `NaN`. -/
structure HostRuntime where
  longNumberText : ℚ → JsString
  toISOString : JsNumber → Option JsString
  dateParse : JsString → Option Int
  joinPath : JsString → JsString → JsString

/-- `Number::toString` of a finite number: integers below 10^21 in decimal. -/
def HostRuntime.numberToString (host : HostRuntime) (value : ℚ) : JsString :=
  if value.den = 1 ∧ value.num.natAbs < 10 ^ 21 then
    (if value.num < 0 then [45] else []) ++ natText value.num.natAbs
  else host.longNumberText value

/-- A template literal's text of a number. -/
def HostRuntime.numberText (host : HostRuntime) : JsNumber → JsString
  | .nan => js "NaN"
  | .negInfinity => js "-Infinity"
  | .infinity => js "Infinity"
  | .finite value => host.numberToString value

/-- `JSON.stringify` of a number: what is not finite is written `null`. -/
def HostRuntime.numberJson (host : HostRuntime) : JsNumber → JsString
  | .finite value => host.numberToString value
  | _ => js "null"

/-! ## A plain host

Enough of a host to run the code: instants in the ISO form that the instant printer
itself writes, and no text for the numbers that the code does not print. -/

/-- `value` in decimal, padded with zeros to `width` digits. -/
def padded (width value : Nat) : JsString :=
  let digits := natText value
  List.replicate (width - digits.length) 48 ++ digits

/-- `YYYY-MM-DDTHH:mm:ss.sssZ`, the year with a sign and six digits outside 0–9999. -/
def isoText (ms : Int) : JsString :=
  let date := Calendar.civilFromDays (ms / 86400000)
  let timeOfDay := (ms % 86400000).toNat
  let year :=
    if 0 ≤ date.year ∧ date.year ≤ 9999 then padded 4 date.year.toNat
    else (if 0 ≤ date.year then js "+" else js "-") ++ padded 6 date.year.natAbs
  year ++ js "-" ++ padded 2 date.month.toNat ++ js "-" ++ padded 2 date.day.toNat ++ js "T" ++
    padded 2 (timeOfDay / 3600000) ++ js ":" ++ padded 2 (timeOfDay / 60000 % 60) ++ js ":" ++
    padded 2 (timeOfDay / 1000 % 60) ++ js "." ++ padded 3 (timeOfDay % 1000) ++ js "Z"

/-- The milliseconds of a number that an instant can hold, its fraction cut off. -/
def clipTime : JsNumber → Option Int
  | .finite value =>
      if -8640000000000000 ≤ value ∧ value ≤ 8640000000000000 then
        some (if 0 ≤ value then value.floor else value.ceil)
      else none
  | _ => none

/-- The number a run of decimal digits denotes. -/
def digitsValue (digits : JsString) : Option Nat :=
  if digits.all isDigit then
    some (digits.foldl (fun value unit => value * 10 + (unit.toNat - 48)) 0)
  else none

/-- The instant that a text of the four-digit-year form denotes. -/
def parseIso (text : JsString) : Option Int := do
  let year ← digitsValue (text.take 4)
  let month ← digitsValue ((text.drop 5).take 2)
  let day ← digitsValue ((text.drop 8).take 2)
  let hour ← digitsValue ((text.drop 11).take 2)
  let minute ← digitsValue ((text.drop 14).take 2)
  let second ← digitsValue ((text.drop 17).take 2)
  let milli ← digitsValue ((text.drop 20).take 3)
  let ms := Calendar.daysFromCivil { year, month, day } * 86400000 +
    (hour * 3600000 + minute * 60000 + second * 1000 + milli : Nat)
  if isoText ms = text then some ms else none

def plainHost : HostRuntime where
  longNumberText _ := []
  toISOString ms := (clipTime ms).map isoText
  dateParse := parseIso
  joinPath dir name := dir ++ js "/" ++ name

end OdinSentinel.Host
