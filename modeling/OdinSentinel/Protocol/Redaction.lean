import OdinSentinel.Core.JsText
import OdinSentinel.Core.Regex

/-!
# Secret-looking text

`redactSecretLikeText` and the token shapes it shares with the telemetry
redactor, each pattern written part by part.  None of the patterns carries the
Unicode flag, so ignoring case folds ASCII letters only.
-/

namespace OdinSentinel.Validators

open JsText Regex

def isAlphanumeric (unit : UInt16) : Bool := isUpper unit || isLower unit || isDigit unit

/-- `\w`. -/
def isWordUnit (unit : UInt16) : Bool := isAlphanumeric unit || unit == 95

def isOneOf (units : JsString) (unit : UInt16) : Bool := units.contains unit

/-- A class written as letters and digits and further characters. -/
def alphanumericOr (units : JsString) (unit : UInt16) : Bool :=
  isAlphanumeric unit || isOneOf units unit

/-- ASCII letters without their case. -/
def ignoreCase (unit : UInt16) : UInt16 := if isUpper unit then unit + 32 else unit

/-- Literal text. -/
def exactly (text : JsString) : Pattern UInt16 :=
  .all (text.map fun unit => .one (· == unit))

/-- Literal text under the `i` flag. -/
def anyCase (text : JsString) : Pattern UInt16 :=
  .all (text.map fun unit => .one (ignoreCase · == ignoreCase unit))

/-- `\b`. -/
def wordBoundary : Pattern UInt16 :=
  .assertion fun before after => (before.any isWordUnit) != (after.any isWordUnit)

/-- `text.replaceAll(pattern, replacement)` for a pattern without a group. -/
def replacePattern (pattern : Pattern UInt16) (replacement text : JsString) : JsString :=
  replaceAll .empty pattern replacement text

def redacted : JsString := js "[REDACTED]"

/-- `PREFIXED_TOKEN_RE`. -/
def prefixedTokenRe : Pattern UInt16 :=
  .all [.assertion fun before _ => !before.any isAlphanumeric,
    .any [anyCase (js "sk"), anyCase (js "pk"), anyCase (js "ghp"), anyCase (js "gho"),
      anyCase (js "ghu"), anyCase (js "github_pat"),
      .both (anyCase (js "xox")) (.one fun unit => isOneOf (js "baprs") (ignoreCase unit))],
    .maybe (.one (· == 45)),
    .many 8 (alphanumericOr (js "_=-"))]

/-- The name and `=` of `NAME=value` where the name marks a credential. -/
def assignmentName : Pattern UInt16 :=
  .all [.many 0 isWordUnit,
    .any [anyCase (js "TOKEN"), anyCase (js "SECRET"), anyCase (js "KEY"),
      anyCase (js "PASSWORD")],
    .many 0 isWordUnit, .one (· == 61)]

def bearerWord : Pattern UInt16 := .both (anyCase (js "Bearer")) (.many 1 isSpace)

/-- Two words with `_`, `-` or nothing between them. -/
def joinedWords (left right : String) : Pattern UInt16 :=
  .all [anyCase (js left), .maybe (.one (isOneOf (js "_-"))), anyCase (js right)]

/-- The group of `JSON_SECRET_FIELD_RE`: a quoted name that marks a credential, and its colon. -/
def jsonSecretName : Pattern UInt16 :=
  .all [.one (· == 34), .many 0 (· != 34),
    .any [joinedWords "api" "key", anyCase (js "secret"), anyCase (js "password"),
      joinedWords "access" "key", joinedWords "private" "key"],
    .many 0 (· != 34), .one (· == 34), .many 0 isSpace, .one (· == 58), .many 0 isSpace]

def jsonSecretValue : Pattern UInt16 :=
  .all [.one (· == 34), .many 8 (· != 34), .one (· == 34)]

/-- A token shape: its literal start, then its parts, between word boundaries. -/
def tokenShape (start : String) (parts : List (Pattern UInt16)) : Pattern UInt16 :=
  .all (wordBoundary :: exactly (js start) :: parts ++ [wordBoundary])

/-- `SECRET_TOKEN_PATTERNS`. -/
def secretTokenPatterns : List (Pattern UInt16) :=
  [tokenShape "sk-" [.maybe (exactly (js "proj-")), .many 20 (alphanumericOr (js "_-"))],
    tokenShape "lin_api_" [.many 16 isAlphanumeric],
    tokenShape "ghp_" [.many 20 isAlphanumeric],
    tokenShape "gho_" [.many 20 isAlphanumeric],
    tokenShape "github_pat_" [.many 20 isWordUnit],
    tokenShape "AIza" [.many 30 (alphanumericOr (js "_-"))],
    tokenShape "xox" [.one (isOneOf (js "bp")), exactly (js "-"),
      .many 20 (alphanumericOr (js "-"))],
    tokenShape "dp.st." [.many 16 (alphanumericOr (js "._-"))],
    tokenShape "dp.pt." [.many 16 (alphanumericOr (js "._-"))],
    tokenShape "eyJ" [.many 20 (alphanumericOr (js "_-")), exactly (js "."),
      .many 10 (alphanumericOr (js "_-")), exactly (js "."),
      .many 10 (alphanumericOr (js "_-"))]]

def redactSecretLikeText (value : JsString) : JsString :=
  let named := replacePattern prefixedTokenRe redacted value
  let assigned := replaceAll assignmentName (.many 1 fun unit => !isSpace unit) redacted named
  let borne := replaceAll bearerWord (.many 1 (alphanumericOr (js "._=-"))) redacted assigned
  let quoted := replaceAll jsonSecretName jsonSecretValue (34 :: redacted ++ [34]) borne
  secretTokenPatterns.foldl (fun result pattern => replacePattern pattern redacted result) quoted

end OdinSentinel.Validators
