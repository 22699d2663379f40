import OdinSentinel.Protocol.Redaction

/-!
# The telemetry redactor

`redactString` with its patterns part by part.  Each of them keeps the text of its
groups and puts a mark for the rest, and every mark can be seen: redacting never
blanks a text.
-/

namespace OdinSentinel.Telemetry

open JsText Regex Validators

/-- What `.` does not match. -/
def isLineTerminator (unit : UInt16) : Bool := isOneOf [10, 13, 0x2028, 0x2029] unit

/-- `^` under the `m` flag. -/
def lineStart : Pattern UInt16 := .assertion fun before _ => before.all isLineTerminator

/-- `$` under the `m` flag. -/
def lineEnd : Pattern UInt16 := .assertion fun _ after => after.all isLineTerminator

/-- `HOME_USERS_RE`. -/
def homeUsersRe : Pattern UInt16 :=
  .all [exactly (js "/Users/"), .many 1 fun unit => !(isSpace unit || isOneOf (js "/\"'") unit)]

/-- `HOME_LINUX_RE`. -/
def homeLinuxRe : Pattern UInt16 :=
  .all [exactly (js "/home/"), .many 1 fun unit => !(isSpace unit || isOneOf (js "/\"'") unit)]

/-- `HOME_WIN_RE`: its class has one backslash, so it leaves out the letter `s` and
takes blanks. -/
def homeWinRe : Pattern UInt16 :=
  .all [exactly (js "\\Users\\"), .many 1 fun unit => !isOneOf (js "\\s\"'") unit]

/-- `EMAIL_RE`. -/
def emailRe : Pattern UInt16 :=
  .all [.many 1 (alphanumericOr (js "._%+-")), exactly (js "@"),
    .many 1 (alphanumericOr (js ".-")), exactly (js "."),
    .many 2 fun unit => isUpper unit || isLower unit]

/-- The token behind `Bearer`. -/
def bearerToken : Pattern UInt16 :=
  .all [.many 8 (alphanumericOr (js "._~+/-")), .upTo 2 (· == 61), wordBoundary]

/-- The group of `AUTH_BEARER_RE`. -/
def authBearerGroup : Pattern UInt16 :=
  .all [wordBoundary, anyCase (js "Authorization"), .many 0 isSpace, exactly (js ":"),
    .many 0 isSpace, anyCase (js "Bearer"), .many 1 isSpace]

/-- The group of `BEARER_RE`. -/
def bearerGroup : Pattern UInt16 :=
  .all [wordBoundary, exactly (js "Bearer"), .many 1 isSpace]

/-- The group of `ENV_DUMP_LINE_RE`. -/
def envDumpName : Pattern UInt16 :=
  let named := fun unit => isUpper unit || isDigit unit || unit == 95
  .all [lineStart, .one isUpper, .one named, .upTo 59 named, exactly (js "=")]

def envDumpValue : Pattern UInt16 := .both (.many 1 (!isLineTerminator ·)) lineEnd

/-- Both groups of `SECRET_ASSIGNMENT_RE` that it writes back. -/
def secretAssignmentName : Pattern UInt16 :=
  .all [wordBoundary, .many 0 (alphanumericOr (js "_.-")),
    .any [anyCase (js "secret"), anyCase (js "token"), joinedWords "api" "key",
      anyCase (js "apiKey"), joinedWords "access" "key", anyCase (js "accessKey"),
      joinedWords "private" "key", anyCase (js "privateKey"), anyCase (js "password"),
      anyCase (js "credential"), joinedWords "client" "secret", anyCase (js "clientSecret")],
    .many 0 (alphanumericOr (js "_.-")), .many 0 isSpace, .one (isOneOf (js ":=")),
    .many 0 isSpace, .maybe (.one (isOneOf (js "\"'")))]

def secretAssignmentValue : Pattern UInt16 :=
  .both (.assertion fun _ after => after != some 60)
    (.many 1 fun unit => !(isSpace unit || isOneOf (js "\"',\x7d") unit))

/-- The first group of `JSON_SECRET_RE`. -/
def jsonSecretMember : Pattern UInt16 :=
  .all [exactly (js "\""), .many 0 (· != 34),
    .any [anyCase (js "secret"), anyCase (js "token"), anyCase (js "apiKey"),
      anyCase (js "api_key"), anyCase (js "accessKey"), anyCase (js "access_key"),
      anyCase (js "privateKey"), anyCase (js "private_key"), anyCase (js "password"),
      anyCase (js "credential"), anyCase (js "authorization"), anyCase (js "clientSecret"),
      anyCase (js "client_secret")],
    .many 0 (· != 34), exactly (js "\""), .many 0 isSpace, exactly (js ":"), .many 0 isSpace]

def jsonSecretLiteral : Pattern UInt16 :=
  .any [.all [exactly (js "\""), .many 0 (· != 34), exactly (js "\"")], .many 1 isDigit,
    anyCase (js "true"), anyCase (js "false"), anyCase (js "null")]

/-- One `replace`: the groups that it writes back, what it takes out and the mark for it. -/
structure Masking where
  kept : Pattern UInt16
  taken : Pattern UInt16
  mark : JsString

def Masking.apply (masking : Masking) (text : JsString) : JsString :=
  replaceAll masking.kept masking.taken masking.mark text

/-- The replacements of `redactString` in their order. -/
def maskings : List Masking :=
  [⟨.empty, homeUsersRe, js "<HOME>"⟩,
    ⟨.empty, homeLinuxRe, js "<HOME>"⟩,
    ⟨.empty, homeWinRe, js "<HOME>"⟩,
    ⟨.empty, emailRe, js "<EMAIL>"⟩,
    ⟨authBearerGroup, bearerToken, js "<TOKEN>"⟩,
    ⟨bearerGroup, bearerToken, js "<TOKEN>"⟩,
    ⟨envDumpName, envDumpValue, js "<ENV_VALUE>"⟩,
    ⟨secretAssignmentName, secretAssignmentValue, js "<SECRET>"⟩,
    ⟨jsonSecretMember, jsonSecretLiteral, js "\"<SECRET>\""⟩] ++
  secretTokenPatterns.map fun pattern => ⟨.empty, pattern, js "<TOKEN>"⟩

def redactString (value : JsString) : JsString :=
  maskings.foldl (fun result masking => masking.apply result) value

/-! ## Blank texts -/

/-- Every mark has a unit that the trim leaves. -/
theorem maskings_visible : ∀ masking ∈ maskings, ∃ unit ∈ masking.mark, isSpace unit = false := by
  have hmarks : maskings.all (fun masking => masking.mark.any (!isSpace ·)) = true := by decide
  simpa only [List.all_eq_true, List.any_eq_true, Bool.not_eq_true'] using hmarks

/-- A text that shows something shows something after the redactor. -/
theorem redactString_visible {value : JsString} (hvalue : ∃ unit ∈ value, isSpace unit = false) :
    ∃ unit ∈ redactString value, isSpace unit = false := by
  apply List.foldlRecOn maskings (motive := fun text => ∃ unit ∈ text, isSpace unit = false)
  · exact hvalue
  · intro text htext masking hmasking
    exact exists_mem_replaceAll (maskings_visible masking hmasking) htext

end OdinSentinel.Telemetry
