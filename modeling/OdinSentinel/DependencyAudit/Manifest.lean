import OdinSentinel.Core.Host
import OdinSentinel.Core.UtcDate
import OdinSentinel.DependencyAudit.Workspace
import OdinSentinel.Protocol.GovernedContext

/-!
# The exception manifest

Every entry is checked on its own and against the advisories of those before it, and what
is wrong with any of them is reported.
-/

namespace OdinSentinel.DependencyAudit

open JsText Calendar Host Regex Validators Readiness

def maxExpiryHorizonDays : Int := 90

def requiredExceptionFields : List JsString :=
  [js "advisory", js "owner", js "expires", js "rationale"]

/-- `[0-9a-z]{4}` -/
def idGroup : Pattern UInt16 :=
  .all (List.replicate 4 (.one fun unit => isDigit unit || isLower unit))

/-- `ADVISORY_ID_PATTERN`. -/
def advisoryIdPattern : Pattern UInt16 :=
  .all [textStart, exactly (js "GHSA-"), idGroup, exactly (js "-"), idGroup, exactly (js "-"),
    idGroup, textEnd]

/-! ## Dates -/

/-- UTC midnight of a calendar date, where the date stands for itself in `Date.UTC`. -/
def parseIsoUtcDate (value : JsValue) : Option Int :=
  match value with
  | .string text =>
      match isoDate (trim text) with
      | some date => if utcDate (dateUtc date) = date then some (dateUtc date) else none
      | none => none
  | _ => none

/-- The day of an instant as text. -/
def formatUtcDate (now : Int) : JsString := (isoText (utcMidnight now)).take 10

/-! ## Entries -/

/-- Manifest text without control characters and with single blanks. -/
def sanitizeRendered (text : JsString) : JsString :=
  trim (Text.replaceRuns isSpace 32
    (text.map fun unit => if unit.toNat < 32 ∨ unit = 127 then 32 else unit))

structure Pin where
  package : JsString
  range : JsString
  workspace : JsString
  deriving DecidableEq

structure ExceptionEntry where
  advisory : JsString
  owner : JsString
  expires : JsString
  rationale : JsString
  pin : Option Pin
  deriving DecidableEq

/-- The midnight of an expiry against that of the instant. -/
def checkMidnight (now : Int) (named expires : JsString) (midnight : Int) :
    Except JsString Unit :=
  let today := utcMidnight now
  if midnight ≤ today then
    .error (named ++ js ": EXPIRED on " ++ sanitizeRendered expires ++
      js ", evaluated against " ++ formatUtcDate now ++ js " UTC" ++
      if midnight = today then js " — an expiry equal to the current UTC date is expired" else [])
  else if today + maxExpiryHorizonDays * msPerDay < midnight then
    .error (named ++ js ": expiry " ++ sanitizeRendered expires ++
      js " is over-horizon — more than 90 days in the future")
  else .ok ()

/-- The checks of an expiry; `now` is `none` for an invalid date, which no comparison holds
of. -/
def checkExpiry (now : Option Int) (named : JsString) (expires : JsValue) :
    Except JsString Unit :=
  match parseIsoUtcDate expires, now with
  | none, _ =>
      .error (named ++ js ": malformed expiry — must be an ISO-8601 calendar date (YYYY-MM-DD)")
  | some _, none => .ok ()
  | some midnight, some now => checkMidnight now named (trimmedText expires) midnight

/-- Whether a value is there and is not a text with something in it. -/
def isPresentNotText : JsValue → Bool
  | .undefined => false
  | value => !isNonBlankText value

def checkPin (named : JsString) (pin : JsValue) : Except JsString (Option Pin) :=
  match pin with
  | .undefined => .ok none
  | .object _ =>
      let workspace := pin.field (js "workspace")
      if !isNonBlankText (pin.field (js "package")) || !isNonBlankText (pin.field (js "range")) then
        .error (named ++ js ": malformed pin — package and range must both be non-empty")
      else if isPresentNotText workspace then
        .error (named ++
          js ": malformed pin — workspace must be a non-empty string when present")
      else
        .ok (some
          { package := trimmedText (pin.field (js "package"))
            range := trimmedText (pin.field (js "range"))
            workspace := if isNonBlankText workspace then trimmedText workspace else js "." })
  | _ => .error (named ++ js ": malformed pin — must be an object with package and range")

/-- What one entry comes to, and the advisories that were seen up to it. -/
structure EntryCheck where
  seen : List JsString
  result : Except JsString ExceptionEntry

/-- An entry whose advisory has not been seen before. -/
def readEntry (now : Option Int) (named : JsString) (entry : JsValue) :
    Except JsString ExceptionEntry := do
  checkExpiry now named (entry.field (js "expires"))
  let pin ← checkPin named (entry.field (js "pin"))
  .ok
    { advisory := trimmedText (entry.field (js "advisory"))
      owner := trimmedText (entry.field (js "owner"))
      expires := trimmedText (entry.field (js "expires"))
      rationale := trimmedText (entry.field (js "rationale"))
      pin }

def checkEntry (now : Option Int) (seen : List JsString) (index : Nat) (entry : JsValue) :
    EntryCheck :=
  let label := js "exceptions[" ++ natText index ++ js "]"
  match entry with
  | .object _ =>
      let missing := requiredExceptionFields.filter fun field => !isNonBlankText (entry.field field)
      let advisory := trimmedText (entry.field (js "advisory"))
      let named := label ++ js " (" ++ sanitizeRendered advisory ++ js ")"
      if missing ≠ [] then
        { seen
          result := .error (label ++ js ": malformed — missing or empty required field(s): " ++
            List.intercalate (js ", ") missing) }
      else if !advisoryIdPattern.test advisory then
        { seen
          result := .error (named ++
            js ": malformed advisory id — must match GHSA-xxxx-xxxx-xxxx exactly (case-sensitive)") }
      else if seen.contains advisory then
        { seen, result := .error (named ++ js ": malformed — duplicate advisory id") }
      else { seen := advisory :: seen, result := readEntry now named entry }
  | _ => { seen, result := .error (label ++ js ": entry must be an object") }

structure ManifestCheck where
  errors : List JsString
  entries : List ExceptionEntry

/-- What an entry adds in front of what the later ones come to. -/
def ManifestCheck.add (later : ManifestCheck) : Except JsString ExceptionEntry → ManifestCheck
  | .error error => { later with errors := error :: later.errors }
  | .ok entry => { later with entries := entry :: later.entries }

/-- The entries from one on, behind those that were seen. -/
def checkEntries (now : Option Int) : List JsString → Nat → List JsValue → ManifestCheck
  | _, _, [] => { errors := [], entries := [] }
  | seen, index, entry :: entries =>
      let checked := checkEntry now seen index entry
      (checkEntries now checked.seen (index + 1) entries).add checked.result

def validateExceptionManifest (now : Option Int) (manifest : JsValue) : ManifestCheck :=
  match manifest with
  | .object _ =>
      match manifest.field (js "exceptions") with
      | .array items => checkEntries now [] 0 items
      | _ =>
          { errors := [js "exception manifest must declare an \x60exceptions\x60 array"]
            entries := [] }
  | _ => { errors := [js "exception manifest must be a JSON object"], entries := [] }

end OdinSentinel.DependencyAudit
