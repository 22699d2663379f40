import OdinSentinel.Core.JsonParse
import OdinSentinel.Core.Unicode
import OdinSentinel.DependencyAudit.Manifest

/-!
# Audit reports

A report has to be one JSON object that shows that an audit ran.  Its advisories are read
into a flat list and those at or above the severity floor are matched with the entries of
the manifest.
-/

namespace OdinSentinel.DependencyAudit

open JsText Host Regex Unicode Validators Readiness

def gatedSeverities : List JsString := [js "high", js "critical"]

variable (host : HostRuntime) (tables : Tables)

/-! ## Texts of values -/

mutual

/-- `String(value)` of parsed JSON; `none` where it throws, as for an object with a `toString`
of its own, which is no function. -/
def stringOf : JsValue → Option JsString
  | .undefined => some (js "undefined")
  | .null => some (js "null")
  | .bool value => some (if value then js "true" else js "false")
  | .number value => some (host.numberText value)
  | .string text => some text
  | .array items => (itemTexts items).map fun texts => List.intercalate (js ",") texts
  | .object fields =>
      if fields.any fun entry => entry.1 == js "toString" then none
      else some (js "[object Object]")

/-- The texts that `join` puts together. -/
def itemTexts : List JsValue → Option (List JsString)
  | [] => some []
  | item :: items =>
      let text := if isNullish item then some [] else stringOf item
      match text, itemTexts items with
      | some text, some texts => some (text :: texts)
      | _, _ => none

end

def describeValueType : JsValue → JsString
  | .undefined => js "undefined"
  | .null => js "null"
  | .bool _ => js "boolean"
  | .number _ => js "number"
  | .string _ => js "string"
  | .array _ => js "array"
  | .object _ => js "object"

/-- The text of a value that has something in it, or none. -/
def textOrNone : JsValue → JsString
  | .string text => if trim text = [] then [] else text
  | _ => []

def describeErrorKey (error : JsValue) : JsString :=
  match error with
  | .null => js "null"
  | .array _ => js "an array"
  | .object _ =>
      let code := textOrNone (error.field (js "code"))
      let message := textOrNone (error.field (js "message"))
      if code ≠ [] ∧ message ≠ [] then js "code " ++ code ++ js ": " ++ message
      else if code ≠ [] then js "code " ++ code
      else if message ≠ [] then message
      else js "an empty object"
  | error => (stringOf host error).getD []

/-! ## Validation -/

inductive ReportVerdict
  | verified (report : JsValue)
  | refused (name message : JsString)

/-- `/^\s*\uFEFF/` -/
def byteOrderMark : Pattern UInt16 := .all [textStart, .many 0 isSpace, .one (· == 0xFEFF)]

def isObject : JsValue → Bool
  | .object _ => true
  | _ => false

/-- An object or an array. -/
def isAdvisories : JsValue → Bool
  | .object _ | .array _ => true
  | _ => false

/-- The checks of a parsed report. -/
def checkReport (report : JsValue) : ReportVerdict :=
  match report with
  | .object fields =>
      let advisories := report.field (js "advisories")
      let vulnerabilities := (report.field (js "metadata")).field (js "vulnerabilities")
      if fields.any fun entry => entry.1 == js "error" then
        .refused (js "REPORT_CARRIES_ERROR_KEY")
          (js "report carries a top-level \"error\" key (" ++
            describeErrorKey host (report.field (js "error")) ++
            js ") — the audit could not run, so the gate cannot verify that it ran")
      else if !isAdvisories advisories || !isObject vulnerabilities then
        .refused (js "REPORT_NOT_VERIFIED")
          (js "report lacks positive proof that an audit ran: expected \"advisories\" as an object or array (got " ++
            describeValueType advisories ++
            js ") and \"metadata.vulnerabilities\" as an object (got " ++
            describeValueType vulnerabilities ++ js ")")
      else .verified report
  | _ =>
      .refused (js "REPORT_NOT_VERIFIED")
        (js "dependency audit report is not a single JSON object — got " ++
          describeValueType report ++ js " at the top level")

/-- `none` is no text at all. -/
def validateAuditReport (text : Option JsString) : ReportVerdict :=
  let raw := text.getD []
  if byteOrderMark.test raw then
    .refused (js "REPORT_NOT_VERIFIED")
      (js "report text is prefixed by a UTF-8 BOM (U+FEFF) — a single JSON object is required with no prefix")
  else
    match Json.parse (trim raw) with
    | none =>
        .refused (js "REPORT_NOT_VERIFIED")
          (js "dependency audit report is not valid JSON — a single JSON object is required and no report is recovered from surrounding output")
    | some report => checkReport host report

/-! ## Advisories -/

structure Advisory where
  id : JsString
  severity : JsString
  module : JsString
  title : JsString
  deriving DecidableEq

/-- A name that an object lists before its others. -/
def isArrayIndex (name : JsString) : Bool :=
  name == natText (Json.decimal name) && Json.decimal name < 4294967295

/-- `Object.values(value)`: those at an index first, in its order. -/
def objectValues (fields : List (JsString × JsValue)) : List JsValue :=
  let indexed := fields.filter fun entry => isArrayIndex entry.1
  let named := fields.filter fun entry => !isArrayIndex entry.1
  let sorted := indexed.mergeSort fun left right =>
    Json.decimal left.1 ≤ Json.decimal right.1
  (sorted ++ named).map Prod.snd

/-- The advisories of a report, in the order in which they are listed. -/
def advisoryValues (report : JsValue) : List JsValue :=
  match report.field (js "advisories") with
  | .array items => items
  | .object fields => objectValues fields
  | _ => []

/-- The severity of an advisory; `none` where its text throws. -/
def severityOf (advisory : JsValue) : Option JsString :=
  let severity := advisory.field (js "severity")
  if isNullish severity then some []
  else (stringOf host severity).map fun text => toLowerCase tables (trim text)

def advisoryId (advisory : JsValue) : JsString :=
  if isNonBlankText (advisory.field (js "github_advisory_id")) then
    trimmedText (advisory.field (js "github_advisory_id"))
  else trimmedText (advisory.field (js "ghsaId"))

def readAdvisory (advisory : JsValue) : Except JsString Advisory :=
  match severityOf host tables advisory with
  | none => .error (js "Cannot convert object to primitive value")
  | some severity =>
      .ok
        { id := advisoryId advisory
          severity
          module :=
            if isNonBlankText (advisory.field (js "module_name")) then
              trimmedText (advisory.field (js "module_name"))
            else js "unknown"
          title := trimmedText (advisory.field (js "title")) }

def parseAuditReport (text : Option JsString) : Except JsString (List Advisory) :=
  match validateAuditReport host text with
  | .refused _ message => .error message
  | .verified report => (advisoryValues report).mapM (readAdvisory host tables)

structure Reconciliation where
  gated : List Advisory
  accepted : List (Advisory × ExceptionEntry)
  unaccepted : List Advisory

/-- The entry of an advisory; of two with its id the later one. -/
def entryOf (entries : List ExceptionEntry) (advisory : Advisory) : Option ExceptionEntry :=
  if advisory.id = [] then none
  else entries.reverse.find? fun entry => entry.advisory == advisory.id

def reconcile (advisories : List Advisory) (entries : List ExceptionEntry) : Reconciliation :=
  let gated := advisories.filter fun advisory => gatedSeverities.contains advisory.severity
  { gated
    accepted := gated.filterMap fun advisory => (entryOf entries advisory).map (advisory, ·)
    unaccepted := gated.filter fun advisory => (entryOf entries advisory).isNone }

end OdinSentinel.DependencyAudit
