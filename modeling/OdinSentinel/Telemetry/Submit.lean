import OdinSentinel.Core.JsonRoundTrip
import OdinSentinel.Telemetry.Redactor

/-!
# The telemetry payload

`toTelemetryPayload`: what a client makes of a session report before it sends it.
-/

namespace OdinSentinel.Telemetry

open JsText

/-- `Math.trunc(value)`. -/
def trunc (value : ℚ) : Int := if 0 ≤ value then value.floor else value.ceil

def isRecord : JsValue → Bool
  | .object _ => true
  | _ => false

/-- `text.length > maxLen ? text.slice(0, maxLen) : text`. -/
def shortened (maxLen : Nat) (text : JsString) : JsString :=
  if maxLen < text.length then text.take maxLen else text

def safeString (value : JsValue) (maxLen : Nat := 96) : JsString :=
  match value with
  | .string text => shortened maxLen (trim (redactString text))
  | _ => []

/-- `value` cut to an integer between `min` and `max`; `fallback` goes unchecked. -/
def safeInt (value : JsValue) (fallback min max : Int) : Int :=
  match value with
  | .number (.finite number) =>
      let integer := trunc number
      if integer < min then min else if max < integer then max else integer
  | _ => fallback

/-- The non-empty texts without repetition, in the order of their first occurrence. -/
def distinct (texts : List JsString) : List JsString := (texts.filter (· ≠ [])).eraseDups

def safeStringArray : JsValue → List JsString
  | .array entries => distinct (entries.map safeString)
  | _ => []

/-- The classes of `report.violations`. -/
def classesOf : JsValue → List JsString
  | .array entries =>
      distinct ((entries.filter isRecord).map fun entry => safeString (entry.field (js "class")))
  | _ => []

def violationClasses (report : JsValue) : List JsString :=
  let direct := safeStringArray (report.field (js "violationClasses"))
  if direct ≠ [] then direct else classesOf (report.field (js "violations"))

/-- `isRecord(report.axSummary) ? report.axSummary : {}`. -/
def axSummary (report : JsValue) : JsValue :=
  let summary := report.field (js "axSummary")
  if isRecord summary then summary else .object []

def blockerClassifications (report : JsValue) : List JsString :=
  safeStringArray ((axSummary report).field (js "blockerClassifications"))

structure ModelSignal where
  role : JsString
  model : JsString
  violations : Int
  deriving DecidableEq

def ModelSignal.toJson (signal : ModelSignal) : JsValue :=
  .object [(js "role", .string signal.role), (js "model", .string signal.model),
    (js "violations", .number (.ofInt signal.violations))]

def modelSignals (report : JsValue) : List ModelSignal :=
  match report.field (js "modelSignals") with
  | .array entries => (entries.filter isRecord).map fun entry =>
      { role := safeString (entry.field (js "role"))
        model := safeString (entry.field (js "model"))
        violations := safeInt (entry.field (js "violations")) 0 0 10000 }
  | _ => []

structure TelemetryPayload where
  version : JsString
  teamCount : Int
  violationCount : Int
  haltCount : Int
  layoutDriftEvents : Int
  peakContextPct : Int
  closeoutClean : Bool
  modelSignals : List ModelSignal
  violationClasses : List JsString
  blockerClassifications : List JsString
  roleSlotCount : Int
  driftWarningCount : Int
  degradedLayout : Bool
  deriving DecidableEq

/-- The payload as `JSON.stringify` sees it. -/
def TelemetryPayload.toJson (payload : TelemetryPayload) : JsValue :=
  .object [(js "version", .string payload.version),
    (js "teamCount", .number (.ofInt payload.teamCount)),
    (js "violationCount", .number (.ofInt payload.violationCount)),
    (js "haltCount", .number (.ofInt payload.haltCount)),
    (js "layoutDriftEvents", .number (.ofInt payload.layoutDriftEvents)),
    (js "peakContextPct", .number (.ofInt payload.peakContextPct)),
    (js "closeoutClean", .bool payload.closeoutClean),
    (js "modelSignals", .array (payload.modelSignals.map ModelSignal.toJson)),
    (js "violationClasses", .array (payload.violationClasses.map .string)),
    (js "blockerClassifications", .array (payload.blockerClassifications.map .string)),
    (js "roleSlotCount", .number (.ofInt payload.roleSlotCount)),
    (js "driftWarningCount", .number (.ofInt payload.driftWarningCount)),
    (js "degradedLayout", .bool payload.degradedLayout)]

/-- `Array.isArray(value) ? value.length : 0`. -/
def lengthOf : JsValue → Int
  | .array entries => entries.length
  | _ => 0

/-- `value === true`. -/
def isTrue : JsValue → Bool
  | .bool value => value
  | _ => false

def toTelemetryPayload (report : JsValue) : TelemetryPayload :=
  let summary := axSummary report
  { version := safeString (report.field (js "version")) 32
    teamCount := safeInt (report.field (js "teamCount")) 0 0 26
    violationCount := safeInt (report.field (js "violationCount"))
      (lengthOf (report.field (js "violations"))) 0 10000
    haltCount := safeInt (report.field (js "haltCount"))
      (lengthOf (report.field (js "halts"))) 0 10000
    layoutDriftEvents := safeInt (report.field (js "layoutDriftEvents")) 0 0 10000
    peakContextPct := safeInt (report.field (js "peakContextPct")) 0 0 100
    closeoutClean := isTrue (report.field (js "closeoutClean"))
    modelSignals := modelSignals report
    violationClasses := violationClasses report
    blockerClassifications := blockerClassifications report
    roleSlotCount := safeInt (summary.field (js "roleSlotCount")) 0 0 10000
    driftWarningCount := safeInt (summary.field (js "driftWarningCount")) 0 0 10000
    degradedLayout := isTrue (summary.field (js "degradedLayout")) }

end OdinSentinel.Telemetry
