import OdinSentinel.Core.JsonParse
import OdinSentinel.Registry.Storage
import OdinSentinel.Telemetry.Submit

/-!
# The telemetry worker

What the worker makes of the body of a request that it has let in: the record that it
inserts, or the error that it answers.
-/

namespace OdinSentinel.Telemetry

open JsText

def maxBodyBytes : Nat := 64 * 1024

def allowedReportKeys : List JsString :=
  [js "version", js "teamCount", js "violationCount", js "haltCount", js "layoutDriftEvents",
    js "peakContextPct", js "closeoutClean", js "modelSignals", js "violationClasses",
    js "blockerClassifications", js "roleSlotCount", js "driftWarningCount",
    js "degradedLayout"]

/-- `NormalizedReport`. -/
structure NormalizedReport where
  id : JsString
  version : JsString
  teamCount : Int
  violationCount : Int
  haltCount : Int
  layoutDriftCount : Int
  peakContextPct : Int
  closeoutClean : Int
  modelSignals : List ModelSignal
  violationClasses : List JsString
  blockerClassifications : List JsString
  roleSlotCount : Int
  driftWarningCount : Int
  degradedLayout : Int
  receivedAt : Int
  deriving DecidableEq

/-- `Env`: what of the deployment the normalisation reads. -/
structure Env where
  protocolVersionAllowlist : Option JsString

def parseCsvList : Option JsString → List JsString
  | none => []
  | some value => ((value.splitOn 44).map trim).filter (· ≠ [])

def toFiniteInt (value : JsValue) (min max : Int) : Int := safeInt value min min max

def toFiniteString (value : JsValue) (maxLen : Nat := 64) : JsString :=
  match value with
  | .string text => shortened maxLen (trim text)
  | _ => []

/-- `Object.keys(value)`. -/
def keys : JsValue → List JsString
  | .object fields => fields.map Prod.fst
  | _ => []

def unknownReportKeys (report : JsValue) : List JsString :=
  (keys report).filter (· ∉ allowedReportKeys)

def stringArray (value : JsValue) (maxEntries : Nat := 100) (maxLen : Nat := 64) :
    List JsString :=
  match value with
  | .array entries =>
      ((entries.take maxEntries).map (toFiniteString · maxLen)).filter (· ≠ [])
  | _ => []

def modelSignalSummaries : JsValue → List ModelSignal
  | .array entries => ((entries.take 100).filter isRecord).map fun entry =>
      { role := toFiniteString (entry.field (js "role"))
        model := toFiniteString (entry.field (js "model"))
        violations := toFiniteInt (entry.field (js "violations")) 0 10000 }
  | _ => []

def versionAllowed (version : JsString) (env : Env) : Bool :=
  let list := parseCsvList env.protocolVersionAllowlist
  if list = [] then true else list.contains version

/-- The `error` of a response. -/
inductive ReportError
  | payloadTooLarge
  | invalidJson
  | invalidPayload
  | unknownFields (fields : List JsString)
  | invalidVersion
  | missingVersion
  | versionNotAllowed
  deriving DecidableEq

/-- `typeof value === "string" && value.trim().length > 32`. -/
def isOverlong : JsValue → Bool
  | .string text => 32 < (trim text).length
  | _ => false

/-- `1` for `true` and `0` for anything else. -/
def toFlag (value : JsValue) : Int := if isTrue value then 1 else 0

/-- The record of a report whose version has passed. -/
def normalizedReport (id version : JsString) (receivedAt : Int) (report : JsValue) :
    NormalizedReport :=
  { id
    version
    teamCount := toFiniteInt (report.field (js "teamCount")) 0 26
    violationCount := toFiniteInt (report.field (js "violationCount")) 0 10000
    haltCount := toFiniteInt (report.field (js "haltCount")) 0 10000
    layoutDriftCount := toFiniteInt (report.field (js "layoutDriftEvents")) 0 10000
    peakContextPct := toFiniteInt (report.field (js "peakContextPct")) 0 100
    closeoutClean := toFlag (report.field (js "closeoutClean"))
    modelSignals := modelSignalSummaries (report.field (js "modelSignals"))
    violationClasses := stringArray (report.field (js "violationClasses"))
    blockerClassifications := stringArray (report.field (js "blockerClassifications"))
    roleSlotCount := toFiniteInt (report.field (js "roleSlotCount")) 0 10000
    driftWarningCount := toFiniteInt (report.field (js "driftWarningCount")) 0 10000
    degradedLayout := toFlag (report.field (js "degradedLayout"))
    receivedAt }

/-- The part of `fetch` behind the checks of the request itself: the record that it
inserts for a body, with the identity and the instant that it draws. -/
def fetchReport (env : Env) (id : JsString) (receivedAt : Int) (body : JsString) :
    Except ReportError NormalizedReport :=
  if maxBodyBytes < Registry.byteLength body then .error .payloadTooLarge
  else
    match Json.parse body with
    | none => .error .invalidJson
    | some report =>
        if !isRecord report then .error .invalidPayload
        else if unknownReportKeys report ≠ [] then
          .error (.unknownFields (unknownReportKeys report))
        else if isOverlong (report.field (js "version")) then .error .invalidVersion
        else
          let version := toFiniteString (report.field (js "version")) 32
          if version = [] then .error .missingVersion
          else if !versionAllowed version env then .error .versionNotAllowed
          else .ok (normalizedReport id version receivedAt report)

end OdinSentinel.Telemetry
