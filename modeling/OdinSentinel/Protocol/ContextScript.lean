import OdinSentinel.Core.Double
import OdinSentinel.Core.PosixPath
import OdinSentinel.Protocol.GovernedContext

/-!
# The governed-context script

The standalone verifier of a governed-context proof: the checks of the service, the control
file on disk, and the age of the proof and of its receipt.
-/

namespace OdinSentinel.ContextScript

open JsText Host Regex Validators Readiness

/-! ## The script's surroundings -/

/-- The host functions that the script uses. -/
structure ScriptRuntime extends HostRuntime where
  sha256 : List UInt8 → JsString
  utf8Text : List UInt8 → JsString

inductive DiskEntry
  | missing
  | notFile
  | unreadable
  | file (bytes : List UInt8)

/-- What stands on disk at a path. -/
abbrev Disk := JsString → DiskEntry

/-- An instant as a caller gives it: a text for `Date.parse` or milliseconds. -/
inductive InstantOption
  | text (iso : JsString)
  | ms (value : JsNumber)

structure VerifyOptions where
  base : Option JsString
  now : Option InstantOption
  maxAgeSeconds : Option JsNumber

inductive ReadFault
  | unreadable

def schemaId : JsString := js "odin.governed_context_proof.v1"

def sourceTypes : List JsString :=
  [js "native_skill", js "static_control_file", js "mcp_bootstrap"]

def defaultMaxAgeSeconds : JsNumber := .ofNat 86400

/-! ## Secrets -/

/-- `SECRET_PATTERNS`. -/
def secretPatterns : List (Pattern UInt16) :=
  [prefixedTokenRe,
    .both assignmentName (.many 1 fun unit => !isSpace unit && !isOneOf (js "\"'") unit),
    .both bearerWord (.many 8 (alphanumericOr (js "._=-")))]

variable (runtime : ScriptRuntime)

def containsSecretLikeValue (value : JsValue) : Bool :=
  let text := match value with
    | .string text => text
    | .undefined | .null => Json.quote []
    | _ => Json.stringify runtime.toHostRuntime value
  secretPatterns.any fun pattern => pattern.test text

/-! ## Ages -/

/-- The instant of `opts.now`, or of the clock where none is given; `none` for `NaN`. -/
def nowInstant (options : VerifyOptions) (clock : Int) : Option Int :=
  match options.now with
  | none => some clock
  | some (.text iso) => runtime.dateParse iso
  | some (.ms value) => clipTime value

def numberOrNaN : Option Int → JsNumber
  | none => .nan
  | some value => .ofInt value

def maxAge (options : VerifyOptions) : JsNumber :=
  match options.maxAgeSeconds with
  | some seconds => if seconds.isFinite then seconds else defaultMaxAgeSeconds
  | none => defaultMaxAgeSeconds

/-- `(nowMs - t) / 1000`. -/
def ageAt (nowMs : JsNumber) (instant : Int) : JsNumber :=
  (nowMs.sub (.ofInt instant)).div (.ofNat 1000)

def ageSeconds (iso : JsString) (nowMs : JsNumber) : Option JsNumber :=
  (runtime.dateParse iso).map (ageAt nowMs)

/-- What is wrong with a timestamp: it is none, or it is too old. -/
def timestampReasons (iso : JsString) (nowMs limit : JsNumber) (invalid stale : JsString) :
    List JsString :=
  match ageSeconds runtime iso nowMs with
  | none => [invalid]
  | some age =>
      reasonIf (limit.lt age) (stale ++ runtime.numberText limit ++ js "s")

/-! ## The checks -/

/-- The secrets, the schema, the texts that have to be there, the source type and the marker. -/
def shapeReasons (proof : JsValue) (marker : JsString) : List JsString :=
  reasonIf (containsSecretLikeValue runtime proof)
    (js "proof contains a secret-looking value (tokens/keys must never appear in a proof)") ++
  reasonIf ((proof.field (js "schema")).asString != some schemaId)
    (js "schema must be \"" ++ schemaId ++ js "\"") ++
  [js "role", js "harness", js "source_type", js "generated_at"].flatMap (fun field =>
    reasonIf (!isNonBlankText (proof.field field)) (js "missing or empty field: " ++ field)) ++
  reasonIf ((proof.field (js "source_type")).asString.any fun text => !sourceTypes.contains text)
    (js "source_type must be one of: " ++ (js ", ").intercalate sourceTypes) ++
  reasonIf (marker == [])
    (js "control_source.marker is missing (a stable source marker is required)")

def declaredPath (controlSource : JsValue) : Option JsString :=
  match controlSource.field (js "path") with
  | .string path => if trim path = [] then none else some path
  | _ => none

def resolveEntryPath (base path : JsString) : JsString :=
  if PosixPath.isAbsolute path then path else PosixPath.join [base, path]

/-- What was found at a declared path. -/
structure ControlFile where
  diskBytes : Option Nat
  diskSha : Option JsString
  reasons : List JsString

def checkControlFile (disk : Disk) (base : JsString) (controlSource : JsValue)
    (marker : JsString) : Except ReadFault ControlFile :=
  match declaredPath controlSource with
  | none => .ok { diskBytes := none, diskSha := none, reasons := [] }
  | some path =>
      match disk (resolveEntryPath base path) with
      | .missing | .notFile =>
          .ok
            { diskBytes := none
              diskSha := none
              reasons := [js "control_source.path missing on disk: " ++ path] }
      | .unreadable => .error .unreadable
      | .file bytes =>
          let sha := runtime.sha256 bytes
          let declared := controlSource.field (js "sha256")
          .ok
            { diskBytes := some bytes.length
              diskSha := some sha
              reasons :=
                (if isNonBlankText declared then
                  reasonIf (declared.asString != some sha)
                    (js "control_source.sha256 mismatch (control file changed, truncated, or wrong file)")
                else [js "control_source.sha256 is required when control_source.path is present"]) ++
                reasonIf (marker != [] && !Text.contains (runtime.utf8Text bytes) marker)
                  (js "control_source.marker not found in the control file (source not actually present)") }

/-- The receipt's marker has to be that of the control source. -/
def linkReasons (marker : JsString) (uptake : JsValue) : List JsString :=
  let evidence := trimmedText (uptake.field (js "evidence_marker"))
  let observed := match uptake.field (js "observed") with
    | .bool value => value
    | _ => false
  reasonIf (!observed) (js "uptake_receipt.observed must be true (protocol uptake not proven)") ++
  (if evidence = [] then
    [js "uptake_receipt.evidence_marker is missing (self-asserted uptake without a stable source marker is not accepted)"]
  else reasonIf (marker != [] && evidence != marker)
    (js "uptake_receipt.evidence_marker does not match control_source.marker (uptake not linked to the control source)")) ++
  reasonIf (!isNonBlankText (uptake.field (js "method"))) (js "uptake_receipt.method is missing")

def observedReasons (nowMs limit : JsNumber) (uptake : JsValue) : List JsString :=
  match uptake.field (js "observed_at") with
  | .string text =>
      if trim text = [] then [js "uptake_receipt.observed_at is missing"]
      else timestampReasons runtime text nowMs limit
        (js "uptake_receipt.observed_at is not a valid timestamp")
        (js "stale uptake: observed_at is older than ")
  | _ => [js "uptake_receipt.observed_at is missing"]

def receiptReasons (nowMs limit : JsNumber) (marker : JsString) (uptake : JsValue) :
    List JsString :=
  match uptake with
  | .object _ => linkReasons marker uptake ++ observedReasons runtime nowMs limit uptake
  | _ => [js "missing uptake_receipt"]

def generatedReasons (nowMs limit : JsNumber) (proof : JsValue) : List JsString :=
  match proof.field (js "generated_at") with
  | .string text =>
      if trim text = [] then []
      else timestampReasons runtime text nowMs limit (js "generated_at is not a valid timestamp")
        (js "stale proof: generated_at is older than ")
  | _ => []

/-- What the script reports; the fields of a proof that is no object are not there. -/
structure Verification where
  ok : Bool
  base : JsString
  schema : JsValue
  role : Option JsString
  harness : Option JsString
  sourceType : Option JsString
  marker : Option JsString
  declaredPath : Option JsString
  diskBytes : Option Nat
  diskSha : Option JsString
  reasons : List JsString

/-- The marker of the proof's control source, trimmed. -/
def markerOf (proof : JsValue) : JsString :=
  trimmedText ((asRecord (proof.field (js "control_source"))).field (js "marker"))

def receiptOf (proof : JsValue) : JsValue := proof.field (js "uptake_receipt")

/-- Everything that is wrong with a proof object, in the order of the checks. -/
def verifyReasons (options : VerifyOptions) (clock : Int) (proof : JsValue)
    (control : ControlFile) : List JsString :=
  let nowMs := numberOrNaN (nowInstant runtime options clock)
  let limit := maxAge options
  let marker := markerOf proof
  shapeReasons runtime proof marker ++ control.reasons ++
    receiptReasons runtime nowMs limit marker (receiptOf proof) ++
    generatedReasons runtime nowMs limit proof

def baseOf (options : VerifyOptions) : JsString := options.base.getD (js ".")

def reportOf (options : VerifyOptions) (clock : Int) (proof : JsValue) (control : ControlFile) :
    Verification :=
  let reasons := verifyReasons runtime options clock proof control
  { ok := reasons.isEmpty
    base := baseOf options
    schema := proof.field (js "schema")
    role := (proof.field (js "role")).asString
    harness := (proof.field (js "harness")).asString
    sourceType := (proof.field (js "source_type")).asString
    marker := if markerOf proof = [] then none else some (markerOf proof)
    declaredPath := declaredPath (asRecord (proof.field (js "control_source")))
    diskBytes := control.diskBytes
    diskSha := control.diskSha
    reasons }

def verifyGovernedContextProof (disk : Disk) (options : VerifyOptions) (clock : Int)
    (proof : JsValue) : Except ReadFault Verification :=
  match proof with
  | .object _ => do
      let control ← checkControlFile runtime disk (baseOf options)
        (asRecord (proof.field (js "control_source"))) (markerOf proof)
      .ok (reportOf runtime options clock proof control)
  | _ =>
      .ok
        { ok := false, base := baseOf options, schema := .undefined, role := none
          harness := none, sourceType := none, marker := none, declaredPath := none
          diskBytes := none, diskSha := none, reasons := [js "proof is not an object"] }

end OdinSentinel.ContextScript
