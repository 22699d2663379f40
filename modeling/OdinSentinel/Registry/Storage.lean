import OdinSentinel.Core.Unicode
import OdinSentinel.Registry.EventRoundTrip

/-!
# Registry storage

The parts of the event log that touch no file: scopes, the validation of an event,
the line that an event is appended as, the lines of a log, and queries over them.
-/

namespace OdinSentinel.Registry

open JsText Host

/-! ## What the code relies on -/

structure SchemaIssue where
  path : List JsString
  code : JsString
  message : JsString
  keys : Option (List JsString)

/-- The host, and what the schema library and the platform report or compute: the
issues of a value that the schema refuses (there is at least one), the message of a
text that is no JSON, and the digest.  An empty text is no date. -/
structure Runtime extends HostRuntime where
  firstIssue : JsValue → SchemaIssue
  moreIssues : JsValue → List SchemaIssue
  jsonFault : JsString → JsString
  sha256 : JsString → JsString
  sha256_length : ∀ text, (sha256 text).length = 64
  dateParse_nil : dateParse [] = none

def localRegistryBase : JsString := js ".odin/registry"
def registryEventsFilename : JsString := js "events.jsonl"
def registryLockDirname : JsString := js "events.lock"
def govdispEventMaxBytes : Nat := 64 * 1024

structure EventRejection where
  field : JsString
  eventClass : JsString
  code : JsString
  detail : JsString
  deriving DecidableEq

/-- A result with the rejections that refuse it. -/
abbrev Judged (Value : Type) := Except (List EventRejection) Value

/-! ## Scopes -/

/-- `[A-Za-z0-9]`. -/
def isAlphanumeric (unit : UInt16) : Bool := isDigit unit || isUpper unit || isLower unit

/-- `[A-Za-z0-9._-]`. -/
def isScopeUnit (unit : UInt16) : Bool :=
  isAlphanumeric unit || unit == 46 || unit == 95 || unit == 45

def isSafeRegistryScope (scope : JsString) : Bool :=
  match scope with
  | [] => false
  | first :: rest => scope.length ≤ 128 && isAlphanumeric first && rest.all isScopeUnit

def unsafeScopeRejection (scope : JsString) : EventRejection where
  field := js "scope"
  eventClass := js "<store>"
  code := js "unsafe_scope"
  detail := js "registry scope must be a single safe path segment (alphanumeric start, then alnum/. _ -); rejected: " ++
    Json.quote scope

/-! ## Validation -/

/-- Declared event class of a candidate value, or `<unknown>`. -/
def declaredEventClass (value : JsValue) : JsString :=
  match value.field (js "event_class") with
  | .string declared => if trim declared = [] then js "<unknown>" else declared
  | _ => js "<unknown>"

def mapSchemaIssue (eventClass : JsString) (issue : SchemaIssue) : EventRejection where
  field :=
    if List.intercalate (js ".") issue.path = [] then
      match issue.keys with
      | some (key :: keys) => List.intercalate (js ",") (key :: keys)
      | _ => js "<root>"
    else List.intercalate (js ".") issue.path
  eventClass := eventClass
  code := issue.code
  detail := issue.message

def isPlainObject : JsValue → Bool
  | .object _ => true
  | _ => false

def validateGovdispEvent (runtime : Runtime) (value : JsValue) : Judged GovdispEvent :=
  let eventClass := declaredEventClass value
  if !isPlainObject value then
    .error [{
      field := js "<root>"
      eventClass
      code := js "invalid_event_shape"
      detail := js "event must be a plain object with the Wave-0 govdisp event shape" }]
  else
    match parseGovdispEvent value with
    | some event => .ok event
    | none =>
        .error (mapSchemaIssue eventClass (runtime.firstIssue value) ::
          (runtime.moreIssues value).map (mapSchemaIssue eventClass))

/-! ## Lines -/

/-- The bytes of one code point in UTF-8; a lone surrogate is written U+FFFD. -/
def utf8Bytes (code : Nat) : Nat :=
  if code < 0x80 then 1 else if code < 0x800 then 2 else if code < 0x10000 then 3 else 4

/-- `Buffer.byteLength(text, "utf8")`. -/
def byteLength (text : JsString) : Nat := ((Unicode.codePoints text).map utf8Bytes).sum

/-- `JSON.stringify(event)`. -/
def eventLine (runtime : Runtime) (event : GovdispEvent) : JsString :=
  Json.stringify runtime.toHostRuntime event.toJson

structure RegistryLockOptions where
  maxLockAttempts : Option JsNumber
  lockRetryMs : Option JsNumber
  lockBudgetMs : Option JsNumber

structure RegistryAppendOptions extends RegistryLockOptions where
  maxEventBytes : Option JsNumber

/-- No option given. -/
def RegistryAppendOptions.defaults : RegistryAppendOptions where
  maxLockAttempts := none
  lockRetryMs := none
  lockBudgetMs := none
  maxEventBytes := none

structure PreparedAppend where
  dir : JsString
  path : JsString
  lockDir : JsString
  line : JsString
  event : GovdispEvent

def tooLarge (runtime : Runtime) (event : GovdispEvent) (lineBytes : Nat)
    (maxEventBytes : JsNumber) : EventRejection where
  field := js "_size"
  eventClass := Spelled.text event.eventClass
  code := js "event_too_large"
  detail := js "serialized event line is " ++ natText lineBytes ++
    js " bytes, exceeding the per-event cap of " ++ runtime.numberText maxEventBytes ++
    js " bytes (GOVDISP_EVENT_MAX_BYTES; doctrine: protocol/resources/proof-ttl.yaml); the append is refused fail-closed and nothing was written"

/-- The side-effect-free part of an append: scope, event, size, paths. -/
def prepareAppend (runtime : Runtime) (scope : JsString) (event : JsValue) (base : JsString)
    (options : RegistryAppendOptions) : Judged PreparedAppend :=
  if !isSafeRegistryScope scope then .error [unsafeScopeRejection scope]
  else
    match validateGovdispEvent runtime event with
    | .error rejections => .error rejections
    | .ok event =>
        let line := eventLine runtime event ++ [10]
        let maxEventBytes :=
          (JsNumber.ofNat 1).maximum (options.maxEventBytes.getD (.ofNat govdispEventMaxBytes))
        let lineBytes := byteLength line
        if maxEventBytes.lt (.ofNat lineBytes) then
          .error [tooLarge runtime event lineBytes maxEventBytes]
        else
          let dir := runtime.joinPath base scope
          .ok {
            dir
            path := runtime.joinPath dir registryEventsFilename
            lockDir := runtime.joinPath dir registryLockDirname
            line
            event }

/-- The lines of a log: one newline ends the last of them. -/
def splitLogLines (text : JsString) : List JsString :=
  let lines := text.splitOn 10
  if lines.getLast? = some [] then lines.dropLast else lines

def corruptLine (runtime : Runtime) (lineNo : Nat) (line : JsString) : EventRejection where
  field := js "line[" ++ natText lineNo ++ js "]"
  eventClass := js "<unknown>"
  code := js "corrupt_line"
  detail := js "registry log line " ++ natText lineNo ++ js " is not valid JSON (" ++
    runtime.jsonFault line ++ js "); refusing to serve a partially readable log"

/-- A rejection of one line, with the line in its field and detail. -/
def EventRejection.onLine (lineNo : Nat) (rejection : EventRejection) : EventRejection :=
  { rejection with
    field := js "line[" ++ natText lineNo ++ js "]." ++ rejection.field
    detail := js "registry log line " ++ natText lineNo ++ js ": " ++ rejection.detail }

/-- One line of the log. -/
def readLine (runtime : Runtime) (lineNo : Nat) (line : JsString) : Judged GovdispEvent :=
  match Json.parse line with
  | none => .error [corruptLine runtime lineNo line]
  | some parsed =>
      match validateGovdispEvent runtime parsed with
      | .ok event => .ok event
      | .error rejections => .error (rejections.map (EventRejection.onLine lineNo))

/-- The results of numbered lines, with every rejection if there is one. -/
def collect {Value : Type} (read : Nat → JsString → Judged Value) :
    Nat → List JsString → Judged (List Value)
  | _, [] => .ok []
  | lineNo, line :: lines =>
      match read lineNo line, collect read (lineNo + 1) lines with
      | .ok value, .ok values => .ok (value :: values)
      | .ok _, .error rejections => .error rejections
      | .error rejections, .ok _ => .error rejections
      | .error first, .error rest => .error (first ++ rest)

/-- The events of a log's text, in append order. -/
def readEvents (runtime : Runtime) (text : JsString) : Judged (List GovdispEvent) :=
  collect (readLine runtime) 1 (splitLogLines text)

/-! ## Queries -/

def queryFields : List JsString :=
  [js "stable_objective_id", js "event_class", js "event_type", js "from_ts", js "to_ts"]

/-- Every event type of the union. -/
def govdispEventTypes : List JsString :=
  (Spelled.all : List AttemptEventType).map Spelled.text ++
    (Spelled.all : List FindingEventType).map Spelled.text ++
    (Spelled.all : List BreakGlassEventType).map Spelled.text ++
    (Spelled.all : List BudgetEventType).map Spelled.text ++
    (Spelled.all : List TerminalEventType).map Spelled.text ++
    (Spelled.all : List AuditEventType).map Spelled.text

def govdispEventClasses : List JsString :=
  (Spelled.all : List GovdispEventClass).map Spelled.text

def invalidQuery (field detail : JsString) : EventRejection where
  field := field
  eventClass := js "<query>"
  code := js "invalid_query"
  detail := detail

/-- A filter that is there and not a text of the kind asked for. -/
def refusesFilter (accepted : JsString → Bool) : JsValue → Bool
  | .undefined => false
  | .string text => !accepted text
  | _ => true

def isNotBlank (text : JsString) : Bool := trim text != []

/-- A query is refused for what is unknown or of the wrong kind in it. -/
def validateRegistryEventQuery (query : JsValue) : List EventRejection :=
  match query with
  | .undefined => []
  | .object fields =>
      ((fields.map Prod.fst).filter fun key => !queryFields.contains key).map (fun key =>
          invalidQuery key (js "unknown query filter \"" ++ key ++
            js "\"; allowed filters: " ++ List.intercalate (js ", ") queryFields)) ++
        (if refusesFilter isNotBlank (query.field (js "stable_objective_id")) then
          [invalidQuery (js "stable_objective_id")
            (js "stable_objective_id filter must be a non-empty string")] else []) ++
        (if refusesFilter govdispEventClasses.contains (query.field (js "event_class")) then
          [invalidQuery (js "event_class") (js "event_class filter must be one of " ++
            List.intercalate (js " | ") govdispEventClasses)] else []) ++
        (if refusesFilter govdispEventTypes.contains (query.field (js "event_type")) then
          [invalidQuery (js "event_type")
            (js "event_type filter must be a known Wave-0 event type (e.g. ATTEMPT_STARTED, FINDING_OPENED)")]
          else []) ++
        [js "from_ts", js "to_ts"].flatMap fun name =>
          if refusesFilter isNotBlank (query.field name) then
            [invalidQuery name (name ++ js " filter must be a non-empty ISO-8601 string")] else []
  | _ => [invalidQuery (js "<query>")
      (js "query must be a plain object with optional stable_objective_id / event_class / event_type / from_ts / to_ts filters")]

/-- A filter that is not there, or that a text meets. -/
def meetsFilter (accepts : JsString → Bool) : JsValue → Bool
  | .string wanted => accepts wanted
  | _ => true

/-- All filters of a query together; texts compare by code units. -/
def matchesQuery (query : JsValue) (event : GovdispEvent) : Bool :=
  meetsFilter (· == event.stableObjectiveId.1) (query.field (js "stable_objective_id")) &&
    meetsFilter (· == Spelled.text event.eventClass) (query.field (js "event_class")) &&
    meetsFilter (· == event.eventType) (query.field (js "event_type")) &&
    meetsFilter (fun earliest => !decide (event.ts.1 < earliest)) (query.field (js "from_ts")) &&
    meetsFilter (fun latest => !decide (latest < event.ts.1)) (query.field (js "to_ts"))

/-- A query over the events of a log. -/
def queryEvents (query : JsValue) (events : Judged (List GovdispEvent)) :
    Judged (List GovdispEvent) :=
  events.map fun events => events.filter (matchesQuery query)

/-! ## A plain runtime -/

/-- A runtime that knows the digests of some texts. -/
def plainRuntime (digests : List (JsString × { digest : JsString // digest.length = 64 })) :
    Runtime where
  toHostRuntime := plainHost
  firstIssue _ := { path := [], code := js "custom", message := [], keys := none }
  moreIssues _ := []
  jsonFault _ := []
  sha256 text := ((digests.lookup text).getD ⟨List.replicate 64 48, rfl⟩).1
  sha256_length text := ((digests.lookup text).getD ⟨List.replicate 64 48, rfl⟩).2
  dateParse_nil := by decide

end OdinSentinel.Registry
