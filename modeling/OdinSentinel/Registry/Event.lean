import OdinSentinel.Core.JsonRoundTrip
import OdinSentinel.Core.Spelled

/-!
# Registry events

The typed union of governance events, the schema that admits them, and the plain
object that an admitted event is written as.
-/

namespace OdinSentinel.Registry

open JsText

/-! ## Literals -/

inductive AttemptEventType
  | attemptStarted
  | attemptCounted
  | attemptRefused
  deriving DecidableEq

inductive FindingEventType
  | findingOpened
  | findingOwned
  | findingDelivered
  | findingClosed
  deriving DecidableEq

inductive BreakGlassEventType
  | breakGlassRecorded
  deriving DecidableEq

inductive BudgetEventType
  | budgetCrossed
  | budgetExhausted
  deriving DecidableEq

inductive TerminalEventType
  | terminalBlocked
  | terminalCompleted
  deriving DecidableEq

inductive AuditEventType
  | auditOpened
  | auditCompleted
  deriving DecidableEq

inductive GovdispEventClass
  | attempt
  | finding
  | breakGlass
  | budget
  | terminal
  | audit
  deriving DecidableEq

inductive BudgetKind
  | tokens
  | time
  | artifacts
  | roles
  deriving DecidableEq

inductive AttemptTrigger
  | start
  | reset
  | restaff
  | rename
  | cure
  | rerun
  deriving DecidableEq

instance : Spelled AttemptEventType where
  all := [.attemptStarted, .attemptCounted, .attemptRefused]
  text
    | .attemptStarted => js "ATTEMPT_STARTED"
    | .attemptCounted => js "ATTEMPT_COUNTED"
    | .attemptRefused => js "ATTEMPT_REFUSED"
  mem_all value := by cases value <;> decide
  distinct := by decide

instance : Spelled FindingEventType where
  all := [.findingOpened, .findingOwned, .findingDelivered, .findingClosed]
  text
    | .findingOpened => js "FINDING_OPENED"
    | .findingOwned => js "FINDING_OWNED"
    | .findingDelivered => js "FINDING_DELIVERED"
    | .findingClosed => js "FINDING_CLOSED"
  mem_all value := by cases value <;> decide
  distinct := by decide

instance : Spelled BreakGlassEventType where
  all := [.breakGlassRecorded]
  text
    | .breakGlassRecorded => js "BREAK_GLASS_RECORDED"
  mem_all value := by cases value; decide
  distinct := by decide

instance : Spelled BudgetEventType where
  all := [.budgetCrossed, .budgetExhausted]
  text
    | .budgetCrossed => js "BUDGET_CROSSED"
    | .budgetExhausted => js "BUDGET_EXHAUSTED"
  mem_all value := by cases value <;> decide
  distinct := by decide

instance : Spelled TerminalEventType where
  all := [.terminalBlocked, .terminalCompleted]
  text
    | .terminalBlocked => js "TERMINAL_BLOCKED"
    | .terminalCompleted => js "TERMINAL_COMPLETED"
  mem_all value := by cases value <;> decide
  distinct := by decide

instance : Spelled AuditEventType where
  all := [.auditOpened, .auditCompleted]
  text
    | .auditOpened => js "AUDIT_OPENED"
    | .auditCompleted => js "AUDIT_COMPLETED"
  mem_all value := by cases value <;> decide
  distinct := by decide

/-- `GOVDISP_EVENT_CLASSES`. -/
instance : Spelled GovdispEventClass where
  all := [.attempt, .finding, .breakGlass, .budget, .terminal, .audit]
  text
    | .attempt => js "ATTEMPT"
    | .finding => js "FINDING"
    | .breakGlass => js "BREAK_GLASS"
    | .budget => js "BUDGET"
    | .terminal => js "TERMINAL"
    | .audit => js "AUDIT"
  mem_all value := by cases value <;> decide
  distinct := by decide

instance : Spelled BudgetKind where
  all := [.tokens, .time, .artifacts, .roles]
  text
    | .tokens => js "tokens"
    | .time => js "time"
    | .artifacts => js "artifacts"
    | .roles => js "roles"
  mem_all value := by cases value <;> decide
  distinct := by decide

/-- `ATTEMPT_TRIGGERS`. -/
instance : Spelled AttemptTrigger where
  all := [.start, .reset, .restaff, .rename, .cure, .rerun]
  text
    | .start => js "start"
    | .reset => js "reset"
    | .restaff => js "restaff"
    | .rename => js "rename"
    | .cure => js "cure"
    | .rerun => js "rerun"
  mem_all value := by cases value <;> decide
  distinct := by decide

def govdispEventSchemaVersion : JsString := js "govdisp.event.v1"

/-! ## Events -/

/-- `z.string().min(1)`. -/
abbrev NonEmptyText := { text : JsString // text ≠ [] }

/-- `z.number().int().min(1)`: a safe integer. -/
abbrev AttemptIndex := { index : Nat // 1 ≤ index ∧ index < 2 ^ 53 }

structure ContentHash where
  path : NonEmptyText
  sha256 : NonEmptyText
  deriving DecidableEq

inductive AuditTarget
  | ordinaryWork
  | audit (targetEventId : NonEmptyText)
  deriving DecidableEq

/-- The fields of one class of events. -/
inductive GovdispEventBody
  | attempt (eventType : AttemptEventType) (attemptIndex : Option AttemptIndex)
      (trigger : Option AttemptTrigger)
  | finding (eventType : FindingEventType) (findingId : NonEmptyText)
      (ownerRole : Option NonEmptyText)
  | breakGlass (eventType : BreakGlassEventType) (authorizingHuman contradictionRef : NonEmptyText)
  | budget (eventType : BudgetEventType) (budgetKind : BudgetKind)
  | terminal (eventType : TerminalEventType)
      (contentHashes : { hashes : List ContentHash // hashes ≠ [] })
  | audit (eventType : AuditEventType) (target : AuditTarget)
  deriving DecidableEq

/-- A validated event. -/
structure GovdispEvent where
  eventId : NonEmptyText
  ts : NonEmptyText
  stableObjectiveId : NonEmptyText
  actorRole : Option NonEmptyText
  body : GovdispEventBody
  deriving DecidableEq

def GovdispEventBody.eventClass : GovdispEventBody → GovdispEventClass
  | .attempt .. => .attempt
  | .finding .. => .finding
  | .breakGlass .. => .breakGlass
  | .budget .. => .budget
  | .terminal .. => .terminal
  | .audit .. => .audit

def GovdispEventBody.eventType : GovdispEventBody → JsString
  | .attempt eventType .. => Spelled.text eventType
  | .finding eventType .. => Spelled.text eventType
  | .breakGlass eventType .. => Spelled.text eventType
  | .budget eventType .. => Spelled.text eventType
  | .terminal eventType .. => Spelled.text eventType
  | .audit eventType .. => Spelled.text eventType

def GovdispEvent.eventClass (event : GovdispEvent) : GovdispEventClass := event.body.eventClass

def GovdispEvent.eventType (event : GovdispEvent) : JsString := event.body.eventType

/-! ## The schema -/

section Schema

variable {Value : Type}

/-- `z.string().min(1)`. -/
def readText : JsValue → Option NonEmptyText
  | .string text => if htext : text ≠ [] then some ⟨text, htext⟩ else none
  | _ => none

/-- `z.enum(..)`. -/
def readEnum [Spelled Value] : JsValue → Option Value
  | .string text => Spelled.read text
  | _ => none

/-- `z.number().int().min(1)`. -/
def readIndex : JsValue → Option AttemptIndex
  | .number (.finite value) =>
      if hindex : value.den = 1 ∧ 1 ≤ value.num.toNat ∧ value.num.toNat < 2 ^ 53 then
        some ⟨value.num.toNat, hindex.2⟩
      else none
  | _ => none

/-- `.optional()`. -/
def readOptional (schema : JsValue → Option Value) : JsValue → Option (Option Value)
  | .undefined => some none
  | value => (schema value).map some

/-- `.strict()`: a plain object without other members. -/
def hasOnly (names : List JsString) : JsValue → Bool
  | .object fields => fields.all fun entry => names.contains entry.1
  | _ => false

/-- `govdispContentHashSchema`. -/
def readContentHash (value : JsValue) : Option ContentHash :=
  if hasOnly [js "path", js "sha256"] value then do
    let path ← readText (value.field (js "path"))
    let sha256 ← readText (value.field (js "sha256"))
    some { path, sha256 }
  else none

/-- `z.array(govdispContentHashSchema).min(1)`. -/
def readContentHashes : JsValue → Option { hashes : List ContentHash // hashes ≠ [] }
  | .array items =>
      match items.mapM readContentHash with
      | some hashes => if hhashes : hashes ≠ [] then some ⟨hashes, hhashes⟩ else none
      | none => none
  | _ => none

/-- `auditTargetSchema`. -/
def readAuditTarget (value : JsValue) : Option AuditTarget :=
  match value.field (js "kind") with
  | .string kind =>
      if kind = js "ordinary_work" then
        if hasOnly [js "kind"] value then some .ordinaryWork else none
      else if kind = js "audit" then
        if hasOnly [js "kind", js "target_event_id"] value then
          (readText (value.field (js "target_event_id"))).map .audit
        else none
      else none
  | _ => none

/-- The members that every event may have. -/
def govdispEventBaseShape : List JsString :=
  [js "schema_version", js "event_id", js "ts", js "stable_objective_id", js "actor_role",
    js "event_class", js "event_type"]

/-- The members of one class of events beside them. -/
def classShape : GovdispEventClass → List JsString
  | .attempt => [js "attempt_index", js "trigger"]
  | .finding => [js "finding_id", js "owner_role"]
  | .breakGlass => [js "authorizing_human", js "contradiction_ref"]
  | .budget => [js "budget_kind"]
  | .terminal => [js "content_hashes"]
  | .audit => [js "target"]

def readBody (value : JsValue) : GovdispEventClass → Option GovdispEventBody
  | .attempt => do
      let eventType ← readEnum (value.field (js "event_type"))
      let attemptIndex ← readOptional readIndex (value.field (js "attempt_index"))
      let trigger ← readOptional readEnum (value.field (js "trigger"))
      some (.attempt eventType attemptIndex trigger)
  | .finding => do
      let eventType ← readEnum (value.field (js "event_type"))
      let findingId ← readText (value.field (js "finding_id"))
      let ownerRole ← readOptional readText (value.field (js "owner_role"))
      some (.finding eventType findingId ownerRole)
  | .breakGlass => do
      let eventType ← readEnum (value.field (js "event_type"))
      let authorizingHuman ← readText (value.field (js "authorizing_human"))
      let contradictionRef ← readText (value.field (js "contradiction_ref"))
      some (.breakGlass eventType authorizingHuman contradictionRef)
  | .budget => do
      let eventType ← readEnum (value.field (js "event_type"))
      let budgetKind ← readEnum (value.field (js "budget_kind"))
      some (.budget eventType budgetKind)
  | .terminal => do
      let eventType ← readEnum (value.field (js "event_type"))
      let contentHashes ← readContentHashes (value.field (js "content_hashes"))
      some (.terminal eventType contentHashes)
  | .audit => do
      let eventType ← readEnum (value.field (js "event_type"))
      let target ← readAuditTarget (value.field (js "target"))
      some (.audit eventType target)

/-- `z.literal(GOVDISP_EVENT_SCHEMA_VERSION)`. -/
def isSchemaVersion : JsValue → Bool
  | .string text => text == govdispEventSchemaVersion
  | _ => false

/-- `govdispEventSchema.safeParse(value)`, where it succeeds. -/
def parseGovdispEvent (value : JsValue) : Option GovdispEvent := do
  let eventClass : GovdispEventClass ← readEnum (value.field (js "event_class"))
  if hasOnly (govdispEventBaseShape ++ classShape eventClass) value &&
      isSchemaVersion (value.field (js "schema_version")) then do
    let eventId ← readText (value.field (js "event_id"))
    let ts ← readText (value.field (js "ts"))
    let stableObjectiveId ← readText (value.field (js "stable_objective_id"))
    let actorRole ← readOptional readText (value.field (js "actor_role"))
    let body ← readBody value eventClass
    some { eventId, ts, stableObjectiveId, actorRole, body }
  else none

end Schema

/-! ## Events as plain objects -/

/-- A member that is left out where there is no value. -/
def optionalField (name : JsString) : Option JsValue → List (JsString × JsValue)
  | some value => [(name, value)]
  | none => []

def textJson (text : NonEmptyText) : JsValue := .string text.1

def ContentHash.toJson (hash : ContentHash) : JsValue := .object
  [(js "path", textJson hash.path), (js "sha256", textJson hash.sha256)]

def AuditTarget.toJson : AuditTarget → JsValue
  | .ordinaryWork => .object [(js "kind", .string (js "ordinary_work"))]
  | .audit targetEventId => .object
      [(js "kind", .string (js "audit")), (js "target_event_id", textJson targetEventId)]

/-- The members of a body behind the class and the type. -/
def GovdispEventBody.fields : GovdispEventBody → List (JsString × JsValue)
  | .attempt _ attemptIndex trigger =>
      optionalField (js "attempt_index")
          (attemptIndex.map fun index => .number (.ofNat index.1)) ++
        optionalField (js "trigger") (trigger.map fun trigger => .string (Spelled.text trigger))
  | .finding _ findingId ownerRole =>
      (js "finding_id", textJson findingId) ::
        optionalField (js "owner_role") (ownerRole.map textJson)
  | .breakGlass _ authorizingHuman contradictionRef =>
      [(js "authorizing_human", textJson authorizingHuman),
        (js "contradiction_ref", textJson contradictionRef)]
  | .budget _ budgetKind => [(js "budget_kind", .string (Spelled.text budgetKind))]
  | .terminal _ contentHashes =>
      [(js "content_hashes", .array (contentHashes.1.map ContentHash.toJson))]
  | .audit _ target => [(js "target", target.toJson)]

/-- The members in the order of the schema, as the parsed value has them. -/
def GovdispEvent.fields (event : GovdispEvent) : List (JsString × JsValue) :=
  [(js "schema_version", .string govdispEventSchemaVersion),
      (js "event_id", textJson event.eventId), (js "ts", textJson event.ts),
      (js "stable_objective_id", textJson event.stableObjectiveId)] ++
    optionalField (js "actor_role") (event.actorRole.map textJson) ++
    [(js "event_class", .string (Spelled.text event.eventClass)),
      (js "event_type", .string event.eventType)] ++
    event.body.fields

def GovdispEvent.toJson (event : GovdispEvent) : JsValue := .object event.fields

end OdinSentinel.Registry
