import OdinSentinel.Registry.Files

/-!
# Governance over the registry

The attempt ceiling, the overhead budget, the terminal guard and the post-terminal
refusal: each derives its verdict from the events of the log at the time of the call.
The injected store is the registry storage itself.
-/

namespace OdinSentinel.Registry

open JsText Dialogue

def attemptCeiling : Nat := 3
def governanceOverheadBudget : Nat := 25

/-- `GOVERNANCE_OVERHEAD_COUNTABLE_CLASSES`. -/
def countableClasses : List GovdispEventClass := [.attempt, .finding, .breakGlass, .audit]

def isCountable (event : GovdispEvent) : Bool := countableClasses.contains event.eventClass

/-! ## Arguments -/

def registryArgumentRejection (field code detail : JsString) : EventRejection where
  field := field
  eventClass := js "<store>"
  code := code
  detail := detail

def requireRegistryScope (scope : JsString) : Option EventRejection :=
  if trim scope = [] then
    some (registryArgumentRejection (js "scope") (js "invalid_scope")
      (js "scope must be a non-empty string naming the registry scope (a single safe path segment)"))
  else none

def requireStableObjectiveId (stableObjectiveId : JsString) : Option EventRejection :=
  if trim stableObjectiveId = [] then
    some (registryArgumentRejection (js "stable_objective_id") (js "invalid_objective")
      (js "stable_objective_id must be a non-empty string naming the immutable objective the attempt ceiling binds to"))
  else none

/-- The checks of the arguments of a derivation. -/
def argumentFault (scope stableObjectiveId : JsString) : Option EventRejection :=
  (requireRegistryScope scope).or (requireStableObjectiveId stableObjectiveId)

/-- A derivation over the events that a query finds. -/
def derive {Accounting : Type} (runtime : Runtime) (scope stableObjectiveId : JsString)
    (query : JsValue) (base : JsString) (account : List GovdispEvent → Accounting) :
    Talk (Judged Accounting) :=
  match argumentFault scope stableObjectiveId with
  | some fault => pure (.error [fault])
  | none => do
      let queried ← queryRegistryEvents runtime scope query base
      pure (queried.map account)

/-- One more under a key. -/
def bump (key : JsString) (counts : List (JsString × Nat)) : List (JsString × Nat) :=
  if counts.any fun entry => entry.1 == key then
    counts.map fun entry => if entry.1 = key then (key, entry.2 + 1) else entry
  else counts ++ [(key, 1)]

/-! ## The attempt ceiling -/

structure AttemptAccounting where
  stableObjectiveId : JsString
  count : Nat
  perTrigger : List (JsString × Nat)

structure AttemptRefusal where
  detail : JsString
  stableObjectiveId : JsString
  attemptIndex : Nat
  ceiling : Nat
  trigger : JsString

inductive AttemptVerdict
  | permitted (attemptIndex : Nat) (trigger : JsString) (accounting : AttemptAccounting)
  | refused (refusal : AttemptRefusal) (accounting : AttemptAccounting)

/-- An attempt of its class that is not a refusal record. -/
def isAttemptIncrement (event : GovdispEvent) : Bool :=
  match event.body with
  | .attempt .attemptStarted .. => true
  | .attempt .attemptCounted .. => true
  | _ => false

def attemptTriggerKey (event : GovdispEvent) : JsString :=
  match event.body with
  | .attempt _ _ (some trigger) => Spelled.text trigger
  | _ => js "unknown"

def attemptQuery (stableObjectiveId : JsString) : JsValue := .object
  [(js "stable_objective_id", .string stableObjectiveId), (js "event_class", .string (js "ATTEMPT"))]

def attemptAccounting (stableObjectiveId : JsString) (events : List GovdispEvent) :
    AttemptAccounting where
  stableObjectiveId := stableObjectiveId
  count := events.countP isAttemptIncrement
  perTrigger :=
    ((events.filter isAttemptIncrement).map attemptTriggerKey).foldl (fun counts key =>
      bump key counts) []

def deriveAttemptAccounting (runtime : Runtime) (scope stableObjectiveId base : JsString) :
    Talk (Judged AttemptAccounting) :=
  derive runtime scope stableObjectiveId (attemptQuery stableObjectiveId) base
    (attemptAccounting stableObjectiveId)

def normalizedTrigger (trigger : JsString) : JsString :=
  if ((Spelled.all : List AttemptTrigger).map Spelled.text).contains trigger then trigger
  else js "unknown"

def attemptVerdict (trigger : JsString) (accounting : AttemptAccounting) : AttemptVerdict :=
  let attemptIndex := accounting.count + 1
  let trigger := normalizedTrigger trigger
  if attemptIndex ≤ attemptCeiling then .permitted attemptIndex trigger accounting
  else .refused {
    detail := js "attempt ceiling exceeded for stable_objective_id \"" ++
      accounting.stableObjectiveId ++ js "\": attempt " ++ natText attemptIndex ++
      js " exceeds the " ++ natText attemptCeiling ++ js "-attempt ceiling (" ++
      natText accounting.count ++
      js " prior attempt(s) already recorded); retry laundering via a \"" ++ trigger ++
      js "\" trigger does not reset the count"
    stableObjectiveId := accounting.stableObjectiveId
    attemptIndex
    ceiling := attemptCeiling
    trigger } accounting

def evaluateAttemptCeiling (runtime : Runtime) (scope stableObjectiveId trigger base : JsString) :
    Talk (Judged AttemptVerdict) := do
  let accounting ← deriveAttemptAccounting runtime scope stableObjectiveId base
  pure (accounting.map (attemptVerdict trigger))

/-! ## The overhead budget -/

structure OverheadAccounting where
  stableObjectiveId : JsString
  count : Nat
  perClass : List (JsString × Nat)
  budget : Nat
  remaining : Nat
  terminalBlockedEventIds : List JsString

def OverheadAccounting.terminalBlockedPresent (accounting : OverheadAccounting) : Bool :=
  !accounting.terminalBlockedEventIds.isEmpty

structure OverheadBudgetRefusal where
  detail : JsString
  stableObjectiveId : JsString
  count : Nat
  budget : Nat

inductive OverheadVerdict
  | permitted (remaining : Nat) (accounting : OverheadAccounting)
  | refused (refusal : OverheadBudgetRefusal) (accounting : OverheadAccounting)

def isTerminalBlocked (event : GovdispEvent) : Bool :=
  match event.body with
  | .terminal .terminalBlocked _ => true
  | _ => false

def overheadQuery (stableObjectiveId : JsString) : JsValue := .object
  [(js "stable_objective_id", .string stableObjectiveId)]

def overheadAccounting (stableObjectiveId : JsString) (events : List GovdispEvent) :
    OverheadAccounting where
  stableObjectiveId := stableObjectiveId
  count := events.countP isCountable
  perClass :=
    ((events.filter isCountable).map fun event => Spelled.text event.eventClass).foldl
      (fun counts key => bump key counts) []
  budget := governanceOverheadBudget
  remaining := governanceOverheadBudget - events.countP isCountable
  terminalBlockedEventIds := (events.filter isTerminalBlocked).map fun event => event.eventId.1

def deriveOverheadAccounting (runtime : Runtime) (scope stableObjectiveId base : JsString) :
    Talk (Judged OverheadAccounting) :=
  derive runtime scope stableObjectiveId (overheadQuery stableObjectiveId) base
    (overheadAccounting stableObjectiveId)

def overheadVerdict (accounting : OverheadAccounting) : OverheadVerdict :=
  if accounting.count < accounting.budget then .permitted accounting.remaining accounting
  else .refused {
    detail := js "governance-overhead budget exhausted for stable_objective_id \"" ++
      accounting.stableObjectiveId ++ js "\": " ++ natText accounting.count ++
      js " countable governance event(s) (" ++
      List.intercalate (js " | ") (countableClasses.map Spelled.text) ++
      js ") reached the budget of " ++ natText accounting.budget ++
      js "; the candidate overhead event is refused — terminate the objective with exactly one TERMINAL_BLOCKED via recordBudgetExhaustion instead of spawning more proof work"
    stableObjectiveId := accounting.stableObjectiveId
    count := accounting.count
    budget := accounting.budget } accounting

def evaluateOverheadBudget (runtime : Runtime) (scope stableObjectiveId base : JsString) :
    Talk (Judged OverheadVerdict) := do
  let accounting ← deriveOverheadAccounting runtime scope stableObjectiveId base
  pure (accounting.map overheadVerdict)

/-! ## The terminal guard -/

structure TerminalBlockedRefusal where
  field : JsString
  code : JsString
  detail : JsString
  stableObjectiveId : JsString
  existingEventId : Option JsString
  count : Nat
  budget : Nat

/-- The caller's fields of the terminal event. -/
structure RecordBudgetExhaustionInput where
  eventId : JsValue
  ts : JsValue
  actorRole : JsValue
  contentHashes : JsValue

inductive RecordedExhaustion
  | appended (appended : Appended) (accounting : OverheadAccounting)
  | refused (refusal : TerminalBlockedRefusal) (accounting : OverheadAccounting)

/-- The refusal where a terminal event stands or the budget is not exhausted. -/
def terminalRefusal (accounting : OverheadAccounting) : Option TerminalBlockedRefusal :=
  if accounting.terminalBlockedPresent then
    let existingEventId := accounting.terminalBlockedEventIds.headD []
    some {
      field := js "event_type"
      code := js "terminal_already_recorded"
      detail := js "a TERMINAL_BLOCKED event already exists for stable_objective_id \"" ++
        accounting.stableObjectiveId ++ js "\" (event_id \"" ++ existingEventId ++
        js "\"); the exactly-one terminal invariant is derived from the registry — the duplicate append is refused and nothing is recorded"
      stableObjectiveId := accounting.stableObjectiveId
      existingEventId := some existingEventId
      count := accounting.count
      budget := accounting.budget }
  else if accounting.count < accounting.budget then
    some {
      field := js "overhead_count"
      code := js "budget_not_exhausted"
      detail := js "no budget breach exists for stable_objective_id \"" ++
        accounting.stableObjectiveId ++ js "\" (" ++ natText accounting.count ++ js " of " ++
        natText accounting.budget ++
        js " governance-overhead events recorded); the terminal guard fires on a derived breach only — appending a terminal event now would be a false block"
      stableObjectiveId := accounting.stableObjectiveId
      existingEventId := none
      count := accounting.count
      budget := accounting.budget }
  else none

/-- The event that the guard appends. -/
def terminalEvent (stableObjectiveId : JsString) (event : RecordBudgetExhaustionInput) : JsValue :=
  .object
    ([(js "schema_version", .string (js "govdisp.event.v1")), (js "event_id", event.eventId),
        (js "ts", event.ts), (js "stable_objective_id", .string stableObjectiveId)] ++
      (match event.actorRole with
        | .string role => [(js "actor_role", .string role)]
        | _ => []) ++
      [(js "event_class", .string (js "TERMINAL")), (js "event_type", .string (js "TERMINAL_BLOCKED")),
        (js "content_hashes", event.contentHashes)])

def recordBudgetExhaustion (runtime : Runtime) (scope stableObjectiveId : JsString)
    (event : RecordBudgetExhaustionInput) (base : JsString) (fuel : Nat) :
    Talk (Judged RecordedExhaustion) := do
  match ← deriveOverheadAccounting runtime scope stableObjectiveId base with
  | .error rejections => pure (.error rejections)
  | .ok accounting =>
      match terminalRefusal accounting with
      | some refusal => pure (.ok (.refused refusal accounting))
      | none => do
          let appended ← appendRegistryEvent runtime scope (terminalEvent stableObjectiveId event)
            base .defaults fuel
          pure (appended.map fun appended => .appended appended accounting)

/-! ## The post-terminal refusal -/

structure ObjectiveTerminallyBlockedRefusal where
  eventClass : JsString
  detail : JsString
  stableObjectiveId : JsString
  terminalEventId : JsString

inductive AppendedOverhead
  | appended (appended : Appended)
  | refused (refusal : ObjectiveTerminallyBlockedRefusal)

/-- A text member of a plain object; anything else counts as empty. -/
def textMember (value : JsValue) (name : JsString) : JsString :=
  match value.field name with
  | .string text => text
  | _ => []

/-- The guard's jurisdiction: a countable class and an objective that is not blank. -/
def isGovernedOverhead (event : JsValue) : Bool :=
  trim (textMember event (js "stable_objective_id")) != [] &&
    (countableClasses.map Spelled.text).contains (textMember event (js "event_class"))

def terminallyBlocked (event : JsValue) (accounting : OverheadAccounting) :
    ObjectiveTerminallyBlockedRefusal :=
  let objectiveId := textMember event (js "stable_objective_id")
  let terminalEventId := accounting.terminalBlockedEventIds.headD []
  { eventClass := textMember event (js "event_class")
    detail := js "stable_objective_id \"" ++ objectiveId ++
      js "\" is terminally blocked (TERMINAL_BLOCKED event_id \"" ++ terminalEventId ++
      js "\"); further governance-overhead appends for this objective are refused — the terminal event ends the proof chain instead of spawning a new one"
    stableObjectiveId := objectiveId
    terminalEventId }

/-- The append at the end of the guard. -/
def passThrough (runtime : Runtime) (scope : JsString) (event : JsValue) (base : JsString)
    (fuel : Nat) : Talk (Judged AppendedOverhead) := do
  let appended ← appendRegistryEvent runtime scope event base .defaults fuel
  pure (appended.map .appended)

def appendGovernanceOverheadEvent (runtime : Runtime) (scope : JsString) (event : JsValue)
    (base : JsString) (fuel : Nat) : Talk (Judged AppendedOverhead) :=
  match requireRegistryScope scope with
  | some fault => pure (.error [fault])
  | none =>
      if isGovernedOverhead event then do
        match ← deriveOverheadAccounting runtime scope
            (textMember event (js "stable_objective_id")) base with
        | .error rejections => pure (.error rejections)
        | .ok accounting =>
            if accounting.terminalBlockedPresent then
              pure (.ok (.refused (terminallyBlocked event accounting)))
            else passThrough runtime scope event base fuel
      else passThrough runtime scope event base fuel

end OdinSentinel.Registry
