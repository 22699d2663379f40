import OdinSentinel.Registry.Files

/-!
# Compaction

`compactRegistryEvents`: the plan as a function of the log's text, the instant and
the policy, and the run that reads, plans, writes beside the log and renames under the
registry lock.
-/

namespace OdinSentinel.Registry

open JsText Dialogue

def govdispProofTtlDaysDefault : Nat := 30
def dayMs : Nat := 24 * 60 * 60 * 1000

def hashRegistryEventLine (runtime : Runtime) (line : JsString) : JsString := runtime.sha256 line

def storeRejection (field code detail : JsString) : EventRejection where
  field := field
  eventClass := js "<store>"
  code := code
  detail := detail

/-! ## The policy -/

/-- The default TTL in days and the overrides by event class. -/
structure TtlPolicy where
  ttlDays : JsNumber
  overrides : List (JsString × JsNumber)

/-- `Number.isFinite(days) && days > 0`. -/
def isTtl (days : JsNumber) : Bool := days.isFinite && (JsNumber.ofNat 0).lt days

def overrideRejections (runtime : Runtime) (entry : JsString × JsNumber) : List EventRejection :=
  let (eventClass, days) := entry
  let field := js "ttl_days_by_class." ++ eventClass
  if !govdispEventClasses.contains eventClass then
    [storeRejection field (js "invalid_ttl")
      (js "TTL override names an unknown event class \"" ++ eventClass ++
        js "\"; allowed classes: " ++ List.intercalate (js " | ") govdispEventClasses)]
  else if !isTtl days then
    [storeRejection field (js "invalid_ttl")
      (js "TTL override for class \"" ++ eventClass ++
        js "\" must be a positive finite number of days; rejected: " ++ runtime.numberJson days)]
  else []

def validateTtlPolicy (runtime : Runtime) (policy : TtlPolicy) : List EventRejection :=
  (if !isTtl policy.ttlDays then
    [storeRejection (js "ttl_days") (js "invalid_ttl")
      (js "default TTL must be a positive finite number of days; rejected: " ++
        runtime.numberJson policy.ttlDays)] else []) ++
    policy.overrides.flatMap (overrideRejections runtime)

/-- The TTL of a class. -/
def TtlPolicy.ttl (policy : TtlPolicy) (eventClass : GovdispEventClass) : JsNumber :=
  (policy.overrides.lookup (Spelled.text eventClass)).getD policy.ttlDays

/-! ## The plan -/

structure ParsedRegistryLine where
  line : JsString
  event : GovdispEvent
  eventMs : Int

def compactCorruptLine (runtime : Runtime) (lineNo : Nat) (line : JsString) : EventRejection :=
  storeRejection (js "line[" ++ natText lineNo ++ js "]") (js "corrupt_line")
    (js "registry log line " ++ natText lineNo ++ js " is not valid JSON (" ++
      runtime.jsonFault line ++ js "); compaction refuses to mutate a partially readable log")

def unparseableTs (lineNo : Nat) (event : GovdispEvent) : EventRejection :=
  storeRejection (js "line[" ++ natText lineNo ++ js "].ts") (js "unparseable_ts")
    (js "registry log line " ++ natText lineNo ++ js " (event_id \"" ++ event.eventId.1 ++
      js "\") has a ts that does not parse as a date: " ++ Json.quote event.ts.1 ++
      js "; compaction never guesses an event's age")

/-- One line of the log with the instant of its event. -/
def parseRegistryLine (runtime : Runtime) (lineNo : Nat) (line : JsString) :
    Judged ParsedRegistryLine :=
  match Json.parse line with
  | none => .error [compactCorruptLine runtime lineNo line]
  | some value =>
      match validateGovdispEvent runtime value with
      | .error rejections => .error (rejections.map (EventRejection.onLine lineNo))
      | .ok event =>
          match runtime.dateParse event.ts.1 with
          | none => .error [unparseableTs lineNo event]
          | some eventMs => .ok { line, event, eventMs }

/-- Whether a line is removed: no terminal event is, any other once it is strictly
older than the TTL of its class. -/
def isExpiredLine (nowMs : Int) (policy : TtlPolicy) (entry : ParsedRegistryLine) : Bool :=
  if entry.event.eventClass = .terminal then false
  else
    let cutoffMs := (JsNumber.ofInt nowMs).sub
      ((policy.ttl entry.event.eventClass).mul (.ofNat dayMs))
    (JsNumber.ofInt entry.eventMs).lt cutoffMs

structure CompactionPlan where
  keptLines : List JsString
  removed : List ParsedRegistryLine
  summaryEvent : Option GovdispEvent
  newText : Option JsString
  bytesBefore : Nat
  bytesAfter : Nat

/-- The `path` and `sha256` of a removed line. -/
def contentHash (runtime : Runtime) (entry : ParsedRegistryLine) : JsString × JsString :=
  (entry.event.eventId.1, hashRegistryEventLine runtime entry.line)

/-- The summary of the removed lines, as the plan builds it. -/
def summaryValue (runtime : Runtime) (scope now : JsString)
    (removed : List ParsedRegistryLine) : JsValue :=
  let contentHashes := removed.map (contentHash runtime)
  let chainDigest := hashRegistryEventLine runtime
    (List.intercalate (js "\n") (contentHashes.map fun hash => hash.1 ++ js ":" ++ hash.2))
  .object
    [(js "schema_version", .string govdispEventSchemaVersion),
      (js "event_id", .string (js "evt-compaction-" ++ chainDigest.take 24)),
      (js "ts", .string now),
      (js "stable_objective_id", .string scope),
      (js "event_class", .string (js "TERMINAL")),
      (js "event_type", .string (js "TERMINAL_COMPLETED")),
      (js "content_hashes", .array (contentHashes.map fun hash =>
        .object [(js "path", .string hash.1), (js "sha256", .string hash.2)]))]

def planCompaction (runtime : Runtime) (scope text now : JsString) (nowMs : Int)
    (policy : TtlPolicy) : Judged CompactionPlan :=
  match collect (parseRegistryLine runtime) 1 (splitLogLines text) with
  | .error rejections => .error rejections
  | .ok parsed =>
      let kept := parsed.filter fun entry => !isExpiredLine nowMs policy entry
      let removed := parsed.filter (isExpiredLine nowMs policy)
      let keptLines := kept.map ParsedRegistryLine.line
      let bytesBefore := byteLength text
      if removed = [] then
        .ok { keptLines, removed, summaryEvent := none, newText := none, bytesBefore
              bytesAfter := bytesBefore }
      else
        let summary := summaryValue runtime scope now removed
        match validateGovdispEvent runtime summary with
        | .error rejections => .error rejections
        | .ok summaryEvent =>
            let summaryLine := Json.stringify runtime.toHostRuntime summary
            let newText := List.intercalate (js "\n") (keptLines ++ [summaryLine]) ++ js "\n"
            .ok { keptLines, removed, summaryEvent := some summaryEvent, newText := some newText
                  bytesBefore, bytesAfter := byteLength newText }

/-! ## The run -/

structure RegistryCompactionReport where
  scope : JsString
  path : JsString
  dryRun : Bool
  now : JsString
  policy : TtlPolicy
  compacted : Bool
  removedCount : Nat
  keptCount : Nat
  removedPerClass : List (GovdispEventClass × Nat)
  bytesBefore : Nat
  bytesAfter : Nat
  summaryEvent : Option GovdispEvent

/-- How many of the removed events each class has, for those that have any. -/
def removedPerClass (removed : List ParsedRegistryLine) : List (GovdispEventClass × Nat) :=
  ((Spelled.all : List GovdispEventClass).map fun eventClass =>
    (eventClass, removed.countP fun entry => entry.event.eventClass = eventClass)).filter
      fun entry => entry.2 ≠ 0

def buildReport (scope path : JsString) (dryRun : Bool) (now : JsString) (policy : TtlPolicy)
    (plan : CompactionPlan) : RegistryCompactionReport where
  scope := scope
  path := path
  dryRun := dryRun
  now := now
  policy := policy
  compacted := decide (0 < plan.removed.length)
  removedCount := plan.removed.length
  keptCount := plan.keptLines.length
  removedPerClass := removedPerClass plan.removed
  bytesBefore := plan.bytesBefore
  bytesAfter := plan.bytesAfter
  summaryEvent := plan.summaryEvent

def emptyPlan : CompactionPlan where
  keptLines := []
  removed := []
  summaryEvent := none
  newText := none
  bytesBefore := 0
  bytesAfter := 0

structure CompactRegistryEventsOptions extends RegistryLockOptions where
  base : Option JsString
  now : Option JsString
  ttlDays : Option JsNumber
  ttlDaysByClass : Option (List (JsString × JsNumber))
  dryRun : Bool

def CompactRegistryEventsOptions.policy (options : CompactRegistryEventsOptions) : TtlPolicy where
  ttlDays := options.ttlDays.getD (.ofNat govdispProofTtlDaysDefault)
  overrides := options.ttlDaysByClass.getD []

def compactLockUnavailable (runtime : Runtime) (lockDir : JsString)
    (acquisition : RegistryLockAcquisition) : EventRejection :=
  storeRejection registryLockDirname (js "lock_unavailable")
    (js "registry lock " ++ lockDir ++ js " held by another writer after " ++
      natText acquisition.attempts ++ js " attempt(s) over " ++
      runtime.numberText (.ofInt acquisition.elapsedMs) ++
      js " ms; compaction fails closed instead of risking a lost append")

/-- Write beside the log and rename over it; a failure removes what was written and is
thrown on. -/
def replaceLog (newText : JsString) : Talk Unit :=
  ExceptT.mk do
    match ← (do
        orThrow (← ask (.writeTemp newText))
        orThrow (← ask .renameTemp) : Talk Unit).run with
    | .ok () => pure (.ok ())
    | .error halt => do
        let _ ← Program.request .removeTemp
        pure (.error halt)

/-- The instant of a run: the one given, or the clock's. -/
def instantOf (runtime : Runtime) : Option JsString → Talk JsString
  | some now => pure now
  | none => do
      let ms ← ask .now
      pure ((runtime.toISOString (.ofInt ms)).getD [])

/-- What a real run does under the lock. -/
def compactLocked (runtime : Runtime) (scope path now : JsString) (nowMs : Int)
    (policy : TtlPolicy) : Talk (Judged RegistryCompactionReport) := do
  if !(← ask .logExists) then pure (.ok (buildReport scope path false now policy emptyPlan))
  else do
    let text ← orThrow (← ask .readLog)
    match planCompaction runtime scope text now nowMs policy with
    | .error rejections => pure (.error rejections)
    | .ok plan =>
        match plan.newText with
        | none => pure (.ok (buildReport scope path false now policy plan))
        | some newText => do
            replaceLog newText
            pure (.ok (buildReport scope path false now policy plan))

/-- What a dry run does. -/
def compactDry (runtime : Runtime) (scope path now : JsString) (nowMs : Int)
    (policy : TtlPolicy) : Talk (Judged RegistryCompactionReport) := do
  if !(← ask .logExists) then pure (.ok (buildReport scope path true now policy emptyPlan))
  else do
    let text ← orThrow (← ask .readLog)
    match planCompaction runtime scope text now nowMs policy with
    | .error rejections => pure (.error rejections)
    | .ok plan => pure (.ok (buildReport scope path true now policy plan))

def unsafeCompactScope (scope : JsString) : EventRejection :=
  storeRejection (js "scope") (js "unsafe_scope")
    (js "registry scope must be a single safe path segment (alphanumeric start, then alnum/. _ -); rejected: " ++
      Json.quote scope)

def invalidNow (now : JsString) : EventRejection :=
  storeRejection (js "now") (js "invalid_now")
    (js "the evaluation instant must parse as a date (ISO-8601); rejected: " ++ Json.quote now)

def compactRegistryEvents (runtime : Runtime) (scope : JsString)
    (options : CompactRegistryEventsOptions) (fuel : Nat) :
    Talk (Judged RegistryCompactionReport) :=
  if !isSafeRegistryScope scope then pure (.error [unsafeCompactScope scope])
  else do
    let now ← instantOf runtime options.now
    match runtime.dateParse now with
    | none => pure (.error [invalidNow now])
    | some nowMs =>
        match validateTtlPolicy runtime options.policy with
        | rejection :: rejections => pure (.error (rejection :: rejections))
        | [] => do
            let dir := runtime.joinPath (options.base.getD localRegistryBase) scope
            let path := runtime.joinPath dir registryEventsFilename
            if options.dryRun then compactDry runtime scope path now nowMs options.policy
            else do
              orThrow (← ask .makeDir)
              let acquisition ← acquireRegistryLock options.toRegistryLockOptions fuel
              if !acquisition.locked then
                pure (.error [compactLockUnavailable runtime
                  (runtime.joinPath dir registryLockDirname) acquisition])
              else
                tryFinally (compactLocked runtime scope path now nowMs options.policy)
                  (do orThrow (← ask .removeLock))

end OdinSentinel.Registry
