import OdinSentinel.Core.World
import OdinSentinel.Registry.Files
import OdinSentinel.Watch.Classifier

/-!
# The poll loop

A poll captures the surface, asks the version control for its state, classifies the screen
and writes the wake files.  Three variables live from poll to poll; what is thrown inside a
poll ends the poll and leaves them as they are at that moment.
-/

namespace OdinSentinel.Watch

open JsText Dialogue Registry

/-! ## Configuration and state -/

/-- The substrates that the loop supports. -/
inductive Substrate
  | cmux
  | tmux
  deriving DecidableEq

/-- A positive number of seconds, as the command line admits it. -/
abbrev Seconds := { seconds : JsNumber // (JsNumber.ofNat 0).lt seconds = true }

structure WatchConfig where
  surface : JsString
  substrate : Substrate
  writeScope : List JsString
  intervalSeconds : Seconds
  mandatoryAuditSeconds : Seconds
  flagDir : JsString
  archiveDir : JsString
  label : JsString
  registryBase : JsString
  emission : Bool

def WatchConfig.intervalMs (config : WatchConfig) : JsNumber :=
  config.intervalSeconds.1.mul (.ofNat 1000)

def WatchConfig.mandatoryAuditIntervalMs (config : WatchConfig) : JsNumber :=
  config.mandatoryAuditSeconds.1.mul (.ofNat 1000)

def WatchConfig.staleThresholdMs (config : WatchConfig) : JsNumber :=
  config.intervalMs.mul (.ofNat 3)

/-- What lives from poll to poll. -/
structure WatchState where
  prevHash : Option JsString
  lastVerdictState : Option WakeVerdict
  lastMandatoryAuditTs : Option Int
  deriving DecidableEq

def WatchState.initial : WatchState where
  prevHash := none
  lastVerdictState := none
  lastMandatoryAuditTs := none

structure WakeState where
  ts : JsString
  surface : JsString
  paneId : JsString
  substrate : Substrate
  state : WakeVerdict
  wake : Bool
  reasonCodes : List JsString
  dirtyPaths : List JsString
  dirtyOutOfScope : List JsString
  screenHash : JsString
  screenChanged : Bool
  lastMarker : Option JsString
  promptBudgetClass : PromptBudgetClass
  nextMandatoryAuditDue : JsString
  head : Option JsString
  branch : Option JsString

/-! ## Effects -/

structure Thrown where
  message : JsString

/-- What `execFileNoThrow` returns. -/
structure ExecResult where
  status : Int
  stdout : JsString
  stderr : JsString

/-- What a file is written with. -/
inductive Content
  | text (text : JsString)
  | state (state : WakeState)

inductive WatchAsk
  | now
  | exec (command : JsString) (args : List JsString)
  | makeDir (path : JsString)
  | writeFile (path : JsString) (content : Content)
  | appendEvent (scope : JsString) (event : JsValue) (base : JsString)

abbrev WatchAnswer : WatchAsk → Type
  | .now => Int
  | .exec _ _ => ExecResult
  | .makeDir _ => Except Thrown Unit
  | .writeFile _ _ => Except Thrown Unit
  | .appendEvent _ _ _ => Except Thrown (Judged Appended)

abbrev Poll (Result : Type) := Attempt WatchAsk WatchAnswer Thrown Result

def ask (question : WatchAsk) : Poll (WatchAnswer question) := Attempt.request question

/-- A value, or what is thrown instead. -/
def orThrow {Value : Type} : Except Thrown Value → Poll Value
  | .ok value => pure value
  | .error thrown => throw thrown

/-! ## The surface and the repository -/

structure Snapshot where
  text : JsString
  hash : JsString

variable (runtime : Runtime) (config : WatchConfig)

/-- The error of a command, with the first line of what it wrote. -/
def commandFailure (intro : JsString) (result : ExecResult) (outro : JsString) : Thrown where
  message :=
    let detail := ((trim result.stderr).splitOn 10).headD []
    intro ++ js " failed (exit " ++ runtime.numberToString result.status ++ js ")" ++ outro ++
      if detail = [] then [] else js ": " ++ detail

def captureCommand (surface : JsString) : Substrate → JsString × List JsString
  | .cmux => (js "cmux", [js "read-screen", js "--surface", surface])
  | .tmux => (js "tmux", [js "capture-pane", js "-p", js "-t", surface])

/-- `[a-zA-Z0-9_-]`. -/
def isFileUnit (unit : UInt16) : Bool :=
  isLower unit || isUpper unit || isDigit unit || unit == 95 || unit == 45

/-- The archive of the screen; a failure is passed over. -/
def archive (text : JsString) (ts : Int) : Poll Unit := do
  match ← ask (.makeDir config.archiveDir) with
  | .error _ => pure ()
  | .ok () =>
      let name := config.surface.map fun unit => if isFileUnit unit then unit else 95
      let filename := name ++ js "_" ++ runtime.numberToString ts ++ js ".txt"
      let _ ← ask (.writeFile (runtime.joinPath config.archiveDir filename) (.text text))
      pure ()

def capture : Poll Snapshot := do
  let command := captureCommand config.surface config.substrate
  let result ← ask (.exec command.1 command.2)
  if result.status ≠ 0 then
    throw (commandFailure runtime (command.1 ++ js " capture of " ++ config.surface) result [])
  else do
    let ts ← ask .now
    archive runtime config result.stdout ts
    pure { text := result.stdout, hash := runtime.sha256 result.stdout }

/-- The dirty paths of a `git diff`. -/
def dirtyPathsOf (result : ExecResult) : Except Thrown (List JsString) :=
  if result.status ≠ 0 then
    .error (commandFailure runtime (js "git diff") result (js "; dirty paths unknown"))
  else .ok (((result.stdout.splitOn 10).map trim).filter (· != []))

def revision (result : ExecResult) : Option JsString :=
  if result.status = 0 then some (trim result.stdout) else none

structure Observation where
  snapshot : Snapshot
  dirtyPaths : List JsString
  branch : Option JsString
  head : Option JsString
  nowMs : Int

/-- What a poll reads before it classifies. -/
def observe : Poll Observation := do
  let snapshot ← capture runtime config
  -- `Promise.all` starts the three commands whatever comes of the first.
  let diff ← ask (.exec (js "git") [js "diff", js "--name-only", js "--diff-filter=ACDMRT"])
  let branch ← ask (.exec (js "git") [js "rev-parse", js "--abbrev-ref", js "HEAD"])
  let head ← ask (.exec (js "git") [js "rev-parse", js "--short", js "HEAD"])
  let dirtyPaths ← orThrow (dirtyPathsOf runtime diff)
  let nowMs ← ask .now
  pure { snapshot, dirtyPaths, branch := revision branch, head := revision head, nowMs }

def classifierInput (startTs : Int) (state : WatchState) (loopStart : Int)
    (observation : Observation) : ClassifierInput where
  text := observation.snapshot.text
  hash := observation.snapshot.hash
  prevHash := state.prevHash
  elapsedMs := (JsNumber.ofInt loopStart).sub (.ofInt startTs)
  nowMs := .ofInt observation.nowMs
  mandatoryAuditIntervalMs := config.mandatoryAuditIntervalMs
  staleThresholdMs := config.staleThresholdMs
  writeScope := config.writeScope
  dirtyPaths := observation.dirtyPaths
  lastVerdict := state.lastVerdictState
  lastMandatoryAuditTs := state.lastMandatoryAuditTs.map .ofInt
  liveness := none

/-! ## The wake files -/

def buildWakeState (state : WatchState) (observation : Observation) (result : ClassifierResult)
    (ts nextMandatoryAuditDue : JsString) : WakeState where
  ts
  surface := config.surface
  paneId := config.surface
  substrate := config.substrate
  state := result.verdict
  wake := result.wake
  reasonCodes := result.reasonCodes
  dirtyPaths := observation.dirtyPaths
  dirtyOutOfScope := result.dirtyOutOfScope
  screenHash := observation.snapshot.hash
  screenChanged := state.prevHash.any (· != observation.snapshot.hash)
  lastMarker := result.lastMarker
  promptBudgetClass := result.promptBudgetClass
  nextMandatoryAuditDue
  head := observation.head
  branch := observation.branch

/-- The event that a write of the wake files opens. -/
def findingOpened (ts : JsString) : JsValue := .object
  [(js "schema_version", .string (js "govdisp.event.v1")),
    (js "event_id", .string (js "evt-odin-watch-" ++ config.label ++ js "-" ++ ts)),
    (js "ts", .string ts),
    (js "stable_objective_id", .string (js "odin-watch-" ++ config.label)),
    (js "event_class", .string (js "FINDING")),
    (js "event_type", .string (js "FINDING_OPENED")),
    (js "finding_id", .string (js "odin-watch-" ++ config.label))]

/-- `{flagDir}/{label}.{extension}`. -/
def wakePath (extension : JsString) : JsString :=
  runtime.joinPath config.flagDir (config.label ++ js "." ++ extension)

def writeWakeFiles (state : WakeState) : Poll Unit := do
  orThrow (← ask (.makeDir config.flagDir))
  orThrow (← ask (.writeFile (wakePath runtime config (js "flag"))
    (.text (if state.wake then js "1" else js "0"))))
  orThrow (← ask (.writeFile (wakePath runtime config (js "reason"))
    (.text (List.intercalate (js "\n") state.reasonCodes))))
  orThrow (← ask (.writeFile (wakePath runtime config (js "state.json")) (.state state)))
  if config.emission then
    -- A rejection is only reported.
    let _ ← orThrow
      (← ask (.appendEvent (js "odin-watch") (findingOpened config state.ts) config.registryBase))
    pure ()
  else pure ()

/-- `new Date(value).toISOString()`. -/
def isoDate (value : JsNumber) : Except Thrown JsString :=
  (runtime.toISOString value).elim (.error { message := js "Invalid time value" }) .ok

/-- What a poll does behind its classification. -/
def publish (state : WatchState) (loopStart : Int) (observation : Observation)
    (result : ClassifierResult) : Poll WakeState := do
  let ts ← orThrow (isoDate runtime (.ofInt loopStart))
  let due ← orThrow
    (isoDate runtime ((JsNumber.ofInt loopStart).plus config.mandatoryAuditIntervalMs))
  let wakeState := buildWakeState config state observation result ts due
  writeWakeFiles runtime config wakeState
  pure wakeState

/-! ## A poll -/

/-- How a poll ended. -/
inductive PollOutcome
  | unclassified (thrown : Thrown)
  | unpublished (observation : Observation) (thrown : Thrown)
  | completed (observation : Observation) (wakeState : WakeState)

/-- A poll and the state behind it. -/
structure PollReport where
  loopStart : Int
  outcome : PollOutcome
  after : WatchState

/-- The reset of the audit clock. -/
def WatchState.audited (state : WatchState) (loopStart : Int) (result : ClassifierResult) :
    WatchState :=
  if result.reasonCodes.contains ClassifierInput.auditReason then
    { state with lastMandatoryAuditTs := some loopStart }
  else state

def pollOnce (startTs : Int) (state : WatchState) : Program WatchAsk WatchAnswer PollReport := do
  let loopStart ← Program.request .now
  match ← (observe runtime config).run with
  | .error thrown => pure { loopStart, outcome := .unclassified thrown, after := state }
  | .ok observation =>
      let result := classify (classifierInput config startTs state loopStart observation)
      let audited := state.audited loopStart result
      match ← (publish runtime config state loopStart observation result).run with
      | .error thrown =>
          pure { loopStart, outcome := .unpublished observation thrown, after := audited }
      | .ok wakeState =>
          pure {
            loopStart
            outcome := .completed observation wakeState
            after := { audited with
              prevHash := some observation.snapshot.hash
              lastVerdictState := some result.verdict } }

end OdinSentinel.Watch
