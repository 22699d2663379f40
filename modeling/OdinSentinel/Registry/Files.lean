import OdinSentinel.Core.Dialogue
import OdinSentinel.Registry.Storage

/-!
# Registry files

The calls of the registry as dialogues with the file system, the clock and the
random source of one scope: reading the log, the lock, and the append.  A call whose
fuel is spent while it waits for the lock stops without a result.
-/

namespace OdinSentinel.Registry

open JsText Dialogue

/-! ## Questions -/

/-- The code of a file system error. -/
structure FsError where
  code : JsString
  deriving DecidableEq

/-- The path of `[dir, path]` that is a symbolic link. -/
inductive LinkedPath
  | scopeDir
  | log

/-- How a wait is made: blocking the thread, or by a timer. -/
inductive Pause
  | blocking
  | timer

inductive FileAsk
  | findLink
  | makeDir
  | makeLock
  | removeLock
  | logExists
  | readLog
  | appendLog (text : JsString)
  | writeTemp (text : JsString)
  | renameTemp
  | removeTemp
  | now
  | wait (pause : Pause) (ms : JsNumber)
  | random

/-- What a file operation answers: a value, or the error that it throws. -/
abbrev FsAnswer (Value : Type) := Except FsError Value

/-- `Math.random()` lies in `[0, 1)`. -/
abbrev FileAnswer : FileAsk → Type
  | .findLink => FsAnswer (Option LinkedPath)
  | .makeDir => FsAnswer Unit
  | .makeLock => FsAnswer Unit
  | .removeLock => FsAnswer Unit
  | .logExists => Bool
  | .readLog => FsAnswer JsString
  | .appendLog _ => FsAnswer Unit
  | .writeTemp _ => FsAnswer Unit
  | .renameTemp => FsAnswer Unit
  | .removeTemp => FsAnswer Unit
  | .now => Int
  | .wait _ _ => Unit
  | .random => { value : ℚ // 0 ≤ value ∧ value < 1 }

abbrev FileEvent := Exchange FileAsk FileAnswer

/-- Why a call has no result. -/
inductive Halt
  | threw (error : FsError)
  | waiting

abbrev Talk (Result : Type) := Attempt FileAsk FileAnswer Halt Result

def ask (question : FileAsk) : Talk (FileAnswer question) := Attempt.request question

/-- The value of a file operation; its error is thrown. -/
def orThrow {Value : Type} : FsAnswer Value → Talk Value
  | .ok value => pure value
  | .error error => throw (.threw error)

/-- `try { body } finally { final }`. -/
def tryFinally {Value : Type} (body : Talk Value) (final : Talk Unit) : Talk Value :=
  ExceptT.mk do
    match ← body.run with
    | .error .waiting => pure (.error .waiting)
    | outcome =>
        match ← final.run with
        | .ok () => pure outcome
        | .error halt => pure (.error halt)

/-! ## Symbolic links -/

def registrySymlinkRejection (dir path eventClass : JsString) : Talk (Option EventRejection) := do
  match ← orThrow (← ask .findLink) with
  | none => pure none
  | some link =>
      let linked : JsString := match link with
        | .scopeDir => dir
        | .log => path
      pure (some {
        field := match link with
          | .scopeDir => js "scope"
          | .log => registryEventsFilename
        eventClass
        code := js "symlink_refused"
        detail := js "registry path " ++ linked ++
          js " is a symbolic link; refusing to follow it outside the registry base (nothing was read or written)" })

/-! ## The lock -/

def isEexists (error : FsError) : Bool := error.code == js "EEXIST"

structure RegistryLockAcquisition where
  locked : Bool
  attempts : Nat
  elapsedMs : Int

/-- The wait policy, shared by both acquisition paths. -/
inductive LockPolicy
  | fixed (maxAttempts retryMs : JsNumber)
  | backoff (budgetMs : JsNumber)

def defaultMaxLockAttempts : Nat := 50
def defaultLockRetryMs : Nat := 10
def defaultLockBudgetMs : Nat := 10000
def defaultLockBackoffInitialMs : Nat := 5
def defaultLockBackoffMaxMs : Nat := 200

def lockPolicy (options : RegistryLockOptions) : LockPolicy :=
  if options.maxLockAttempts.isSome || options.lockRetryMs.isSome then
    .fixed
      ((JsNumber.ofNat 1).maximum (options.maxLockAttempts.getD (.ofNat defaultMaxLockAttempts)))
      ((JsNumber.ofNat 0).maximum (options.lockRetryMs.getD (.ofNat defaultLockRetryMs)))
  else
    .backoff ((JsNumber.ofNat 0).maximum (options.lockBudgetMs.getD (.ofNat defaultLockBudgetMs)))

/-- The delay, jittered down and clamped to what is left of the budget. -/
def nextBackoffDelayMs (random : ℚ) (delayMs : Nat) (elapsedMs : Int) (budgetMs : JsNumber) :
    JsNumber :=
  let factor := toDouble (1 / 2 + random / 2)
  let jittered := ((JsNumber.ofNat delayMs).mul factor).round
  (JsNumber.ofNat 0).maximum (jittered.minimum (budgetMs.sub (.ofInt elapsedMs)))

def sleepSync (ms : JsNumber) : Talk Unit :=
  if ms.le (.ofNat 0) then pure () else ask (.wait .blocking ms)

def sleepAsync (ms : JsNumber) : Talk Unit :=
  if ms.le (.ofNat 0) then pure () else ask (.wait .timer ms)

/-- The attempts of the fixed mode behind those that were made. -/
def fixedAttempts (sleep : JsNumber → Talk Unit) (maxAttempts retryMs : JsNumber) :
    Nat → Nat → Talk (Bool × Nat)
  | 0, _ => throw .waiting
  | fuel + 1, attempts =>
      if (JsNumber.ofNat attempts).lt maxAttempts then do
        match ← ask .makeLock with
        | .ok () => pure (true, attempts + 1)
        | .error error =>
            if !isEexists error then throw (.threw error)
            else do
              if (JsNumber.ofNat (attempts + 1)).lt maxAttempts then sleep retryMs
              fixedAttempts sleep maxAttempts retryMs fuel (attempts + 1)
      else pure (false, attempts)

/-- The attempts of the backoff mode behind those that were made. -/
def backoffAttempts (sleep : JsNumber → Talk Unit) (startedAt : Int) (budgetMs : JsNumber) :
    Nat → Nat → Nat → Talk (Bool × Nat)
  | 0, _, _ => throw .waiting
  | fuel + 1, attempts, delayMs => do
      match ← ask .makeLock with
      | .ok () => pure (true, attempts + 1)
      | .error error =>
          if !isEexists error then throw (.threw error)
          else do
            let elapsed := (← ask .now) - startedAt
            if budgetMs.le (.ofInt elapsed) then pure (false, attempts + 1)
            else do
              let random ← ask .random
              sleep (nextBackoffDelayMs random.1 delayMs elapsed budgetMs)
              backoffAttempts sleep startedAt budgetMs fuel (attempts + 1)
                (min defaultLockBackoffMaxMs (delayMs * 2))

/-- An acquisition with one way to wait. -/
def acquireRegistryLockBy (sleep : JsNumber → Talk Unit) (options : RegistryLockOptions)
    (fuel : Nat) : Talk RegistryLockAcquisition := do
  let startedAt ← ask .now
  let (locked, attempts) ← match lockPolicy options with
    | .fixed maxAttempts retryMs => fixedAttempts sleep maxAttempts retryMs fuel 0
    | .backoff budgetMs =>
        backoffAttempts sleep startedAt budgetMs fuel 0 defaultLockBackoffInitialMs
  let elapsedMs := (← ask .now) - startedAt
  pure { locked, attempts, elapsedMs }

def acquireRegistryLock (options : RegistryLockOptions) (fuel : Nat) :
    Talk RegistryLockAcquisition :=
  acquireRegistryLockBy sleepSync options fuel

def acquireRegistryLockAsync (options : RegistryLockOptions) (fuel : Nat) :
    Talk RegistryLockAcquisition :=
  acquireRegistryLockBy sleepAsync options fuel

def lockUnavailable (runtime : Runtime) (lockDir eventClass : JsString)
    (acquisition : RegistryLockAcquisition) : EventRejection where
  field := registryLockDirname
  eventClass := eventClass
  code := js "lock_unavailable"
  detail := js "registry lock " ++ lockDir ++ js " held by another writer after " ++
    natText acquisition.attempts ++ js " attempt(s) over " ++
    runtime.numberText (.ofInt acquisition.elapsedMs) ++
    js " ms; failing closed instead of risking interleaved corruption"

/-! ## Appending -/

/-- What an append reports on success. -/
structure Appended where
  path : JsString
  event : GovdispEvent

/-- An append with one way to acquire the lock. -/
def appendRegistryEventBy
    (acquire : RegistryLockOptions → Nat → Talk RegistryLockAcquisition) (runtime : Runtime)
    (scope : JsString) (event : JsValue) (base : JsString) (options : RegistryAppendOptions)
    (fuel : Nat) : Talk (Judged Appended) :=
  match prepareAppend runtime scope event base options with
  | .error rejections => pure (.error rejections)
  | .ok prepared => do
      let eventClass := Spelled.text prepared.event.eventClass
      match ← registrySymlinkRejection prepared.dir prepared.path eventClass with
      | some linked => pure (.error [linked])
      | none => do
          orThrow (← ask .makeDir)
          let acquisition ← acquire options.toRegistryLockOptions fuel
          if !acquisition.locked then
            pure (.error [lockUnavailable runtime prepared.lockDir eventClass acquisition])
          else
            tryFinally
              (do
                match ← registrySymlinkRejection prepared.dir prepared.path eventClass with
                | some raced => pure (.error [raced])
                | none => do
                    orThrow (← ask (.appendLog prepared.line))
                    pure (.ok { path := prepared.path, event := prepared.event }))
              (do orThrow (← ask .removeLock))

def appendRegistryEvent := appendRegistryEventBy acquireRegistryLock

def appendRegistryEventAsync := appendRegistryEventBy acquireRegistryLockAsync

/-! ## Reading -/

def readRegistryEvents (runtime : Runtime) (scope base : JsString) :
    Talk (Judged (List GovdispEvent)) :=
  if !isSafeRegistryScope scope then pure (.error [unsafeScopeRejection scope])
  else do
    let dir := runtime.joinPath base scope
    let path := runtime.joinPath dir registryEventsFilename
    match ← registrySymlinkRejection dir path (js "<store>") with
    | some linked => pure (.error [linked])
    | none => do
        if !(← ask .logExists) then pure (.ok [])
        else do
          let text ← orThrow (← ask .readLog)
          pure (readEvents runtime text)

def queryRegistryEvents (runtime : Runtime) (scope : JsString) (query : JsValue)
    (base : JsString) : Talk (Judged (List GovdispEvent)) :=
  match validateRegistryEventQuery query with
  | rejection :: rejections => pure (.error (rejection :: rejections))
  | [] => do
      let events ← readRegistryEvents runtime scope base
      pure (queryEvents query events)

end OdinSentinel.Registry
