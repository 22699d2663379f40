import OdinSentinel.Core.FileTree
import OdinSentinel.Core.JsonParse
import OdinSentinel.Lease.Fence
import OdinSentinel.Registry.Questions

/-!
# The lease store

The lease operations as dialogues with the file system: the paths of a slot, what is read
and written at them, and the lock around a change.  The bodies and the checks are those of
one slot's record.
-/

namespace OdinSentinel.Lease.Store

open JsText Host Dialogue FileTree PosixPath

/-! ## Processes and paths -/

/-- A process that runs lease operations on POSIX, where `join` is the host's. -/
structure Process where
  host : HostRuntime
  jsonFault : JsString → JsString
  pid : Nat
  cwd : Place

namespace Process

def runtime (process : Process) : HostRuntime :=
  { process.host with joinPath := fun dir name => join [dir, name] }

/-- Where a path leads for the process. -/
def place (process : Process) (path : JsString) : Place := locate process.cwd path

def allowPath (process : Process) (dir : JsString) : JsString :=
  process.runtime.joinPath dir slotsAllowFilename

def tempPath (process : Process) (dir slot : JsString) : JsString :=
  leasePath process.runtime dir slot ++ js "." ++ natText process.pid ++ js ".tmp"

end Process

/-- `JSON.stringify(value, null, 2)` of an object that holds no other objects. -/
def stringifyIndented (host : HostRuntime) (fields : List (JsString × JsValue)) : JsString :=
  let member := fun field : JsString × JsValue =>
    js "\n  " ++ Json.quote field.1 ++ js ": " ++ Json.stringify host field.2
  js "\x7b" ++ (js ",").intercalate (fields.map member) ++ js "\n\x7d"

/-! ## Questions -/

structure Fault where
  code : JsString
  message : JsString

/-- A system call, a look at the clock, or what an attempt at a slot's lock asks. -/
inductive Ask
  | sys (call : SysCall)
  | clock
  | locking (lockDir : Place) (question : Registry.FileAsk)

abbrev AskAnswer : Ask → Type
  | .sys call => SysAnswer Fault call
  | .clock => JsNumber
  | .locking _ question => Registry.FileAnswer question

/-- Why a call has no reply. -/
inductive Halt
  | threw (fault : Fault)
  | body (thrown : Thrown)
  | lock (halt : Registry.Halt)

abbrev Talk (Result : Type) := Attempt Ask AskAnswer Halt Result

def ask (question : Ask) : Talk (AskAnswer question) := Attempt.request question

/-- The value of a system call; its fault is thrown. -/
def orThrow {Value : Type} : Except Fault Value → Talk Value
  | .ok value => pure value
  | .error fault => throw (.threw fault)

/-- `try { body } finally { final }`. -/
def tryFinally {Value : Type} (body : Talk Value) (final : Talk Unit) : Talk Value :=
  ExceptT.mk do
    let outcome ← body.run
    match ← final.run with
    | .ok () => pure outcome
    | .error halt => pure (.error halt)

structure StoreOptions extends LeaseOptions where
  lockBudgetMs : Option JsNumber

section Operations

variable (process : Process) (dir : JsString) (options : StoreOptions) (fuel : Nat)

/-! ## Reading -/

def allowFile : Talk AllowFile := do
  let path := process.place (process.allowPath dir)
  if !(← ask (.sys (.existsSync path))) then pure .absent
  else
    match ← ask (.sys (.readFileSync path)) with
    | .ok text => pure (.text text)
    | .error fault => pure (.unreadable fault.message)

def recordFile (slot : JsString) : Talk LeaseFile := do
  let path := process.place (leasePath process.runtime dir slot)
  if !(← ask (.sys (.existsSync path))) then pure .absent
  else
    match ← ask (.sys (.readFileSync path)) with
    | .error fault => pure (.notJson fault.message)
    | .ok text =>
        match Json.parse text with
        | some value => pure (.json value)
        | none => pure (.notJson (process.jsonFault text))

/-- The files that `readLease` looks at: none for an invalid slot, and not the record of a
slot that is not allowed. -/
def leaseFiles (slot : JsString) : Talk (AllowFile × LeaseFile) :=
  if slotPattern slot = false then pure (.absent, .absent)
  else do
    let allow ← allowFile process dir
    match ensureSlotAllowed allow slot with
    | .error _ => pure (allow, .absent)
    | .ok () => do
        let file ← recordFile process dir slot
        pure (allow, file)

def readLease (slot : JsString) : Talk (LeaseResult LeaseRecord) := do
  let (allow, file) ← leaseFiles process dir slot
  pure (Lease.readLease process.runtime dir slot allow file)

/-! ## Writing under the lock -/

def writeLease (record : LeaseRecord) : Talk Unit := do
  let path := leasePath process.runtime dir record.slot
  let temp := process.tempPath dir record.slot
  let text := stringifyIndented process.runtime
    [(js "schema_version", .string leaseSchemaVersion), (js "slot", .string record.slot),
      (js "token", .number (.ofNat record.token)), (js "holder", .ofNullable record.holder),
      (js "acquired_at", .ofNullable record.acquiredAt),
      (js "expires_at", .ofNullable record.expiresAt)] ++ js "\n"
  orThrow (← ask (.sys (.writeFileSync (process.place temp) text)))
  orThrow (← ask (.sys (.renameSync (process.place temp) (process.place path))))

/-- `acquireRegistryLock` on a slot's lock directory. -/
def acquireLock (lockDir : Place) : Talk Registry.RegistryLockAcquisition :=
  ExceptT.adapt .lock (ExceptT.mk
    ((Registry.acquireRegistryLock
      { maxLockAttempts := none, lockRetryMs := none, lockBudgetMs := options.lockBudgetMs }
      fuel).run.translate fun question => Program.request (.locking lockDir question)))

def orThrown {α : Type} : Except Thrown (Answer α) → Talk (Answer α)
  | .ok answer => pure answer
  | .error thrown => throw (.body thrown)

/-- A body that looks at the clock first. -/
def clocked {α : Type} (body : JsNumber → LeaseRecord → Except Thrown (Answer α))
    (record : LeaseRecord) : Talk (Answer α) := do
  let clock ← ask .clock
  orThrown (body clock record)

def withSlotLock {α : Type} (slot : JsString) (body : LeaseRecord → Talk (Answer α)) :
    Talk (LeaseResult α) := do
  match ← ask (.sys (.mkdirRecursive (process.place dir))) with
  | .error fault =>
      pure (refusal .lease_dir_unavailable
        (js "lease directory " ++ dir ++ js " cannot be created: " ++ fault.message))
  | .ok () => do
      let lockDir := process.place (lockPath process.runtime dir slot)
      let acquisition ← acquireLock options fuel lockDir
      if !acquisition.locked then
        pure (refusal .lock_unavailable
          (js "slot lock " ++ lockPath process.runtime dir slot ++
            js " held by another writer after " ++ natText acquisition.attempts ++
            js " attempt(s) over " ++ process.runtime.numberText (.ofInt acquisition.elapsedMs) ++
            js " ms; failing closed"))
      else
        tryFinally
          (do
            match ← readLease process dir slot with
            | .error reason => pure (.error reason)
            | .ok record => do
                let (result, written) ← body record
                match written with
                | none => pure result
                | some next => do
                    writeLease process dir next
                    pure result)
          (do orThrow (← ask (.sys (.rmdirSync lockDir))))

def withAllowedSlotLock {α : Type} (slot : JsString) (body : LeaseRecord → Talk (Answer α)) :
    Talk (LeaseResult α) := do
  match ensureSlotAllowed (← allowFile process dir) slot with
  | .error reason => pure (.error reason)
  | .ok () => withSlotLock process dir options fuel slot body

/-! ## The operations -/

/-- A call whose arguments were checked, or what the check refused. -/
def guarded {α : Type} (check : LeaseResult Unit) (call : Talk (LeaseResult α)) :
    Talk (LeaseResult α) :=
  match check with
  | .error reason => pure (.error reason)
  | .ok () => call

def acquireLease (slot holder : JsString) (ttlSeconds : JsNumber) :
    Talk (LeaseResult AcquireResult) :=
  guarded (do checkSlot slot; checkHolder holder; checkTtl process.runtime ttlSeconds)
    (withAllowedSlotLock process dir options fuel slot
      (clocked (acquireBody process.runtime slot holder ttlSeconds options.toLeaseOptions)))

/-- One pass over the listed slots: the reply that ends the call, or the held slots met. -/
def tryEach (phase : Phase) (holder : JsString) (ttlSeconds : JsNumber) :
    List JsString → List HeldSlot →
      Talk (Except (LeaseResult AcquireAnyResult) (List HeldSlot))
  | [], held => pure (.ok held)
  | slot :: rest, held => do
      match ← withSlotLock process dir options fuel slot
          (clocked (anyBody process.runtime phase holder ttlSeconds options.toLeaseOptions)) with
      | .error reason => pure (.error (.error reason))
      | .ok (.granted record acquired tookOver) =>
          pure (.error (.ok { slot, record, acquired, tookOver, held }))
      | .ok (.held other expiresAt) =>
          tryEach phase holder ttlSeconds rest (noteHeld held slot other expiresAt)

def acquireAnyLease (slots : List JsString) (holder : JsString) (ttlSeconds : JsNumber) :
    Talk (LeaseResult AcquireAnyResult) :=
  guarded
    (if slots = [] then refusal .invalid_slot (js "at least one slot id is required")
      else do checkSlots slots; checkHolder holder; checkTtl process.runtime ttlSeconds)
    (do
      match ensureSlotsAllowed (← allowFile process dir) slots with
      | .error reason => pure (.error reason)
      | .ok () => do
          match ← tryEach process dir options fuel .own holder ttlSeconds slots [] with
          | .error reply => pure reply
          | .ok held => do
              match ← tryEach process dir options fuel .grant holder ttlSeconds slots held with
              | .error reply => pure reply
              | .ok held => pure (allSlotsHeld held))

def renewLease (slot holder : JsString) (token ttlSeconds : JsNumber) :
    Talk (LeaseResult LeaseRecord) :=
  guarded (do checkSlot slot; checkTtl process.runtime ttlSeconds)
    (withAllowedSlotLock process dir options fuel slot
      (clocked (renewBody process.runtime slot holder token ttlSeconds options.toLeaseOptions)))

def releaseLease (slot holder : JsString) (token : JsNumber) : Talk (LeaseResult LeaseRecord) :=
  guarded (checkSlot slot)
    (withAllowedSlotLock process dir options fuel slot
      fun record => orThrown (releaseBody process.runtime slot holder token record))

structure CheckResult where
  held : Bool
  record : LeaseRecord

def checkLease (slot holder : JsString) (token : JsNumber) : Talk (LeaseResult CheckResult) := do
  match ensureSlotAllowed (← allowFile process dir) slot with
  | .error reason => pure (.error reason)
  | .ok () => do
      match ← readLease process dir slot with
      | .error reason => pure (.error reason)
      | .ok record =>
          match currentTenure process.runtime slot holder token record with
          | .error reason => pure (.error reason)
          | .ok tenure => do
              let clock ← ask .clock
              if isExpired process.runtime record clock (skewMs options.toLeaseOptions) then
                pure (refusal .lease_expired
                  (js "slot \"" ++ slot ++ js "\" expired at " ++ tenure.expiresAt))
              else pure (.ok { held := true, record })

structure LeaseStatus where
  record : LeaseRecord
  free : Bool
  expired : Bool

def leaseStatus (slot : JsString) : Talk (LeaseResult LeaseStatus) := do
  match ensureSlotAllowed (← allowFile process dir) slot with
  | .error reason => pure (.error reason)
  | .ok () => do
      match ← readLease process dir slot with
      | .error reason => pure (.error reason)
      | .ok record => do
          let clock ← ask .clock
          pure (.ok
            { record
              free := record.holder.isNone
              expired := isExpired process.runtime record clock (skewMs options.toLeaseOptions) })

def fenceAction (slot : JsString) (token : JsNumber) : Talk (LeaseResult FenceVerdict) := do
  let before ← allowFile process dir
  match ensureSlotAllowed before slot with
  | .error reason => pure (.error reason)
  | .ok () => do
      let (inside, file) ← leaseFiles process dir slot
      pure (Lease.fenceAction process.runtime dir slot token before inside file)

end Operations

/-! ## Calls -/

inductive Operation
  | acquire (slot holder : JsString) (ttlSeconds : JsNumber)
  | acquireAny (slots : List JsString) (holder : JsString) (ttlSeconds : JsNumber)
  | renew (slot holder : JsString) (token ttlSeconds : JsNumber)
  | release (slot holder : JsString) (token : JsNumber)
  | check (slot holder : JsString) (token : JsNumber)
  | status (slot : JsString)
  | fence (slot : JsString) (token : JsNumber)

/-- The slots that an operation names. -/
def Operation.slots : Operation → List JsString
  | .acquire slot _ _ => [slot]
  | .acquireAny slots _ _ => slots
  | .renew slot _ _ _ => [slot]
  | .release slot _ _ => [slot]
  | .check slot _ _ => [slot]
  | .status slot => [slot]
  | .fence slot _ => [slot]

inductive Reply
  | acquire (reply : LeaseResult AcquireResult)
  | acquireAny (reply : LeaseResult AcquireAnyResult)
  | record (reply : LeaseResult LeaseRecord)
  | check (reply : LeaseResult CheckResult)
  | status (reply : LeaseResult LeaseStatus)
  | fence (reply : LeaseResult FenceVerdict)

/-- An operation that a process runs on a directory. -/
structure Call where
  process : Process
  dir : JsString
  options : StoreOptions
  fuel : Nat
  operation : Operation

namespace Call

def talk (call : Call) : Talk Reply :=
  let ⟨process, dir, options, fuel, operation⟩ := call
  match operation with
  | .acquire slot holder ttlSeconds =>
      .acquire <$> acquireLease process dir options fuel slot holder ttlSeconds
  | .acquireAny slots holder ttlSeconds =>
      .acquireAny <$> acquireAnyLease process dir options fuel slots holder ttlSeconds
  | .renew slot holder token ttlSeconds =>
      .record <$> renewLease process dir options fuel slot holder token ttlSeconds
  | .release slot holder token =>
      .record <$> releaseLease process dir options fuel slot holder token
  | .check slot holder token => .check <$> checkLease process dir options slot holder token
  | .status slot => .status <$> leaseStatus process dir options slot
  | .fence slot token => .fence <$> fenceAction process dir slot token

/-- The place of the directory. -/
def place (call : Call) : Place := call.process.place call.dir

end Call

/-- How the tree answers the questions of a call. -/
def storeAnswers : Answers Tree Ask AskAnswer
  | tree, .sys call, answer, after => FileTree.answers tree call answer after
  | tree, .clock, _, after => after = tree
  | tree, .locking lockDir .makeLock, answer, after =>
      @FileTree.answers Registry.FsError tree (.mkdirSync lockDir) answer after
  | tree, .locking _ .now, _, after => after = tree
  | tree, .locking _ (.wait _ _), _, after => after = tree
  | tree, .locking _ .random, _, after => after = tree
  -- An attempt at a lock asks nothing else.
  | _, .locking _ _, _, _ => True

end OdinSentinel.Lease.Store
