import OdinSentinel.Core.JsonIndented
import OdinSentinel.Protocol.ContextScript

/-!
# The instruction-read script

A role records the byte counts and digests of the files that it read in full, and the script
compares such a proof with what stands on disk.
-/

namespace OdinSentinel.InstructionRead

open JsText Host Json ContextScript

/-! ## The script's surroundings -/

/-- What stands outside of the script, with the texts of the errors that it shows. -/
structure World extends ScriptRuntime where
  disk : Disk
  usage : JsString
  /-- `new Date().toISOString()` -/
  now : JsString
  /-- `resolve(process.cwd(), path)` -/
  fromCwd : JsString → JsString
  readMessage : JsString → JsString
  parseMessage : JsString → JsString

/-- `readFileSync(path)`; a missing file, a directory or an unreadable one throws. -/
def World.readFileSync (world : World) (path : JsString) : Except JsString (List UInt8) :=
  match world.disk path with
  | .file bytes => .ok bytes
  | .missing | .notFile | .unreadable => .error (world.readMessage path)

def World.countLines (world : World) (bytes : List UInt8) : Nat :=
  ((world.utf8Text bytes).splitOn 10).length - 1

/-! ## Arguments -/

structure Args where
  positional : List JsString := []
  base : JsString := js "."
  role : JsString := js "UNDECLARED"
  json : Bool := false
  help : Bool := false
  record : Bool := false

def parseArgs : List JsString → Args → Args
  | [], args => args
  | arg :: rest, args =>
      if arg = js "--help" ∨ arg = js "-h" then parseArgs rest { args with help := true }
      else if arg = js "--json" then parseArgs rest { args with json := true }
      else if arg = js "--record" then parseArgs rest { args with record := true }
      else if arg = js "--base" then
        match rest with
        | [] => { args with base := js "." }
        | base :: rest => parseArgs rest { args with base := base }
      else if arg = js "--role" then
        match rest with
        | [] => { args with role := js "UNDECLARED" }
        | role :: rest => parseArgs rest { args with role := role }
      else parseArgs rest { args with positional := args.positional ++ [arg] }

/-! ## Recording -/

def recordEntry (world : World) (base path : JsString) : Except JsString JsValue := do
  let bytes ← world.readFileSync (resolveEntryPath base path)
  return .object
    [(js "path", .string path), (js "bytes", .number (.ofNat bytes.length)),
      (js "lines", .number (.ofNat (world.countLines bytes))),
      (js "sha256", .string (world.sha256 bytes)), (js "read", .string (js "full"))]

def recordProof (world : World) (files : List JsString) (base role : JsString) :
    Except JsString JsValue := do
  let entries ← files.mapM (recordEntry world base)
  return .object
    [(js "schema", .string (js "odin.instruction_read_proof.v1")), (js "role", .string role),
      (js "generated_at", .string world.now), (js "base", .string (js ".")),
      (js "file_count", .number (.ofNat entries.length)), (js "files", .array entries)]

/-! ## Verifying -/

structure EntryDetails where
  recordedBytes : Option JsNumber
  actualBytes : Nat
  recordedSha256 : Option JsString
  actualSha256 : JsString
  recordedLines : Option JsNumber
  actualLines : Nat

structure EntryResult where
  path : JsString
  reasons : List JsString
  details : Option EntryDetails

/-- `status === "PASS"`: an entry without a reason against it. -/
def EntryResult.passed (result : EntryResult) : Bool := result.reasons.isEmpty

def asNumber : JsValue → Option JsNumber
  | .number value => some value
  | _ => none

def entryPath (entry : JsValue) : JsString := ((entry.field (js "path")).asString).getD []

def digestReasons (world : World) (entry : JsValue) (bytes : List UInt8) : List JsString :=
  match (entry.field (js "sha256")).asString with
  | some recorded =>
      if trim recorded = [] then [js "proof entry is missing a sha256 digest"]
      else if recorded ≠ world.sha256 bytes then
        [js "sha256 mismatch (file changed, truncated, or only partially read)"]
      else []
  | none => [js "proof entry is missing a sha256 digest"]

def countReasons (world : World) (entry : JsValue) (bytes : List UInt8) : List JsString :=
  match asNumber (entry.field (js "bytes")) with
  | some recorded =>
      if recorded ≠ .ofNat bytes.length then
        [js "byte count mismatch: recorded " ++ world.numberText recorded ++ js ", actual " ++
          natText bytes.length]
      else []
  | none => []

/-- The reasons against an entry whose file was read. -/
def entryReasons (world : World) (entry : JsValue) (bytes : List UInt8) : List JsString :=
  digestReasons world entry bytes ++ countReasons world entry bytes

def verifyEntry (world : World) (base : JsString) (entry : JsValue) :
    Except JsString EntryResult :=
  let path := entryPath entry
  if trim path = [] then
    .ok ⟨if path = [] then js "<unknown>" else path, [js "proof entry is missing a path"], none⟩
  else
    match world.disk (resolveEntryPath base path) with
    | .missing | .notFile => .ok ⟨path, [js "file missing"], none⟩
    | .unreadable => .error (world.readMessage (resolveEntryPath base path))
    | .file bytes =>
        .ok ⟨path, entryReasons world entry bytes, some {
          recordedBytes := asNumber (entry.field (js "bytes"))
          actualBytes := bytes.length
          recordedSha256 := (entry.field (js "sha256")).asString
          actualSha256 := world.sha256 bytes
          recordedLines := asNumber (entry.field (js "lines"))
          actualLines := world.countLines bytes }⟩

structure ProofResult where
  base : JsString
  results : List EntryResult
  error : Option JsString

def ProofResult.passed (result : ProofResult) : Nat := result.results.countP EntryResult.passed

def ProofResult.ok (result : ProofResult) : Bool :=
  result.error.isNone && result.passed == result.results.length

def verifyProof (world : World) (proof : JsValue) (base : JsString) :
    Except JsString ProofResult :=
  match proof.field (js "files") with
  | .array (entry :: entries) => do
      let results ← (entry :: entries).mapM (verifyEntry world base)
      return ⟨base, results, none⟩
  | _ => .ok ⟨base, [], some (js "proof has no files[] entries")⟩

/-! ## The report -/

def ofNumber : Option JsNumber → JsValue
  | some value => .number value
  | none => .null

def EntryResult.toJson (result : EntryResult) : JsValue :=
  .object ([(js "path", .string result.path),
    (js "status", .string (js (if result.passed then "PASS" else "FAIL"))),
    (js "reasons", .array (result.reasons.map .string))] ++
    match result.details with
    | none => []
    | some details =>
        [(js "recordedBytes", ofNumber details.recordedBytes),
          (js "actualBytes", .number (.ofNat details.actualBytes)),
          (js "recordedSha256", .ofNullable details.recordedSha256),
          (js "actualSha256", .string details.actualSha256),
          (js "recordedLines", ofNumber details.recordedLines),
          (js "actualLines", .number (.ofNat details.actualLines))])

def ProofResult.toJson (result : ProofResult) : JsValue :=
  .object ([(js "ok", .bool result.ok), (js "base", .string result.base),
    (js "passed", .number (.ofNat result.passed)),
    (js "total", .number (.ofNat result.results.length)),
    (js "results", .array (result.results.map EntryResult.toJson))] ++
    match result.error with
    | none => []
    | some error => [(js "error", .string error)])

def EntryResult.line (result : EntryResult) : JsString :=
  match result.passed, result.details with
  | true, some details =>
      js "  [PASS] " ++ result.path ++ js " (" ++ natText details.actualBytes ++
        js " bytes, sha256 " ++ details.actualSha256.take 12 ++ js "…)"
  | _, _ => js "  [FAIL] " ++ result.path ++ js " — " ++ (js "; ").intercalate result.reasons

def ProofResult.lines (result : ProofResult) : List JsString :=
  [js "instruction-read verify (base: " ++ result.base ++ js ")"] ++
    (match result.error with
      | none => []
      | some error => [js "  ! " ++ error]) ++
    result.results.map EntryResult.line ++
    [natText result.passed ++ js "/" ++ natText result.results.length ++ js " files verified"]

/-! ## The script -/

/-- What the script writes, one text a call of the console, and its exit code. -/
structure Outcome where
  stdout : List JsString
  stderr : List JsString
  exit : Nat
  deriving DecidableEq

def usageError (message : JsString) : Outcome :=
  ⟨[], [message, js "run with --help for usage"], 2⟩

def verifyMain (world : World) (args : Args) (proofPath : JsString) : Outcome :=
  let unread := fun message : JsString =>
    ({ stdout := []
       stderr := [js "error: cannot read or parse proof file: " ++ message]
       exit := 2 } : Outcome)
  match world.readFileSync (world.fromCwd proofPath) with
  | .error message => unread message
  | .ok bytes =>
      let text := world.utf8Text bytes
      match Json.parse text with
      | none => unread (world.parseMessage text)
      | some proof =>
          match verifyProof world proof args.base with
          -- An error that nothing catches ends the process.
          | .error message => ⟨[], [message], 1⟩
          | .ok result =>
              ⟨if args.json then [indentedText world.toHostRuntime result.toJson]
                else result.lines, [], if result.ok then 0 else 1⟩

def main (world : World) (argv : List JsString) : Outcome :=
  let args := parseArgs argv { }
  if args.help then ⟨[world.usage], [], 0⟩
  else if args.record then
    match args.positional with
    | [] => usageError (js "error: --record requires at least one file path")
    | files =>
        match recordProof world files args.base args.role with
        | .error message => ⟨[], [js "error: " ++ message], 2⟩
        | .ok proof => ⟨[indentedText world.toHostRuntime proof], [], 0⟩
  else
    match args.positional with
    | [] | [] :: _ => usageError (js "error: missing <proof.json> argument")
    | proofPath :: _ => verifyMain world args proofPath

end OdinSentinel.InstructionRead
