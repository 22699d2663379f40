import Mathlib.Data.List.DropRight
import Mathlib.Data.List.Infix
import OdinSentinel.Core.ShellWords

/-!
# The governed send helper

The shell script that delivers a message to a named surface: its arguments, the flattening of
a message, the commands that it runs or, in a dry run, prints.  Its text tools work on bytes.
-/

namespace OdinSentinel.Send

open Shell

/-! ## Text tools -/

/-- `tr '\r\n\t' '   '` -/
def separatorsToSpaces (text : Bytes) : Bytes :=
  text.map fun byte => if byte = 13 ∨ byte = 10 ∨ byte = 9 then 32 else byte

/-- `tr -s ' '` -/
def squeezeSpaces : Bytes → Bytes
  | [] => []
  | [byte] => [byte]
  | byte :: next :: rest =>
      if byte = 32 ∧ next = 32 then squeezeSpaces (next :: rest)
      else byte :: squeezeSpaces (next :: rest)

/-- `sed 's/^ //; s/ $//'` on one line. -/
def stripSpaces (text : Bytes) : Bytes :=
  let text := if text.head? = some 32 then text.drop 1 else text
  if text.getLast? = some 32 then text.dropLast else text

def flatten (text : Bytes) : Bytes := stripSpaces (squeezeSpaces (separatorsToSpaces text))

/-- What `$( )` keeps of an output: no zero bytes, no newlines at the end. -/
def substituted (output : Bytes) : Bytes := (output.filter (· != 0)).rdropWhile (· == 10)

/-- The lines that a text tool reads; the last one need not end. -/
def lines (text : Bytes) : List Bytes :=
  let pieces := text.splitOn 10
  if pieces.getLast? = some [] then pieces.dropLast else pieces

/-- `cut -c1-40`, of which a line is a head where the message has more than one. -/
def messageHead (text : Bytes) : Bytes :=
  substituted ((lines text).flatMap fun line => line.take 40 ++ [10])

/-- `grep -qF`: a line of the text holds a line of the pattern. -/
def grepFixed (text pattern : Bytes) : Bool :=
  (lines text).any fun line => (pattern.splitOn 10).any fun part => decide (part <:+: line)

/-! ## Arguments -/

structure Options where
  profile : Bytes := []
  harness : Bytes := []
  workspace : Bytes := []
  surface : Bytes := []
  target : Bytes := []
  positional : Bytes := []
  flattenOnly : Bool := false
  dryRun : Bool := false
  verify : Bool := false
  verifyCmd : Bytes := []

/-- The script's early ends. -/
inductive Stop
  | help
  | refused (message : Bytes)

def refuse {α : Type} (message : Bytes) : Except Stop α :=
  .error (.refused (sh "cmux-send-governed.sh: " ++ message))

/-- The flags that stand alone. -/
def flag (arg : Bytes) : Option (Options → Options) :=
  if arg = sh "--flatten-only" then some fun options => { options with flattenOnly := true }
  else if arg = sh "--dry-run" then some fun options => { options with dryRun := true }
  else if arg = sh "--verify" then some fun options => { options with verify := true }
  else none

/-- The flags that take a value. -/
def valueFlag (arg : Bytes) : Option (Options → Bytes → Options) :=
  if arg = sh "--profile" then some fun options value => { options with profile := value }
  else if arg = sh "--harness" then some fun options value => { options with harness := value }
  else if arg = sh "--workspace" then some fun options value => { options with workspace := value }
  else if arg = sh "--surface" then some fun options value => { options with surface := value }
  else if arg = sh "--target" then some fun options value => { options with target := value }
  else if arg = sh "--verify-cmd" then some fun options value => { options with verifyCmd := value }
  else none

/-- An argument that is neither kind of flag. -/
def readPlain (arg : Bytes) (options : Options) : Except Stop Options :=
  if arg = sh "-h" ∨ arg = sh "--help" then .error .help
  else if (sh "--").isPrefixOf arg then refuse (sh "unknown argument: " ++ arg)
  else if options.positional = [] then .ok { options with positional := arg }
  else refuse (sh "unexpected extra positional argument: " ++ arg)

/-- The loop over the arguments. -/
def parseArgs (args : List Bytes) (options : Options) : Except Stop Options :=
  match args with
  | [] => .ok options
  | arg :: rest =>
      match flag arg with
      | some set => parseArgs rest (set options)
      | none =>
          match valueFlag arg with
          | some set =>
              match rest with
              | [] => refuse (arg ++ sh " requires a value")
              | value :: rest => parseArgs rest (set options value)
          | none =>
              match readPlain arg options with
              | .error stop => .error stop
              | .ok options => parseArgs rest options

/-- `--target <workspace>:<surface>`, for the halves that no flag gives. -/
def resolveTarget (options : Options) : Except Stop Options :=
  if options.target = [] then .ok options
  else if 58 ∈ options.target then
    .ok { options with
      workspace := if options.workspace = [] then options.target.takeWhile (· != 58)
        else options.workspace
      surface := if options.surface = [] then (options.target.dropWhile (· != 58)).drop 1
        else options.surface }
  else refuse (sh "--target must be <workspace>:<surface> (surface may be a ref or UUID)")

/-! ## The profile -/

inductive SubmitProfile
  | singleLineFlatten
  | doubleEnter
  | singleEnterVerify
  deriving DecidableEq

def SubmitProfile.text : SubmitProfile → Bytes
  | .singleLineFlatten => sh "single_line_flatten"
  | .doubleEnter => sh "double_enter"
  | .singleEnterVerify => sh "single_enter_verify"

def SubmitProfile.ofText (text : Bytes) : Option SubmitProfile :=
  [.singleLineFlatten, .doubleEnter, .singleEnterVerify].find? fun profile => profile.text = text

def isSpaceByte (byte : UInt8) : Bool := byte == 32 || (9 ≤ byte.toNat && byte.toNat ≤ 13)

/-- The value of a `submit_profile` member that starts the text. -/
def profileAt (text : Bytes) : Option Bytes :=
  let name := sh "\"submit_profile\""
  if name.isPrefixOf text then
    match (text.drop name.length).dropWhile isSpaceByte with
    | 58 :: rest =>
        match rest.dropWhile isSpaceByte with
        | 34 :: rest =>
            if 34 ∈ rest then some (rest.takeWhile (· != 34)) else none
        | _ => none
    | _ => none
  else none

/-- The last member of that name in a line, for `.*` takes as much as it can. -/
def lineProfile : Bytes → Option Bytes
  | [] => none
  | byte :: rest => (lineProfile rest).or (profileAt (byte :: rest))

/-- The `sed` and `head` that read a seed. -/
def seedProfile (text : Bytes) : Bytes :=
  match (lines text).findSome? lineProfile with
  | some profile => substituted profile
  | none => []

/-- The profile that the options name, or else the harness's seed. -/
def namedProfile (seed : Bytes → Option Bytes) (options : Options) : Bytes :=
  if options.profile = [] ∧ options.harness ≠ [] then
    match seed options.harness with
    | some text => seedProfile text
    | none => []
  else options.profile

def resolveProfile (seed : Bytes → Option Bytes) (options : Options) :
    Except Stop (Options × SubmitProfile) :=
  let profile := namedProfile seed options
  if profile = [] ∧ options.harness ≠ [] then
    refuse (sh "no submit_profile found for harness '" ++ options.harness ++
      sh "'; pass --profile")
  else if profile = [] then refuse (sh "--profile or --harness is required")
  else
    match SubmitProfile.ofText profile with
    | none => refuse (sh "unknown submit_profile: " ++ profile)
    | some submit =>
        if options.verify = true ∧ submit ≠ .singleEnterVerify then
          refuse (sh "--verify applies only to single_enter_verify")
        else .ok (options, submit)

/-! ## A send -/

/-- A message on its way to a surface that is named. -/
structure Message where
  workspace : Bytes
  surface : Bytes
  payload : Bytes
  profile : SubmitProfile
  verify : Bool
  verifyCmd : Bytes
  workspace_ne : workspace ≠ []
  surface_ne : surface ≠ []

def readMessage (options : Options) (profile : SubmitProfile) : Except Stop Message :=
  if hworkspace : options.workspace = [] then
    refuse (sh "--workspace is required for a send (no focus-dependent default is ever applied)")
  else if hsurface : options.surface = [] then
    refuse (sh "--surface (or --target <ws>:<surf>) is required for a send")
  else if options.positional = [] then
    refuse (sh "message text is required as a final positional argument")
  else
    .ok {
      workspace := options.workspace
      surface := options.surface
      payload := if profile = .singleLineFlatten then substituted (flatten options.positional)
        else options.positional
      profile := profile
      verify := options.verify
      verifyCmd := options.verifyCmd
      workspace_ne := hworkspace
      surface_ne := hsurface }

def Message.sendArgv (message : Message) : List Bytes :=
  [sh "send", sh "--workspace", message.workspace, sh "--surface", message.surface,
    message.payload]

def Message.sendKeyArgv (message : Message) : List Bytes :=
  [sh "send-key", sh "--workspace", message.workspace, sh "--surface", message.surface,
    sh "enter"]

def Message.readScreenArgv (message : Message) : List Bytes :=
  [sh "read-screen", sh "--workspace", message.workspace, sh "--surface", message.surface,
    sh "--lines", sh "80", sh "--scrollback"]

/-! ## A session -/

/-- A program that the script runs: `cmux` with its arguments, or the caller's own reader. -/
inductive Call
  | cmux (argv : List Bytes)
  | shell (command : Bytes)
  deriving DecidableEq

structure Reply where
  status : Nat
  output : Bytes

/-- What stands outside of the script: its usage text, the seeds, its input, and what a program
does after the ones that ran before. -/
structure World where
  usage : Bytes
  seed : Bytes → Option Bytes
  stdin : Bytes
  reply : List Call → Call → Reply

/-- Every program succeeds and says nothing. -/
def steadyWorld : World where
  usage := []
  seed := fun _ => none
  stdin := []
  reply := fun _ _ => ⟨0, []⟩

/-- A run of the script so far, with its exit status once it has one. -/
structure Session where
  calls : List Call := []
  stdout : Bytes := []
  stderr : Bytes := []
  exit : Option Nat := none

/-- Under `set -e` a failing `cmux` ends the script. -/
def Session.cmux (session : Session) (world : World) (argv : List Bytes) : Session :=
  match session.exit with
  | some _ => session
  | none =>
      let reply := world.reply session.calls (.cmux argv)
      { session with
        calls := session.calls ++ [.cmux argv]
        stdout := session.stdout ++ reply.output
        exit := if reply.status = 0 then none else some reply.status }

def Session.print (session : Session) (text : Bytes) : Session :=
  { session with stdout := session.stdout ++ text }

/-- `echo … >&2` -/
def Session.note (session : Session) (text : Bytes) : Session :=
  match session.exit with
  | some _ => session
  | none => { session with stderr := session.stderr ++ text ++ [10] }

def Session.finish (session : Session) (status : Nat) : Session :=
  match session.exit with
  | some _ => session
  | none => { session with exit := some status }

section Session

variable (session : Session) (text : Bytes) (status : Nat)

@[simp]
theorem Session.note_calls : (session.note text).calls = session.calls := by
  rw [Session.note]
  split <;> rfl

@[simp]
theorem Session.note_exit : (session.note text).exit = session.exit := by
  rw [Session.note]
  split <;> rfl

@[simp]
theorem Session.finish_calls : (session.finish status).calls = session.calls := by
  rw [Session.finish]
  split <;> rfl

@[simp]
theorem Session.finish_stdout : (session.finish status).stdout = session.stdout := by
  rw [Session.finish]
  split <;> rfl

theorem Session.finish_exit : (session.finish status).exit = some (session.exit.getD status) := by
  rw [Session.finish]
  cases hexit : session.exit with
  | some status => exact hexit
  | none => rfl

end Session

def Message.readback (message : Message) : Call :=
  if message.verifyCmd = [] then .cmux message.readScreenArgv else .shell message.verifyCmd

/-- The readback, and whether it still shows the head of the message. -/
def Message.readScreen (message : Message) (world : World) (calls : List Call) : Bool :=
  let reply := world.reply calls message.readback
  grepFixed (if reply.status = 0 then substituted reply.output else [])
    (messageHead message.payload)

def Message.asksReadback (message : Message) : Bool :=
  message.verify && message.profile == .singleEnterVerify &&
    !(messageHead message.payload).isEmpty

def shouldReenter (message : Message) (world : World) (session : Session) : Bool × Session :=
  if message.asksReadback then
    (message.readScreen world session.calls,
      { session with calls := session.calls ++ [message.readback] })
  else (false, session)

/-! ## The live run -/

def liveSend (world : World) (message : Message) : Session :=
  let session := ({ } : Session).cmux world message.sendArgv
  match message.profile with
  | .singleLineFlatten => session.cmux world message.sendKeyArgv
  | .singleEnterVerify =>
      let session := session.cmux world message.sendKeyArgv
      match session.exit with
      | some _ => session
      | none =>
          let asked := shouldReenter message world session
          if asked.1 then
            (asked.2.cmux world message.sendKeyArgv).note
              (sh "cmux-send-governed: verify-reEnter sent once (input bar still showed message head)")
          else asked.2
  | .doubleEnter => (session.cmux world message.sendKeyArgv).cmux world message.sendKeyArgv

/-! ## The dry run -/

def renderSend (message : Message) : Bytes :=
  sh "cmux send --workspace " ++ quote message.workspace ++ sh " --surface " ++
    quote message.surface ++ sh " " ++ quote message.payload ++ sh "\n"

def renderSendKey (message : Message) : Bytes :=
  sh "cmux send-key --workspace " ++ quote message.workspace ++ sh " --surface " ++
    quote message.surface ++ sh " enter\n"

def renderSendKeyAnnotated (message : Message) : Bytes :=
  sh "cmux send-key --workspace " ++ quote message.workspace ++ sh " --surface " ++
    quote message.surface ++
    sh " enter  # verify-reEnter: input bar still shows message head\n"

def drySend (world : World) (message : Message) : Session :=
  let session := ({ } : Session).print (renderSend message)
  match message.profile with
  | .singleLineFlatten => session.print (renderSendKey message)
  | .singleEnterVerify =>
      let session := session.print (renderSendKey message)
      let asked := shouldReenter message world session
      if asked.1 then asked.2.print (renderSendKeyAnnotated message) else asked.2
  | .doubleEnter => (session.print (renderSendKey message)).print (renderSendKey message)

/-! ## The script -/

def stopped (world : World) : Stop → Session
  | .help => { stdout := world.usage, exit := some 0 }
  | .refused message => { stderr := message ++ [10], exit := some 2 }

/-- `--flatten-only`: the input, flattened where the profile asks for it. -/
def flattenInput (world : World) (profile : SubmitProfile) : Session :=
  let payload := substituted world.stdin
  { stdout := if profile = .singleLineFlatten then flatten payload else payload
    exit := some 0 }

def prepare (world : World) (args : List Bytes) : Except Stop (Options × SubmitProfile) := do
  let options ← parseArgs args { }
  let options ← resolveTarget options
  resolveProfile world.seed options

def deliver (world : World) (options : Options) (profile : SubmitProfile) (message : Message) :
    Session :=
  if options.dryRun then (drySend world message).finish 0
  else
    ((liveSend world message).note (sh "cmux-send-governed: " ++
      sh (if options.verify then "delivered" else "sent") ++ sh " to workspace:" ++
      message.workspace ++ sh " surface:" ++ message.surface ++ sh " (profile=" ++ profile.text ++
      sh ")")).finish 0

def main (world : World) (args : List Bytes) : Session :=
  match prepare world args with
  | .error stop => stopped world stop
  | .ok (options, profile) =>
      if options.flattenOnly then flattenInput world profile
      else
        match readMessage options profile with
        | .error stop => stopped world stop
        | .ok message => deliver world options profile message

end OdinSentinel.Send
