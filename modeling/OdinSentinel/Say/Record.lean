import OdinSentinel.Core.JsText
import OdinSentinel.Say.Deliver

/-!
# Proof records

The record of one attempt and the command that makes it: no record, no send, and
an exit of zero only for what was delivered and written down.
-/

namespace OdinSentinel.Say

open RustText Dialogue JsText

def recordKindDelivery : RustString := rs "delivery"
def recordKindSendRefusal : RustString := rs "send_refusal"

def exitProofLogUnwritable : Int := 8
def exitProofRecordLost : Int := 9

structure ProofEntry where
  recordKind : RustString
  timestamp : RustString
  subcommand : RustString
  targetSurfaceLocator : RustString
  submitted : Bool
  verificationMethod : RustString
  observedProcessingState : RustString
  senderRole : RustString
  note : RustString
  polls : UInt32
  waitedMs : UInt64
  harness : RustString
  harnessSource : RustString
  queued : Bool
  resetAt : Option RustString
  capMarker : Option RustString

def ProofEntry.forOutcome (subcommand surface : RustString) (outcome : Outcome)
    (senderRole now : RustString) : ProofEntry where
  recordKind := if outcome.submitted then recordKindDelivery else recordKindSendRefusal
  timestamp := now
  subcommand := subcommand
  targetSurfaceLocator := surfaceLocator surface
  submitted := outcome.submitted
  verificationMethod := rs "read_screen"
  observedProcessingState := outcome.state.text
  senderRole := senderRole
  note := outcome.note
  polls := outcome.polls
  waitedMs := outcome.waitedMs
  harness := outcome.harness.harness
  harnessSource := outcome.harness.source.text
  queued := outcome.queued
  resetAt := outcome.resetAt
  capMarker := outcome.capMarker

/-- A Rust string as a script reads it from JSON. -/
def toScript (text : RustString) : JsString := text.flatMap fun char => utf16 char.toNat

def textValue (text : RustString) : JsValue := .string (toScript text)

/-- The object that a record's line denotes. -/
def ProofEntry.toJson (entry : ProofEntry) : JsValue := .object
  [(js "record_kind", textValue entry.recordKind),
    (js "timestamp", textValue entry.timestamp),
    (js "subcommand", textValue entry.subcommand),
    (js "target_surface_locator", textValue entry.targetSurfaceLocator),
    (js "submitted", .bool entry.submitted),
    (js "verification_method", textValue entry.verificationMethod),
    (js "observed_processing_state", textValue entry.observedProcessingState),
    (js "sender_role", textValue entry.senderRole),
    (js "note", textValue entry.note),
    (js "polls", .number (.ofNat entry.polls.toNat)),
    (js "waited_ms", .number (.ofNat entry.waitedMs.toNat)),
    (js "harness", textValue entry.harness),
    (js "harness_source", textValue entry.harnessSource),
    (js "queued", .bool entry.queued),
    (js "reset_at", (entry.resetAt.map textValue).getD .null),
    (js "cap_marker", (entry.capMarker.map textValue).getD .null)]

/-! ## The command -/

/-- One invocation: the surface as given, the words of the message, the sender's
role and the wait policy. -/
structure SayCommand where
  surface : RustString
  text : List RustString
  senderRole : RustString
  selector : HarnessSelector
  options : DeliveryOptions

/-- What the file system and the wall clock answer to one invocation. -/
structure Disk where
  preflight : Bool
  append : Bool
  nowUnix : UInt64

/-- How an invocation ended: its exit status, the outcome of its delivery and the
records that the proof log gained. -/
structure Finished where
  exit : Int
  outcome : Option Outcome
  appended : List ProofEntry

/-- `odin-say say`; `none` while the delivery is still polling. -/
def say (rules : PaneRules) (command : SayCommand) (disk : Disk) (fuel : Nat) :
    Program PaneAsk PaneAnswer (Option Finished) :=
  if !disk.preflight then
    pure (some { exit := exitProofLogUnwritable, outcome := none, appended := [] })
  else do
    match ← deliver rules command.selector (List.intercalate (rs " ") command.text)
      command.options fuel with
    | none => pure none
    | some outcome =>
        let entry := ProofEntry.forOutcome (rs "say") command.surface outcome command.senderRole
          (formatUtc disk.nowUnix)
        if disk.append then
          pure (some { exit := outcome.exit, outcome := some outcome, appended := [entry] })
        else
          pure (some { exit := exitProofRecordLost, outcome := some outcome, appended := [] })

end OdinSentinel.Say
