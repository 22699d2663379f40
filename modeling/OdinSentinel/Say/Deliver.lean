import OdinSentinel.Core.Dialogue
import OdinSentinel.Say.Screen

/-!
# Delivering a line

`deliver` as a dialogue with the pane and the clock.  An early return of the
source stops the attempt with its outcome; an attempt that is still polling a
busy pane when its fuel is spent stops without one.
-/

namespace OdinSentinel.Say

open RustText Dialogue

/-! ## Outcomes -/

inductive DeliveryState
  | deliveredAcked
  | deliveredNoAck
  | inputBarOnly
  | paneBlockedOnPermission
  | paneReadFailed
  | paneStillThinking
  | seatCapped
  deriving DecidableEq

def DeliveryState.text : DeliveryState → RustString
  | .deliveredAcked => rs "DELIVERED_ACKED"
  | .deliveredNoAck => rs "DELIVERED_NO_ACK"
  | .inputBarOnly => rs "INPUT_BAR_ONLY"
  | .paneBlockedOnPermission => rs "PANE_BLOCKED_ON_PERMISSION"
  | .paneReadFailed => rs "PANE_READ_FAILED"
  | .paneStillThinking => rs "PANE_STILL_THINKING"
  | .seatCapped => rs "SEAT_CAPPED"

def exitDelivered : Int := 0
def exitBlocked : Int := 2
def exitStillThinking : Int := 3
def exitStaleStuck : Int := 4
def exitSendFailed : Int := 5
def exitStuckAfterEnters : Int := 6
def exitQueueUnproven : Int := 7
def exitSeatCapped : Int := 10
def exitReadFailed : Int := 11

structure Outcome where
  state : DeliveryState
  submitted : Bool
  note : RustString
  exit : Int
  polls : UInt32
  waitedMs : UInt64
  queued : Bool
  resetAt : Option RustString
  capMarker : Option RustString
  harness : HarnessIdentity
  deriving DecidableEq

def refuse (state : DeliveryState) (submitted : Bool) (note : String) (exit : Int)
    (polls : UInt32) (waitedMs : UInt64) : Outcome where
  state := state
  submitted := submitted
  note := rs note
  exit := exit
  polls := polls
  waitedMs := waitedMs
  queued := false
  resetAt := none
  capMarker := none
  harness := .unknown

def delivered (state : DeliveryState) (note : String) (polls : UInt32) (waitedMs : UInt64) :
    Outcome where
  state := state
  submitted := true
  note := rs note
  exit := exitDelivered
  polls := polls
  waitedMs := waitedMs
  queued := false
  resetAt := none
  capMarker := none
  harness := .unknown

def queued (note : String) (polls : UInt32) : Outcome where
  state := .paneStillThinking
  submitted := true
  note := rs note
  exit := exitDelivered
  polls := polls
  waitedMs := 0
  queued := true
  resetAt := none
  capMarker := none
  harness := .unknown

/-! ## The pane and the clock -/

inductive Key
  | escape
  | enter
  deriving DecidableEq

inductive PaneAsk
  | readScreen
  | sendText (text : RustString)
  | sendKey (key : Key)
  | elapsedMs
  | sleep (ms : Nat)

/-- A read gives the raw screen or fails; a send tells whether it succeeded. -/
abbrev PaneAnswer : PaneAsk → Type
  | .readScreen => Option RustString
  | .sendText _ => Bool
  | .sendKey _ => Bool
  | .elapsedMs => UInt64
  | .sleep _ => Unit

abbrev Event := Exchange PaneAsk PaneAnswer

/-- An attempt that early returns stop with their outcome, and spent fuel with none. -/
abbrev Talk (Result : Type) := Attempt PaneAsk PaneAnswer (Option Outcome) Result

/-- One question to the pane or the clock. -/
def ask (question : PaneAsk) : Talk (PaneAnswer question) := Attempt.request question

/-- Milliseconds, as `as_millis` gives them. -/
structure DeliveryOptions where
  poll : Nat
  wait : Nat

/-- `u64::try_from(value).unwrap_or(u64::MAX)`. -/
def saturatingU64 (value : Nat) : UInt64 := UInt64.ofNat (min value (UInt64.size - 1))

/-- What the attempt carries along: the last screen, the reads made and the time waited. -/
structure Progress where
  screen : RustString
  polls : UInt32
  waitedMs : UInt64

variable (rules : PaneRules)

/-- An early return with a refusal. -/
def giveUp {Result : Type} (progress : Progress) (state : DeliveryState) (submitted : Bool)
    (note : String) (exit : Int) : Talk Result :=
  throw (some (refuse state submitted note exit progress.polls progress.waitedMs))

/-- Read the pane again, or give up. -/
def reread (progress : Progress) (submitted : Bool) (note : String) : Talk RustString := do
  match ← ask .readScreen with
  | some raw => pure (tail14 raw)
  | none => giveUp progress .paneReadFailed submitted note exitReadFailed

/-- Press a key and let some time pass. -/
def pressAndWait (key : Key) (ms : Nat) : Talk Unit := do
  let _ ← ask (.sendKey key)
  ask (.sleep ms)

def refuseBlocked {Result : Type} (progress : Progress) : Talk Result :=
  giveUp progress .paneBlockedOnPermission false "pre-send" exitBlocked

/-- A blocked pane is refused, after one Escape where its overlay is dismissible. -/
def clearOverlay (progress : Progress) : Talk Progress :=
  if blocked progress.screen rules then
    if contains progress.screen rules.dismissibleOverlay then do
      pressAndWait .escape 1000
      let screen ← reread progress false "read-failed-after-escape"
      let progress := { progress with screen := screen, polls := progress.polls + 1 }
      if blocked screen rules then refuseBlocked progress else pure progress
    else refuseBlocked progress
  else pure progress

/-- A queue harness is typed into while busy; it must show the text queued. -/
def sendQueued {Result : Type} (harness flat : RustString) (busyAt : UInt64)
    (progress : Progress) : Talk Result := do
  let now ← ask .elapsedMs
  let progress := { progress with waitedMs := now - busyAt }
  let sent ← ask (.sendText flat)
  if !sent then giveUp progress .inputBarOnly false "send-failed" exitSendFailed
  else do
    let _ ← ask (.sleep 1500)
    pressAndWait .enter 3000
    let readBack ← reread progress true "read-back-failed"
    if showsQueued readBack flat rules harness then throw (some (queued "queued" progress.polls))
    else giveUp progress .inputBarOnly true "queue-not-proven" exitQueueUnproven

/-- Poll until the pane is idle or the budget is spent; a blocked pane is refused. -/
def waitForIdle (pollMs budgetMs busyAt : UInt64) : Nat → Progress → Talk Progress
  | 0, _ => throw none
  | fuel + 1, progress => do
      let now ← ask .elapsedMs
      let waited := now - busyAt
      if budgetMs ≤ waited then pure progress
      else do
        let _ ← ask (.sleep (min pollMs (budgetMs - waited)).toNat)
        let screen ← reread progress false "read-failed-while-waiting"
        let progress := { progress with screen := screen, polls := progress.polls + 1 }
        if blocked screen rules then do
          let now ← ask .elapsedMs
          refuseBlocked { progress with waitedMs := now - busyAt }
        else if busy screen rules then waitForIdle pollMs budgetMs busyAt fuel progress
        else pure progress

/-- What a busy pane means under the harness's policy. -/
def passBusy (harness flat : RustString) (pollMs budgetMs : UInt64) (fuel : Nat)
    (progress : Progress) : Talk Progress :=
  if busy progress.screen rules then do
    let busyAt ← ask .elapsedMs
    match rules.midTurnFor harness with
    | .queue => sendQueued rules harness flat busyAt progress
    | .refuse => do
        let progress ← waitForIdle rules pollMs budgetMs busyAt fuel progress
        let now ← ask .elapsedMs
        let progress := { progress with waitedMs := now - busyAt }
        if busy progress.screen rules then
          giveUp progress .paneStillThinking false "pre-send" exitStillThinking
        else pure progress
  else pure progress

/-- A capped seat is refused with its marker and reset instant. -/
def refuseCapped (progress : Progress) : Talk Progress :=
  match capped progress.screen rules with
  | some hit => throw (some
      { refuse .seatCapped false "seat-capped" exitSeatCapped progress.polls progress.waitedMs with
        capMarker := some hit.marker
        resetAt := hit.resetAt })
  | none => pure progress

/-- Text that is already in the input bar is submitted first. -/
def submitStale (progress : Progress) : Talk Progress :=
  if staleInput progress.screen then do
    pressAndWait .enter 3000
    let screen ← reread progress false "read-failed-after-stale-enter"
    let progress := { progress with screen := screen }
    if blocked screen rules then refuseBlocked progress
    else if staleInput screen then
      giveUp progress .inputBarOnly false "stale-text-stuck" exitStaleStuck
    else pure progress
  else pure progress

/-- Whether the input bar shows the head of the message. -/
def inBar (screen head : RustString) : Bool := (inputBar screen).any fun bar => contains bar head

/-- The verdict on the last screen. -/
def verdict (head : RustString) (progress : Progress) : Outcome :=
  if busy progress.screen rules || contains progress.screen (rs "queued messages") then
    delivered .deliveredNoAck "processing" progress.polls progress.waitedMs
  else if contains progress.screen head then
    delivered .deliveredAcked "echoed" progress.polls progress.waitedMs
  else delivered .deliveredNoAck "prompt-clear" progress.polls progress.waitedMs

/-- One more Enter where the message is still in the input bar. -/
def enterAgain (head : RustString) (progress : Progress) : Talk Outcome :=
  if inBar progress.screen head then do
    pressAndWait .enter 3000
    let screen ← reread progress true "read-back-failed-after-second-enter"
    let progress := { progress with screen := screen }
    if inBar screen head && !answered screen head then
      giveUp progress .inputBarOnly true "after-2-enters" exitStuckAfterEnters
    else pure (verdict rules head progress)
  else pure (verdict rules head progress)

/-- Send the line, press Enter, read back. -/
def sendLine (flat : RustString) (progress : Progress) : Talk Outcome := do
  let sent ← ask (.sendText flat)
  if !sent then giveUp progress .inputBarOnly false "send-failed" exitSendFailed
  else do
    let _ ← ask (.sleep 1500)
    pressAndWait .enter 3000
    let screen ← reread progress true "read-back-failed"
    enterAgain rules (messageHead flat) { progress with screen := screen }

/-- Everything behind the first read. -/
def deliverFrom (harness flat : RustString) (opts : DeliveryOptions) (fuel : Nat)
    (progress : Progress) : Talk Outcome := do
  let pollMs := max (saturatingU64 opts.poll) 1
  let budgetMs := saturatingU64 opts.wait
  let progress ← clearOverlay rules progress
  let progress ← passBusy rules harness flat pollMs budgetMs fuel progress
  let progress ← refuseCapped rules progress
  let progress ← submitStale rules progress
  sendLine rules flat progress

/-- Deliver `text`; `none` where the pane is still being polled when the fuel is spent. -/
def deliver (selector : HarnessSelector) (text : RustString) (opts : DeliveryOptions)
    (fuel : Nat) : Program PaneAsk PaneAnswer (Option Outcome) := do
  match ← Program.request PaneAsk.readScreen with
  | none => pure (some
      { refuse .paneReadFailed false "read-failed" exitReadFailed 0 0 with
        harness := identify selector.flag selector.env [] rules })
  | some raw => do
      let screen := tail14 raw
      let identity := identify selector.flag selector.env screen rules
      let result ← (deliverFrom rules identity.harness (flatten text) opts fuel
        { screen := screen, polls := 1, waitedMs := 0 }).run
      match result with
      | .ok outcome => pure (some { outcome with harness := identity })
      | .error stop => pure (stop.map fun outcome => { outcome with harness := identity })

end OdinSentinel.Say
