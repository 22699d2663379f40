import OdinSentinel.Core.RustText

/-!
# Pane rules

The rules table as data, and the identity of the harness behind a pane.
-/

namespace OdinSentinel.Say

open RustText

/-- What a busy pane means for one harness. -/
inductive MidTurn
  | queue
  | refuse
  deriving DecidableEq

structure CapMarker where
  id : RustString
  all : List RustString

structure CapRules where
  markers : List CapMarker
  outputMarkers : List RustString
  resetHeader : RustString

structure HarnessRules where
  detect : List RustString
  midTurn : MidTurn
  queueEvidence : List RustString

/-- The rules; `harnesses` lists the map in the order of its keys. -/
structure PaneRules where
  statusMarkers : List RustString
  busyWords : List RustString
  busyExclusions : List RustString
  spinnerGlyphs : RustString
  blocked : List RustString
  blockedExclusions : List RustString
  dismissibleOverlay : RustString
  harnesses : List (RustString × HarnessRules)
  capped : CapRules
  liveTailNonEmptyLines : Nat

namespace PaneRules

/-- The mid-turn policy of a harness; one the table does not know refuses. -/
def midTurnFor (rules : PaneRules) (harness : RustString) : MidTurn :=
  ((rules.harnesses.lookup harness).map HarnessRules.midTurn).getD .refuse

def queueEvidenceFor (rules : PaneRules) (harness : RustString) : List RustString :=
  ((rules.harnesses.lookup harness).map HarnessRules.queueEvidence).getD []

/-- The first harness whose detect markers appear on the screen. -/
def detectHarness (rules : PaneRules) (screen : RustString) : Option RustString :=
  (rules.harnesses.find? fun entry =>
    entry.2.detect.any fun marker => contains screen marker).map Prod.fst

end PaneRules

/-! ## Identity -/

inductive HarnessSource
  | flag
  | env
  | detected
  | unknown
  deriving DecidableEq

def HarnessSource.text : HarnessSource → RustString
  | .flag => rs "flag"
  | .env => rs "env"
  | .detected => rs "detected"
  | .unknown => rs "unknown"

structure HarnessSelector where
  flag : Option RustString
  env : Option RustString

structure HarnessIdentity where
  harness : RustString
  source : HarnessSource
  deriving DecidableEq

def HarnessIdentity.unknown : HarnessIdentity := ⟨rs "unknown", .unknown⟩

def nonEmpty (value : Option RustString) : Option RustString :=
  value.filter fun value => trim value != []

/-- The flag, then the environment, then what the pane shows. -/
def identify (flag env : Option RustString) (screen : RustString) (rules : PaneRules) :
    HarnessIdentity :=
  match nonEmpty flag with
  | some name => ⟨trim name, .flag⟩
  | none =>
      match nonEmpty env with
      | some name => ⟨trim name, .env⟩
      | none =>
          match rules.detectHarness screen with
          | some name => ⟨name, .detected⟩
          | none => .unknown

end OdinSentinel.Say
