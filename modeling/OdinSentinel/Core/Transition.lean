import Mathlib.Order.Defs.PartialOrder
import Mathlib.Data.List.Basic

/-!
# Deterministic transition systems and their histories

A system is a state, a type of labels that carry everything the environment
decides, and the function `next` that applies a label.  A history records every
transition of a run, newest first, so that a property of "everything that came
before a step" is a property of the tail of the history behind that step.
-/

namespace OdinSentinel.Transition

variable {State Label : Type*}

/-- One step of a run, with the states on both sides of it. -/
structure Step (State Label : Type*) where
  before : State
  label : Label
  after : State

/-- The runs of `next` from `start`, with their histories (newest first). -/
inductive Run (next : State → Label → State) (start : State) :
    List (Step State Label) → State → Prop
  | nil : Run next start [] start
  | step {history : List (Step State Label)} {state : State} (label : Label)
      (hrun : Run next start history state) :
      Run next start (⟨state, label, next state label⟩ :: history) (next state label)

/-- The state and history after applying a list of labels, oldest label first. -/
def play (next : State → Label → State) :
    List (Step State Label) → State → List Label →
      List (Step State Label) × State
  | history, state, [] => (history, state)
  | history, state, label :: labels =>
      play next (⟨state, label, next state label⟩ :: history) (next state label) labels

/-- The states of a run, newest first. -/
def visited (history : List (Step State Label)) (final : State) : List State :=
  final :: history.map Step.before

variable {next : State → Label → State} {start : State}

theorem Run.play {history : List (Step State Label)} {state : State}
    (hrun : Run next start history state) (labels : List Label) :
    Run next start (Transition.play next history state labels).1
      (Transition.play next history state labels).2 := by
  induction labels generalizing history state with
  | nil => exact hrun
  | cons label labels ih => exact ih (hrun.step label)

/-- Every transition of a history applied `next`. -/
theorem Run.after_eq {history : List (Step State Label)} {final : State}
    (hrun : Run next start history final) :
    ∀ transition ∈ history,
      transition.after = next transition.before transition.label := by
  induction hrun with
  | nil => intro transition hmem; cases hmem
  | step label _ ih =>
      intro transition hmem
      rcases List.mem_cons.mp hmem with rfl | hmem
      · rfl
      · exact ih transition hmem

/-- The history behind a transition is itself the history of a run, ending in
the state the transition started from. -/
theorem Run.earlier {history : List (Step State Label)} {final : State}
    (hrun : Run next start history final)
    {later earlier : List (Step State Label)}
    {transition : Step State Label}
    (hsplit : history = later ++ transition :: earlier) :
    Run next start earlier transition.before := by
  induction hrun generalizing later with
  | nil => simp at hsplit
  | step label hprefix ih =>
      cases later with
      | nil =>
          obtain ⟨rfl, rfl⟩ := List.cons.inj hsplit
          exact hprefix
      | cons head later =>
          obtain ⟨-, htail⟩ := List.cons.inj hsplit
          exact ih htail

/-- Invariant rule: what holds of the empty history and is preserved by one
transition holds of every run. -/
theorem Run.invariant {motive : List (Step State Label) → State → Prop}
    (hstart : motive [] start)
    (hstep : ∀ history state label, Run next start history state →
      motive history state →
        motive (⟨state, label, next state label⟩ :: history) (next state label))
    {history : List (Step State Label)} {final : State}
    (hrun : Run next start history final) : motive history final := by
  induction hrun with
  | nil => exact hstart
  | step label hprefix ih => exact hstep _ _ label hprefix ih

/-- A measure that no label lowers is at least its value after any earlier
transition. -/
theorem Run.measure_le {Value : Type*} [Preorder Value] (measure : State → Value)
    (hmono : ∀ state label, measure state ≤ measure (next state label))
    {history : List (Step State Label)} {final : State}
    (hrun : Run next start history final) :
    ∀ transition ∈ history, measure transition.after ≤ measure final := by
  induction hrun with
  | nil => intro transition hmem; cases hmem
  | step label _ ih =>
      intro transition hmem
      rcases List.mem_cons.mp hmem with rfl | hmem
      · exact le_rfl
      · exact le_trans (ih transition hmem) (hmono _ label)

/-- A value that only marked steps change is the one that the last marked step set, or the
first one where no step was marked. -/
theorem Run.value_of_last {Value : Type*} (value : State → Value) (marks : State → Label → Prop)
    (hkeeps : ∀ state label, ¬marks state label → value (next state label) = value state)
    {history : List (Step State Label)} {final : State}
    (hrun : Run next start history final) :
    ((∀ step ∈ history, ¬marks step.before step.label) ∧ value final = value start) ∨
      ∃ later step earlier, history = later ++ step :: earlier ∧ marks step.before step.label ∧
        value final = value step.after := by
  induction hrun with
  | nil => exact .inl ⟨by simp, rfl⟩
  | @step history state label _ ih =>
      by_cases hmarks : marks state label
      · exact .inr ⟨[], _, history, rfl, hmarks, rfl⟩
      · rw [hkeeps state label hmarks]
        rcases ih with ⟨hnone, hstart⟩ | ⟨later, step, earlier, rfl, hstep⟩
        · exact .inl ⟨by simpa [hmarks] using hnone, hstart⟩
        · exact .inr ⟨_ :: later, step, earlier, rfl, hstep⟩

end OdinSentinel.Transition
