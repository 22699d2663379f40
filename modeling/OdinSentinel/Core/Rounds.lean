import Mathlib.Order.Basic
import Mathlib.Tactic.Common

/-!
# Loops

A loop by its body: one round leaves the loop or goes on.  A loop whose rounds lower a measure
ends, and what its rounds keep holds at its end.
-/

namespace OdinSentinel.Rounds

variable {State : Type}

/-- How a round ends. -/
inductive Round (State : Type)
  | again (state : State)
  | leave (state : State)

/-- At most some rounds of a loop. -/
def run (body : State → Round State) : Nat → State → Option State
  | 0, _ => none
  | rounds + 1, state =>
      match body state with
      | .leave final => some final
      | .again next => run body rounds next

/-- Each round that goes on lowers a measure. -/
def Lowers (body : State → Round State) (measure : State → Nat) : Prop :=
  ∀ state next, body state = .again next → measure next < measure state

variable {body : State → Round State} {measure : State → Nat} {state final : State} {rounds : Nat}

theorem run_isSome (hlowers : Lowers body measure) (hrounds : measure state < rounds) :
    (run body rounds state).isSome = true := by
  induction rounds generalizing state with
  | zero => exact absurd hrounds (Nat.not_lt_zero _)
  | succ rounds ih =>
      rw [run]
      cases hbody : body state with
      | leave final => rfl
      | again next =>
          have hlower := hlowers state next hbody
          exact ih (by omega)

/-- More rounds change nothing. -/
theorem run_mono {more : Nat} (hrun : run body rounds state = some final) (hle : rounds ≤ more) :
    run body more state = some final := by
  induction rounds generalizing state more with
  | zero => cases hrun
  | succ rounds ih =>
      obtain ⟨more, rfl⟩ := Nat.exists_eq_add_of_le' (Nat.le_of_add_left_le hle)
      rw [run] at hrun ⊢
      cases hbody : body state with
      | leave found =>
          rw [hbody] at hrun
          exact hrun
      | again next =>
          rw [hbody] at hrun
          exact ih hrun (Nat.le_of_add_le_add_right hle)

/-- The end of a loop whose rounds lower a measure. -/
def finish (body : State → Round State) (measure : State → Nat) (hlowers : Lowers body measure)
    (state : State) : State :=
  (run body (measure state + 1) state).get (run_isSome hlowers (Nat.lt_succ_self _))

/-- The loop ends, within as many rounds as its measure allows. -/
theorem run_eq_finish (hlowers : Lowers body measure) (hrounds : measure state < rounds) :
    run body rounds state = some (finish body measure hlowers state) := by
  have hfinish : run body (measure state + 1) state = some (finish body measure hlowers state) := by
    rw [finish, Option.some_get]
  exact run_mono hfinish hrounds

/-- What the rounds keep, and what they leave behind. -/
structure Keeps (body : State → Round State) (invariant post : State → Prop) : Prop where
  again : ∀ state next, invariant state → body state = .again next → invariant next
  leave : ∀ state final, invariant state → body state = .leave final → post final

theorem Keeps.run {invariant post : State → Prop} (hkeeps : Keeps body invariant post)
    (hstate : invariant state) (hrun : Rounds.run body rounds state = some final) : post final := by
  induction rounds generalizing state with
  | zero => cases hrun
  | succ rounds ih =>
      rw [Rounds.run] at hrun
      cases hbody : body state with
      | leave found =>
          rw [hbody] at hrun
          cases hrun
          exact hkeeps.leave state _ hstate hbody
      | again next =>
          rw [hbody] at hrun
          exact ih (hkeeps.again state next hstate hbody) hrun

theorem Keeps.finish {invariant post : State → Prop} (hkeeps : Keeps body invariant post)
    (hlowers : Lowers body measure) (hstate : invariant state) :
    post (Rounds.finish body measure hlowers state) :=
  hkeeps.run hstate (run_eq_finish hlowers (Nat.lt_succ_self _))

end OdinSentinel.Rounds
