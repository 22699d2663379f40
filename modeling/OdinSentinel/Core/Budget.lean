import Mathlib.Algebra.Order.Floor.Div
import Mathlib.Tactic.Common

/-!
# Spending a budget

Steps that each take a portion of what is left, or all of it where less than a portion is
left.  Together they take no more than the budget, in as many steps as it has portions.
-/

namespace OdinSentinel.Budget

/-- Steps out of a budget; before and between them some of it may be lost. -/
inductive Spends (portion : Nat) : Nat → List Nat → Prop
  | stop (left : Nat) : Spends portion left []
  | spend {left current next : Nat} {steps : List Nat} (hcurrent : current ≤ left)
      (hpositive : 0 < current) (hnext : next ≤ current - min portion current)
      (hrest : Spends portion next steps) :
      Spends portion left (min portion current :: steps)

variable {portion left : Nat} {steps : List Nat}

theorem Spends.of_le {more : Nat} (hspends : Spends portion left steps) (hle : left ≤ more) :
    Spends portion more steps := by
  cases hspends with
  | stop left => exact .stop more
  | spend hcurrent hpositive hnext hrest =>
      exact .spend (hcurrent.trans hle) hpositive hnext hrest

theorem Spends.sum_le (hspends : Spends portion left steps) : steps.sum ≤ left := by
  induction hspends with
  | stop left => exact Nat.zero_le left
  | @spend left current next steps hcurrent hpositive hnext hrest ih =>
      calc
        (min portion current :: steps).sum = min portion current + steps.sum := List.sum_cons
        _ ≤ min portion current + (current - min portion current) :=
            Nat.add_le_add_left (ih.trans hnext) _
        _ = current := Nat.add_sub_of_le (Nat.min_le_right portion current)
        _ ≤ left := hcurrent

theorem Spends.length_le_of_le {count : Nat} (hspends : Spends portion left steps)
    (hcount : left ≤ portion * count) : steps.length ≤ count := by
  induction hspends generalizing count with
  | stop left => exact Nat.zero_le count
  | @spend left current next steps hcurrent hpositive hnext hrest ih =>
      cases count with
      | zero =>
          rw [Nat.mul_zero] at hcount
          omega
      | succ count =>
          rw [Nat.mul_succ] at hcount
          have hshorter : next ≤ portion * count := by omega
          exact Nat.succ_le_succ (ih hshorter)

/-- As many steps as the budget has portions, the last of which need not be whole. -/
theorem Spends.length_le (hspends : Spends portion left steps) (hportion : 0 < portion) :
    steps.length ≤ left ⌈/⌉ portion := by
  apply hspends.length_le_of_le
  rw [← ceilDiv_le_iff_le_mul hportion]

end OdinSentinel.Budget
