import Mathlib.Data.List.GetD
import Mathlib.Order.Compare
import Mathlib.Order.Lattice
import Mathlib.Order.Monotone.Basic

/-!
# Sequences with zeros behind them

Two sequences are compared at the first place where they differ; behind the end of the
shorter one stand zeros.
-/

namespace OdinSentinel.ZeroPadded

variable {α : Type*} [Zero α]

/-- The value at a place. -/
def entry (values : List α) (place : Nat) : α := values.getD place 0

@[simp]
theorem entry_nil (place : Nat) : entry ([] : List α) place = 0 := rfl

@[simp]
theorem entry_cons_zero (value : α) (values : List α) : entry (value :: values) 0 = value := rfl

@[simp]
theorem entry_cons_succ (value : α) (values : List α) (place : Nat) :
    entry (value :: values) (place + 1) = entry values place := rfl

theorem entry_tail (values : List α) (place : Nat) :
    entry values.tail place = entry values (place + 1) := by
  cases values with
  | nil => rfl
  | cons value values => rfl

/-- No place tells the sequences apart. -/
def Same (left right : List α) : Prop := ∀ place, entry left place = entry right place

theorem same_iff (left right : List α) :
    Same left right ↔ entry left 0 = entry right 0 ∧ Same left.tail right.tail := by
  constructor
  · intro hsame
    refine ⟨hsame 0, fun place => ?_⟩
    rw [entry_tail, entry_tail]
    exact hsame (place + 1)
  · rintro ⟨hhead, htail⟩ place
    cases place with
    | zero => exact hhead
    | succ place =>
        rw [← entry_tail, ← entry_tail]
        exact htail place

theorem same_append (shared : List α) {left right : List α} :
    Same (shared ++ left) (shared ++ right) ↔ Same left right := by
  induction shared with
  | nil => exact Iff.rfl
  | cons value shared ih =>
      rw [same_iff]
      exact (and_iff_right rfl).trans ih

section Order

variable [LinearOrder α]

/-- Lower at the first place where the sequences differ. -/
def Lower (left right : List α) : Prop :=
  ∃ place, (∀ earlier < place, entry left earlier = entry right earlier) ∧
    entry left place < entry right place

theorem lower_iff (left right : List α) :
    Lower left right ↔ entry left 0 < entry right 0 ∨
      entry left 0 = entry right 0 ∧ Lower left.tail right.tail := by
  constructor
  · rintro ⟨place, hearlier, hlower⟩
    cases place with
    | zero => exact .inl hlower
    | succ place =>
        refine .inr ⟨hearlier 0 place.succ_pos, place, fun earlier hlt => ?_, ?_⟩
        · rw [entry_tail, entry_tail]
          exact hearlier (earlier + 1) (Nat.succ_lt_succ hlt)
        · rw [entry_tail, entry_tail]
          exact hlower
  · rintro (hlower | ⟨hhead, place, hearlier, hlower⟩)
    · exact ⟨0, fun earlier hlt => absurd hlt (Nat.not_lt_zero earlier), hlower⟩
    · refine ⟨place + 1, fun earlier hlt => ?_, ?_⟩
      · cases earlier with
        | zero => exact hhead
        | succ earlier =>
            rw [← entry_tail, ← entry_tail]
            exact hearlier earlier (Nat.lt_of_succ_lt_succ hlt)
      · rw [← entry_tail, ← entry_tail]
        exact hlower

theorem lower_append (shared : List α) {left right : List α} :
    Lower (shared ++ left) (shared ++ right) ↔ Lower left right := by
  induction shared with
  | nil => exact Iff.rfl
  | cons value shared ih =>
      rw [lower_iff]
      exact (or_iff_right (lt_irrefl value)).trans ((and_iff_right rfl).trans ih)

/-- A strictly increasing reading that keeps zero keeps the order. -/
theorem lower_map {β : Type*} [Zero β] [LinearOrder β] {reading : α → β} (hzero : reading 0 = 0)
    (hreading : StrictMono reading) {left right : List α} :
    Lower (left.map reading) (right.map reading) ↔ Lower left right := by
  have hentry : ∀ values place, entry (values.map reading) place = reading (entry values place) := by
    intro values place
    rw [entry, entry, ← hzero, List.getD_map]
  simp only [Lower, hentry, hreading.lt_iff_lt, hreading.injective.eq_iff]

/-! ## The comparison -/

def order : List α → List α → Ordering
  | [], [] => .eq
  | left :: lefts, [] => (compare left 0).then (order lefts [])
  | [], right :: rights => (compare 0 right).then (order [] rights)
  | left :: lefts, right :: rights => (compare left right).then (order lefts rights)

theorem not_lower_nil : ¬Lower ([] : List α) [] :=
  fun ⟨_, _, hlower⟩ => lt_irrefl 0 hlower

theorem then_eq_lt_iff {first second : Ordering} :
    first.then second = .lt ↔ first = .lt ∨ first = .eq ∧ second = .lt := by
  cases first <;> simp [Ordering.then]

theorem then_eq_eq_iff {first second : Ordering} :
    first.then second = .eq ↔ first = .eq ∧ second = .eq := by
  cases first <;> simp [Ordering.then]

theorem order_eq_lt_iff {left right : List α} : order left right = .lt ↔ Lower left right := by
  induction left, right using order.induct with
  | case1 =>
      rw [order]
      exact iff_of_false Ordering.noConfusion not_lower_nil
  | case2 left lefts ih =>
      rw [order, then_eq_lt_iff, ih, compare_lt_iff_lt, compare_eq_iff_eq]
      exact (lower_iff (left :: lefts) []).symm
  | case3 right rights ih =>
      rw [order, then_eq_lt_iff, ih, compare_lt_iff_lt, compare_eq_iff_eq]
      exact (lower_iff [] (right :: rights)).symm
  | case4 left lefts right rights ih =>
      rw [order, then_eq_lt_iff, ih, compare_lt_iff_lt, compare_eq_iff_eq]
      exact (lower_iff (left :: lefts) (right :: rights)).symm

theorem order_eq_eq_iff {left right : List α} : order left right = .eq ↔ Same left right := by
  induction left, right using order.induct with
  | case1 =>
      rw [order]
      exact iff_of_true rfl fun _ => rfl
  | case2 left lefts ih =>
      rw [order, then_eq_eq_iff, ih, compare_eq_iff_eq]
      exact (same_iff (left :: lefts) []).symm
  | case3 right rights ih =>
      rw [order, then_eq_eq_iff, ih, compare_eq_iff_eq]
      exact (same_iff [] (right :: rights)).symm
  | case4 left lefts right rights ih =>
      rw [order, then_eq_eq_iff, ih, compare_eq_iff_eq]
      exact (same_iff (left :: lefts) (right :: rights)).symm

theorem order_swap (left right : List α) : (order left right).swap = order right left := by
  induction left, right using order.induct with
  | case1 =>
      rw [order]
      rfl
  | case2 left lefts ih => rw [order, order, Ordering.swap_then, ih, ← Std.OrientedCmp.eq_swap]
  | case3 right rights ih => rw [order, order, Ordering.swap_then, ih, ← Std.OrientedCmp.eq_swap]
  | case4 left lefts right rights ih =>
      rw [order, order, Ordering.swap_then, ih, ← Std.OrientedCmp.eq_swap]

/-- Sequences of one length are compared without zeros. -/
theorem compareLex_eq_order {left right : List α} (hlength : left.length = right.length) :
    List.compareLex compare left right = order left right := by
  induction left generalizing right with
  | nil =>
      obtain rfl := List.length_eq_zero_iff.mp hlength.symm
      rw [order]
      rfl
  | cons value left ih =>
      cases right with
      | nil => cases hlength
      | cons other right =>
          rw [List.compareLex_cons_cons, order, ih (Nat.succ.inj hlength)]

theorem order_eq_eq_iff_eq {left right : List α} (hlength : left.length = right.length) :
    order left right = .eq ↔ left = right := by
  rw [← compareLex_eq_order hlength, Std.LawfulEqCmp.compare_eq_iff_eq]

end Order

end OdinSentinel.ZeroPadded
