import Mathlib.Data.List.Perm.Basic
import Mathlib.Order.Basic

/-!
# Sweeps by age

Items that expire, and lists from which the expired items are swept.  An item that has
expired stays so, and two sweeps one after the other are the later one.
-/

namespace OdinSentinel.Sweep

variable {Time Item : Type} (expired : Time → Item → Bool)

/-- What a sweep keeps. -/
def kept (time : Time) (items : List Item) : List Item :=
  items.filter fun item => !expired time item

/-- What a sweep removes. -/
def removed (time : Time) (items : List Item) : List Item :=
  items.filter (expired time)

/-- What has expired stays so. -/
def Ages [LE Time] : Prop :=
  ∀ {early late : Time}, early ≤ late → ∀ item, expired early item = true → expired late item = true

variable {expired}

theorem kept_append (time : Time) (left right : List Item) :
    kept expired time (left ++ right) = kept expired time left ++ kept expired time right :=
  List.filter_append left right

theorem removed_append (time : Time) (left right : List Item) :
    removed expired time (left ++ right) =
      removed expired time left ++ removed expired time right :=
  List.filter_append left right

/-- A sweep keeps all of a list in which nothing has expired. -/
theorem kept_of_fresh {time : Time} {items : List Item}
    (hfresh : ∀ item ∈ items, expired time item = false) : kept expired time items = items := by
  apply List.filter_eq_self.mpr
  intro item hitem
  rw [hfresh item hitem]
  rfl

theorem removed_of_fresh {time : Time} {items : List Item}
    (hfresh : ∀ item ∈ items, expired time item = false) : removed expired time items = [] := by
  apply List.filter_eq_nil_iff.mpr
  intro item hitem
  rw [hfresh item hitem]
  exact Bool.false_ne_true

theorem fresh_of_mem_kept {time : Time} {items : List Item} {item : Item}
    (hitem : item ∈ kept expired time items) : expired time item = false := by
  have hkept := (List.mem_filter.mp hitem).2
  rwa [Bool.not_eq_true'] at hkept

section Order

variable [LE Time] {early late : Time}

/-- A later sweep forgets an earlier one. -/
theorem kept_kept (hages : Ages expired) (hle : early ≤ late) (items : List Item) :
    kept expired late (kept expired early items) = kept expired late items := by
  rw [kept, kept, List.filter_filter]
  apply List.filter_congr
  intro item _
  cases hearly : expired early item with
  | false => rw [Bool.not_false, Bool.and_true]
  | true => rw [hages hle item hearly, Bool.not_true, Bool.and_false]

/-- Two sweeps remove together what the later one removes. -/
theorem removed_removed (hages : Ages expired) (hle : early ≤ late) (items : List Item) :
    (removed expired early items ++ removed expired late (kept expired early items)).Perm
      (removed expired late items) := by
  have hearly : removed expired early items =
      (removed expired late items).filter (expired early) := by
    rw [removed, removed, List.filter_filter]
    apply List.filter_congr
    intro item _
    cases hitem : expired early item with
    | false => rfl
    | true => rw [hages hle item hitem, Bool.and_true]
  have hlate : removed expired late (kept expired early items) =
      (removed expired late items).filter fun item => !expired early item := by
    rw [removed, kept, removed, List.filter_filter, List.filter_filter]
    apply List.filter_congr
    intro item _
    exact Bool.and_comm _ _
  rw [hearly, hlate]
  exact List.filter_append_perm (expired early) (removed expired late items)

end Order

end OdinSentinel.Sweep
