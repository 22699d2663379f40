import Mathlib.Data.List.Forall2
import Mathlib.Tactic.Common

/-!
# Fallible computations

Peeling a successful computation apart into the steps it went through.
-/

namespace OdinSentinel.Fallible

variable {Failure α β : Type*}

/-- A failure is no result; for failures whose texts are better left alone. -/
theorem error_ne_ok {failure : Failure} {result : α} :
    (Except.error failure : Except Failure α) ≠ .ok result := by
  intro hsame
  cases hsame

theorem bind_eq_ok {first : Except Failure α} {second : α → Except Failure β} {result : β} :
    first.bind second = .ok result ↔
      ∃ value, first = .ok value ∧ second value = .ok result := by
  cases first <;> simp [Except.bind]

/-- The same for `do` notation. -/
theorem do_eq_ok {Failure α β : Type} {first : Except Failure α} {second : α → Except Failure β}
    {result : β} :
    (do let value ← first; second value) = .ok result ↔
      ∃ value, first = .ok value ∧ second value = .ok result :=
  bind_eq_ok

/-- A list on each of whose items a step succeeds: the results, item by item. -/
theorem mapM_eq_ok_iff {Failure α β : Type} {step : α → Except Failure β} {items : List α}
    {results : List β} :
    items.mapM step = .ok results ↔
      List.Forall₂ (fun item result => step item = .ok result) items results := by
  induction items generalizing results with
  | nil =>
      rw [List.mapM_nil, List.forall₂_nil_left_iff]
      exact ⟨fun hsame => (Except.ok.inj hsame).symm, fun hsame => congrArg Except.ok hsame.symm⟩
  | cons item rest ih =>
      rw [List.mapM_cons, do_eq_ok, List.forall₂_cons_left_iff]
      constructor
      · rintro ⟨first, hfirst, hrest⟩
        obtain ⟨others, hothers, hresults⟩ := do_eq_ok.mp hrest
        exact ⟨first, others, hfirst, ih.mp hothers, (Except.ok.inj hresults).symm⟩
      · rintro ⟨first, others, hfirst, hothers, rfl⟩
        exact ⟨first, hfirst, do_eq_ok.mpr ⟨others, ih.mpr hothers, rfl⟩⟩

/-- A step succeeds on a list where it does on each of its items. -/
theorem exists_mapM_eq_ok {Failure α β : Type} {step : α → Except Failure β} {items : List α} :
    (∃ results, items.mapM step = .ok results) ↔ ∀ item ∈ items, ∃ result, step item = .ok result := by
  simp only [mapM_eq_ok_iff]
  induction items with
  | nil => simp
  | cons item rest ih =>
      rw [List.forall_mem_cons, ← ih]
      constructor
      · rintro ⟨results, hall⟩
        obtain ⟨first, others, hfirst, hothers, -⟩ := List.forall₂_cons_left_iff.mp hall
        exact ⟨⟨first, hfirst⟩, others, hothers⟩
      · rintro ⟨⟨first, hfirst⟩, others, hothers⟩
        exact ⟨first :: others, .cons hfirst hothers⟩

/-- A step has results of a kind where it has one on each of the items. -/
theorem exists_mapM_forall {Failure α β : Type} {step : α → Except Failure β} {good : β → Prop}
    {items : List α} :
    (∃ results, items.mapM step = .ok results ∧ ∀ result ∈ results, good result) ↔
      ∀ item ∈ items, ∃ result, step item = .ok result ∧ good result := by
  simp only [mapM_eq_ok_iff]
  induction items with
  | nil => simp
  | cons item rest ih =>
      rw [List.forall_mem_cons, ← ih]
      constructor
      · rintro ⟨results, hall, hgood⟩
        obtain ⟨first, others, hfirst, hothers, rfl⟩ := List.forall₂_cons_left_iff.mp hall
        exact ⟨⟨first, hfirst, hgood first List.mem_cons_self⟩, others, hothers,
          fun other hother => hgood other (List.mem_cons_of_mem _ hother)⟩
      · rintro ⟨⟨first, hfirst, hgood⟩, others, hothers, hrest⟩
        exact ⟨first :: others, .cons hfirst hothers, List.forall_mem_cons.mpr ⟨hgood, hrest⟩⟩

/-- Every result is one of an item. -/
theorem mem_of_mapM {Failure α β : Type} {step : α → Except Failure β} {items : List α}
    {results : List β} (hsteps : items.mapM step = .ok results) {result : β}
    (hmem : result ∈ results) : ∃ item ∈ items, step item = .ok result := by
  rw [mapM_eq_ok_iff] at hsteps
  induction hsteps with
  | nil => cases hmem
  | cons hstep _ ih =>
      rcases List.mem_cons.mp hmem with rfl | hmem
      · exact ⟨_, List.mem_cons_self, hstep⟩
      · obtain ⟨item, hitem, hstep⟩ := ih hmem
        exact ⟨item, List.mem_cons_of_mem _ hitem, hstep⟩

/-- What holds of every result in terms of what holds of every item. -/
theorem forall_results_iff {Failure α β : Type} {step : α → Except Failure β} {items : List α}
    {results : List β} (hsteps : items.mapM step = .ok results) {holds : β → Prop}
    {demand : α → Prop}
    (hiff : ∀ item result, step item = .ok result → result ∈ results →
      (holds result ↔ demand item)) :
    (∀ result ∈ results, holds result) ↔ ∀ item ∈ items, demand item := by
  rw [mapM_eq_ok_iff] at hsteps
  induction hsteps with
  | nil => simp only [List.not_mem_nil, false_implies, implies_true]
  | cons hstep _ ih =>
      rw [List.forall_mem_cons, List.forall_mem_cons, hiff _ _ hstep List.mem_cons_self,
        ih fun item result hstep hmem => hiff item result hstep (List.mem_cons_of_mem _ hmem)]

end OdinSentinel.Fallible
