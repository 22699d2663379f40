import Mathlib.Data.List.Induction
import Mathlib.Data.List.Nodup

/-!
# Grouping

Values gathered under their keys, the keys in the order in which they were first seen.
-/

namespace OdinSentinel.Grouping

variable {Key Value : Type} [DecidableEq Key]

/-- One more value under its key. -/
def push (key : Key) (value : Value) : List (Key × List Value) → List (Key × List Value)
  | [] => [(key, [value])]
  | (found, values) :: rest =>
      if found = key then (found, values ++ [value]) :: rest
      else (found, values) :: push key value rest

/-- The values of each key. -/
def byKey (entries : List (Key × Value)) : List (Key × List Value) :=
  entries.foldl (fun groups entry => push entry.1 entry.2 groups) []

/-- The values that stand under a key. -/
def under (key : Key) (entries : List (Key × Value)) : List Value :=
  (entries.filter fun entry => entry.1 = key).map Prod.snd

theorem under_append (key : Key) (entries others : List (Key × Value)) :
    under key (entries ++ others) = under key entries ++ under key others := by
  rw [under, List.filter_append, List.map_append]
  rfl

theorem under_singleton (key : Key) (entry : Key × Value) :
    under key [entry] = if entry.1 = key then [entry.2] else [] := by
  by_cases hkey : entry.1 = key
  · simp [under, hkey]
  · simp [under, hkey]

theorem under_eq_nil {key : Key} {entries : List (Key × Value)}
    (habsent : key ∉ entries.map Prod.fst) : under key entries = [] := by
  rw [under, List.filter_eq_nil_iff.mpr, List.map_nil]
  intro entry hentry hkey
  rw [decide_eq_true_eq] at hkey
  exact habsent (hkey ▸ List.mem_map_of_mem hentry)

/-- A group is told by its key. -/
theorem push_keys (key : Key) (value : Value) (groups : List (Key × List Value)) :
    (push key value groups).map Prod.fst =
      if key ∈ groups.map Prod.fst then groups.map Prod.fst else groups.map Prod.fst ++ [key] := by
  induction groups with
  | nil => rfl
  | cons group rest ih =>
      obtain ⟨found, values⟩ := group
      rw [push]
      by_cases hfound : found = key
      · simp [hfound]
      · rw [if_neg hfound, List.map_cons, ih, List.map_cons]
        by_cases hrest : key ∈ rest.map Prod.fst
        · rw [if_pos hrest, if_pos (List.mem_cons_of_mem _ hrest)]
        · have hcons : key ∉ found :: rest.map Prod.fst :=
            List.not_mem_cons_of_ne_of_not_mem (Ne.symm hfound) hrest
          rw [if_neg hrest, if_neg hcons, List.cons_append]

/-- What `push` does to the groups whose keys differ. -/
theorem mem_push_iff {key : Key} {value : Value} {groups : List (Key × List Value)}
    (hnodup : (groups.map Prod.fst).Nodup) {group : Key × List Value} :
    group ∈ push key value groups ↔
      (group.1 ≠ key ∧ group ∈ groups) ∨
      (group.1 = key ∧ ((∃ values, (key, values) ∈ groups ∧ group.2 = values ++ [value]) ∨
        (key ∉ groups.map Prod.fst ∧ group.2 = [value]))) := by
  obtain ⟨groupKey, groupValues⟩ := group
  induction groups with
  | nil => simp [push]
  | cons head rest ih =>
      obtain ⟨found, values⟩ := head
      rw [List.map_cons, List.nodup_cons] at hnodup
      obtain ⟨hfresh, hrest⟩ := hnodup
      rw [push]
      by_cases hfound : found = key
      · subst hfound
        have hother : ∀ others, (found, others) ∉ rest :=
          fun others hmem => hfresh (List.mem_map.mpr ⟨_, hmem, rfl⟩)
        have hkey : ∀ others, (groupKey, others) ∈ rest → groupKey ≠ found :=
          fun others hmem hsame => hother others (hsame ▸ hmem)
        rw [if_pos rfl]
        simp only [List.mem_cons, Prod.mk.injEq, List.map_cons, true_or, not_true_eq_false,
          false_and, or_false]
        constructor
        · rintro (⟨rfl, rfl⟩ | hmem)
          · exact .inr ⟨rfl, values, .inl ⟨trivial, rfl⟩, rfl⟩
          · exact .inl ⟨hkey _ hmem, .inr hmem⟩
        · rintro (⟨hne, ⟨rfl, -⟩ | hmem⟩ | ⟨rfl, others, ⟨-, rfl⟩ | hmem, rfl⟩)
          · exact absurd rfl hne
          · exact .inr hmem
          · exact .inl ⟨rfl, rfl⟩
          · exact absurd hmem (hother others)
      · rw [if_neg hfound, List.mem_cons, ih hrest]
        simp only [List.mem_cons, Prod.mk.injEq, List.map_cons, not_or]
        have hne : key ≠ found := Ne.symm hfound
        constructor
        · rintro (⟨rfl, rfl⟩ | ⟨hdiffers, hmem⟩ | ⟨rfl, ⟨others, hmem, rfl⟩ | ⟨habsent, rfl⟩⟩)
          · exact .inl ⟨hfound, .inl ⟨rfl, rfl⟩⟩
          · exact .inl ⟨hdiffers, .inr hmem⟩
          · exact .inr ⟨rfl, .inl ⟨others, .inr hmem, rfl⟩⟩
          · exact .inr ⟨rfl, .inr ⟨⟨hne, habsent⟩, rfl⟩⟩
        · rintro (⟨hdiffers, ⟨rfl, rfl⟩ | hmem⟩ | ⟨rfl, ⟨others, ⟨hsame, -⟩ | hmem, rfl⟩ |
            ⟨⟨-, habsent⟩, rfl⟩⟩)
          · exact .inl ⟨rfl, rfl⟩
          · exact .inr (.inl ⟨hdiffers, hmem⟩)
          · exact absurd hsame hne
          · exact .inr (.inr ⟨rfl, .inl ⟨others, hmem, rfl⟩⟩)
          · exact .inr (.inr ⟨rfl, .inr ⟨habsent, rfl⟩⟩)

/-- The groups of some entries. -/
structure Grouped (entries : List (Key × Value)) (groups : List (Key × List Value)) : Prop where
  nodup : (groups.map Prod.fst).Nodup
  mem_keys : ∀ key, key ∈ groups.map Prod.fst ↔ key ∈ entries.map Prod.fst
  values_eq : ∀ group ∈ groups, group.2 = under group.1 entries

/-- One more entry. -/
theorem Grouped.push {entries : List (Key × Value)} {groups : List (Key × List Value)}
    (hgrouped : Grouped entries groups) (entry : Key × Value) :
    Grouped (entries ++ [entry]) (push entry.1 entry.2 groups) := by
  obtain ⟨key, value⟩ := entry
  refine ⟨?_, fun other => ?_, fun group hgroup => ?_⟩
  · rw [push_keys]
    by_cases hkey : key ∈ groups.map Prod.fst
    · rw [if_pos hkey]
      exact hgrouped.nodup
    · rw [if_neg hkey]
      rw [← List.concat_eq_append]
      exact hgrouped.nodup.concat hkey
  · rw [push_keys, List.map_append, List.map_singleton, List.mem_append, List.mem_singleton,
      ← hgrouped.mem_keys]
    by_cases hkey : key ∈ groups.map Prod.fst
    · rw [if_pos hkey]
      exact ⟨.inl, fun hother => hother.elim id fun hsame => hsame ▸ hkey⟩
    · rw [if_neg hkey, List.mem_append, List.mem_singleton]
  · rw [under_append, under_singleton]
    rcases (mem_push_iff hgrouped.nodup).mp hgroup with
      ⟨hdiffers, hmem⟩ | ⟨hsame, ⟨values, hmem, hvalues⟩ | ⟨habsent, hvalues⟩⟩
    · rw [if_neg (Ne.symm hdiffers), List.append_nil]
      exact hgrouped.values_eq group hmem
    · rw [if_pos hsame.symm, hvalues, hsame, ← hgrouped.values_eq _ hmem]
    · rw [if_pos hsame.symm, hvalues, hsame,
        under_eq_nil (mt (hgrouped.mem_keys key).mpr habsent), List.nil_append]

theorem grouped_byKey (entries : List (Key × Value)) : Grouped entries (byKey entries) := by
  induction entries using List.reverseRecOn with
  | nil => exact ⟨List.nodup_nil, fun _ => Iff.rfl, by rintro _ ⟨⟩⟩
  | append_singleton entries entry ih =>
      rw [byKey, List.foldl_append]
      exact ih.push entry

/-- Each key that was seen has one group, with its values in their order. -/
theorem mem_byKey_iff {entries : List (Key × Value)} {group : Key × List Value} :
    group ∈ byKey entries ↔
      group.1 ∈ entries.map Prod.fst ∧ group.2 = under group.1 entries := by
  have hgrouped := grouped_byKey entries
  constructor
  · intro hgroup
    exact ⟨(hgrouped.mem_keys _).mp (List.mem_map_of_mem hgroup), hgrouped.values_eq group hgroup⟩
  · rintro ⟨hkey, hvalues⟩
    obtain ⟨found, hfound, hsame⟩ := List.mem_map.mp ((hgrouped.mem_keys _).mpr hkey)
    have heq : found = group := by
      apply Prod.ext hsame
      rw [hvalues, ← hsame]
      exact hgrouped.values_eq found hfound
    exact heq ▸ hfound

end OdinSentinel.Grouping
