import Mathlib.Data.List.Infix
import OdinSentinel.Core.Matching

/-!
# Replacing by a mark

A step that replaces pieces of a text by a mark makes the text lighter: a mark weighs
one, any other symbol two.  Replacements that go on from one another's result then leave
a text as it is only where each of them does.
-/

namespace OdinSentinel.Regex

variable {Symbol Value : Type}

/-! ## Steps that reduce a weight -/

/-- The step leaves a value as it is, or what it gives weighs less. -/
def Reduces (weight : Value → Nat) (step : Value → Value) : Prop :=
  ∀ value, step value = value ∨ weight (step value) < weight value

theorem foldl_reduces {weight : Value → Nat} {steps : List (Value → Value)}
    (hsteps : ∀ step ∈ steps, Reduces weight step) (value : Value) :
    (steps.foldl (fun value step => step value) value = value ∧
        ∀ step ∈ steps, step value = value) ∨
      weight (steps.foldl (fun value step => step value) value) < weight value := by
  induction steps generalizing value with
  | nil => exact .inl ⟨rfl, by simp⟩
  | cons step steps ih =>
      obtain ⟨hstep, hsteps⟩ := List.forall_mem_cons.mp hsteps
      rw [List.foldl_cons]
      rcases hstep value with hsame | hlighter
      · rw [hsame]
        refine (ih hsteps value).imp (fun ⟨hfold, hall⟩ => ⟨hfold, ?_⟩) id
        exact List.forall_mem_cons.mpr ⟨hsame, hall⟩
      · rcases ih hsteps (step value) with ⟨hfold, -⟩ | hfold
        · exact .inr (by rwa [hfold])
        · exact .inr (Nat.lt_trans hfold hlighter)

/-- Steps that reduce a weight leave a value as it is together where each does alone. -/
theorem foldl_eq_self_iff {weight : Value → Nat} {steps : List (Value → Value)}
    (hsteps : ∀ step ∈ steps, Reduces weight step) (value : Value) :
    steps.foldl (fun value step => step value) value = value ↔
      ∀ step ∈ steps, step value = value := by
  constructor
  · intro hfold
    rcases foldl_reduces hsteps value with ⟨-, hall⟩ | hlighter
    · exact hall
    · rw [hfold] at hlighter
      exact absurd hlighter (Nat.lt_irrefl _)
  · intro hall
    induction steps with
    | nil => rfl
    | cons step steps ih =>
        obtain ⟨hsame, hall⟩ := List.forall_mem_cons.mp hall
        rw [List.foldl_cons, hsame]
        exact ih (List.forall_mem_cons.mp hsteps).2 hall

/-! ## Marks in a text -/

variable [DecidableEq Symbol] {mark front back text : List Symbol} {first : Symbol}

/-- The places where the mark stands. -/
def occurrences (mark : List Symbol) : List Symbol → Nat
  | [] => 0
  | symbol :: text => occurrences mark text + if mark <+: symbol :: text then 1 else 0

omit [DecidableEq Symbol] in
/-- The mark lies across the end of a text, its back in the text behind it. -/
def Straddles (mark front back : List Symbol) : Prop :=
  ∃ left right, left ≠ [] ∧ right ≠ [] ∧ mark = left ++ right ∧ left <:+ front ∧ right <+: back

omit [DecidableEq Symbol] in
/-- The start of a text of two parts lies in the first, or is the first and a start of the
second. -/
theorem prefix_append_cases (hmark : mark <+: front ++ back) :
    mark <+: front ∨ ∃ right, right ≠ [] ∧ mark = front ++ right ∧ right <+: back := by
  rcases List.prefix_or_prefix_of_prefix hmark (List.prefix_append front back) with
    hshort | ⟨right, rfl⟩
  · exact .inl hshort
  · by_cases hright : right = []
    · rw [hright, List.append_nil]
      exact .inl (List.prefix_refl front)
    · exact .inr ⟨right, hright, rfl, (List.prefix_append_right_inj front).mp hmark⟩

theorem occurrences_append_ge (mark front back : List Symbol) :
    occurrences mark front + occurrences mark back ≤ occurrences mark (front ++ back) := by
  induction front with
  | nil => simp [occurrences]
  | cons symbol front ih =>
      have hleading : mark <+: symbol :: front → mark <+: symbol :: (front ++ back) :=
        fun hmark => hmark.trans (List.prefix_append _ back)
      rw [List.cons_append, occurrences, occurrences]
      split_ifs <;> first | omega | exact absurd (hleading ‹_›) ‹_›

theorem occurrences_append (happart : ¬Straddles mark front back) :
    occurrences mark (front ++ back) = occurrences mark front + occurrences mark back := by
  induction front with
  | nil => simp [occurrences]
  | cons symbol front ih =>
      have htail : ¬Straddles mark front back := by
        rintro ⟨left, right, hleft, hright, hmark, hsuffix, hleading⟩
        exact happart ⟨left, right, hleft, hright, hmark,
          hsuffix.trans (List.suffix_cons symbol front), hleading⟩
      have hleading : mark <+: symbol :: (front ++ back) ↔ mark <+: symbol :: front := by
        constructor
        · intro hmark
          rw [← List.cons_append] at hmark
          rcases prefix_append_cases hmark with hshort | ⟨right, hright, hsplit, hback⟩
          · exact hshort
          · exact absurd ⟨symbol :: front, right, List.cons_ne_nil _ _, hright, hsplit,
              List.suffix_refl _, hback⟩ happart
        · exact fun hmark => hmark.trans (List.prefix_append _ back)
      rw [List.cons_append, occurrences, occurrences, ih htail]
      simp only [hleading]
      omega

theorem occurrences_of_not_mem (hfirst : mark.head? = some first) (hfront : first ∉ front) :
    occurrences mark (front ++ back) = occurrences mark back := by
  induction front with
  | nil => rfl
  | cons symbol front ih =>
      have hnone : ¬mark <+: symbol :: (front ++ back) := by
        intro hmark
        obtain ⟨rest, rfl⟩ := List.head?_eq_some_iff.mp hfirst
        obtain ⟨rfl, -⟩ := List.cons_prefix_cons.mp hmark
        exact hfront List.mem_cons_self
      rw [List.cons_append, occurrences, if_neg hnone, Nat.add_zero]
      exact ih fun hmem => hfront (List.mem_cons_of_mem _ hmem)

/-- A mark whose first symbol does not come again in it. -/
def Unbordered (mark : List Symbol) : Prop :=
  ∃ first rest, mark = first :: rest ∧ first ∉ rest

theorem Unbordered.occurrences_append (hmark : Unbordered mark) (text : List Symbol) :
    occurrences mark (mark ++ text) = occurrences mark text + 1 := by
  obtain ⟨first, rest, rfl, hfirst⟩ := hmark
  have hhere : first :: rest <+: first :: (rest ++ text) := ⟨text, rfl⟩
  rw [List.cons_append, occurrences, if_pos hhere, occurrences_of_not_mem rfl hfirst]

omit [DecidableEq Symbol] in
theorem Unbordered.length_pos (hmark : Unbordered mark) : 0 < mark.length := by
  obtain ⟨first, rest, rfl, -⟩ := hmark
  exact Nat.succ_pos _

/-- Marks do not overlap. -/
theorem Unbordered.length_mul_le (hmark : Unbordered mark) (text : List Symbol) :
    mark.length * occurrences mark text ≤ text.length := by
  induction hlength : text.length using Nat.strongRecOn generalizing text with
  | _ length ih =>
    cases text with
    | nil => simp [occurrences]
    | cons symbol text =>
        subst hlength
        by_cases hhere : mark <+: symbol :: text
        · obtain ⟨rest, hrest⟩ := hhere
          have hpos := hmark.length_pos
          have hlength := congrArg List.length hrest
          rw [List.length_append, List.length_cons] at hlength
          have hbound := ih rest.length (by rw [List.length_cons]; omega) rest rfl
          rw [← hrest, hmark.occurrences_append, List.length_append, Nat.mul_add]
          omega
        · have hbound := ih text.length (Nat.lt_succ_self _) text rfl
          rw [occurrences, if_neg hhere, Nat.add_zero, List.length_cons]
          omega

/-! ## Weights -/

/-- A mark weighs one, any other symbol two. -/
def weight (mark text : List Symbol) : Nat :=
  occurrences mark text + 2 * (text.length - mark.length * occurrences mark text)

theorem weight_append_le (hmark : Unbordered mark) (front back : List Symbol) :
    weight mark (front ++ back) ≤ weight mark front + weight mark back := by
  have hfront := hmark.length_mul_le front
  have hback := hmark.length_mul_le back
  have hboth := hmark.length_mul_le (front ++ back)
  obtain ⟨more, hmore⟩ := Nat.exists_eq_add_of_le (occurrences_append_ge mark front back)
  have hcost : more ≤ mark.length * more := Nat.le_mul_of_pos_left _ hmark.length_pos
  have hmarks : mark.length * occurrences mark (front ++ back) =
      mark.length * occurrences mark front + mark.length * occurrences mark back +
        mark.length * more := by
    rw [hmore, Nat.mul_add, Nat.mul_add]
  rw [List.length_append] at hboth
  rw [weight, weight, weight, List.length_append]
  omega

theorem weight_append (hmark : Unbordered mark) (happart : ¬Straddles mark front back) :
    weight mark (front ++ back) = weight mark front + weight mark back := by
  have hfront := hmark.length_mul_le front
  have hback := hmark.length_mul_le back
  rw [weight, weight, weight, List.length_append, occurrences_append happart, Nat.mul_add]
  omega

theorem weight_mark (hmark : Unbordered mark) : weight mark mark = 1 := by
  have hone := hmark.occurrences_append []
  rw [List.append_nil] at hone
  rw [weight, hone]
  simp [occurrences]

theorem infix_of_occurrences (hsome : occurrences mark text ≠ 0) : mark <:+: text := by
  induction text with
  | nil => exact absurd rfl hsome
  | cons symbol text ih =>
      by_cases hhere : mark <+: symbol :: text
      · exact hhere.isInfix
      · rw [occurrences, if_neg hhere] at hsome
        exact (ih hsome).trans (List.suffix_cons symbol text).isInfix

/-- Nothing but the mark is as light as the mark. -/
theorem eq_mark_or_weight_lt (hmark : Unbordered mark) (htext : text ≠ []) :
    text = mark ∨ weight mark mark < weight mark text := by
  rw [weight_mark hmark]
  have hbound := hmark.length_mul_le text
  have hlength := List.length_pos_of_ne_nil htext
  by_cases hexact : mark.length * occurrences mark text < text.length
  · refine .inr ?_
    rw [weight]
    omega
  · have hequal : text.length = mark.length * occurrences mark text := by omega
    by_cases hmany : 1 < occurrences mark text
    · refine .inr ?_
      rw [weight]
      omega
    · have hone : occurrences mark text = 1 := by
        have hsome : occurrences mark text ≠ 0 := by
          intro hzero
          rw [hzero, Nat.mul_zero] at hequal
          omega
        omega
      rw [hone, Nat.mul_one] at hequal
      exact .inl ((infix_of_occurrences (by omega)).eq_of_length hequal.symm).symm

/-! ## Replaced pieces -/

variable {head tail : Pattern Symbol} {replacement : List Symbol}
variable {start middle stop : Cursor Symbol}

omit [DecidableEq Symbol] in
/-- The matcher finds the two parts one after the other. -/
def Finds (head tail : Pattern Symbol) (start middle stop : Cursor Symbol) : Prop :=
  (head.run start fun middle => tail.run middle fun stop => some (middle, stop)) =
    some (middle, stop)

/-- The text between two places. -/
def between (middle stop : Cursor Symbol) : List Symbol :=
  middle.rest.take (middle.rest.length - stop.rest.length)

/-- The pieces that `replaceFrom` replaces, from left to right. -/
def segmentsFrom (head tail : Pattern Symbol) : Nat → Cursor Symbol → List (List Symbol)
  | 0, _ => []
  | fuel + 1, cursor =>
      let step := match cursor.rest with
        | [] => []
        | symbol :: rest => segmentsFrom head tail fuel ⟨some symbol, rest⟩
      match head.run cursor fun middle => tail.run middle fun stop => some (middle, stop) with
      | none => step
      | some (middle, stop) =>
          between middle stop ::
            if stop.rest.length < cursor.rest.length then segmentsFrom head tail fuel stop else step

/-- The pieces that `replaceAll` replaces. -/
def segments (head tail : Pattern Symbol) (text : List Symbol) : List (List Symbol) :=
  segmentsFrom head tail (text.length + 1) ⟨none, text⟩

omit [DecidableEq Symbol] in
theorem Finds.matches (hfinds : Finds head tail start middle stop) :
    head.Matches start middle ∧ tail.Matches middle stop := by
  obtain ⟨found, hhead, hrest⟩ := head.run_eq_some hfinds
  obtain ⟨last, htail, hsome⟩ := tail.run_eq_some hrest
  cases Option.some.inj hsome
  exact ⟨hhead, htail⟩

omit [DecidableEq Symbol] in
theorem between_eq {taken : List Symbol} (hrest : middle.rest = taken ++ stop.rest) :
    between middle stop = taken := by
  rw [between, hrest, List.length_append, Nat.add_sub_cancel, List.take_left']
  rfl

/-- What is found stands apart from the marks around it, and is the replacement or heavier. -/
structure Lightens (mark replacement : List Symbol) (middle stop : Cursor Symbol) : Prop where
  cut : ∃ segment, segment ≠ [] ∧ middle.rest = segment ++ stop.rest ∧
    ¬Straddles mark segment stop.rest ∧
    (segment = replacement ∨ weight mark replacement < weight mark segment)
  apart : ∀ front : List Symbol, (∀ last ∈ front.getLast?, middle.before = some last) →
    ¬Straddles mark front middle.rest

/-- A text between two others adds its own weight at most. -/
theorem weight_between_le (hmark : Unbordered mark) (kept replacement text : List Symbol) :
    weight mark (kept ++ (replacement ++ text)) ≤
      weight mark kept + weight mark replacement + weight mark text := by
  have houter := weight_append_le hmark kept (replacement ++ text)
  have hinner := weight_append_le hmark replacement text
  omega

theorem replaceFrom_lightens (hmark : Unbordered mark)
    (hfinds : ∀ start middle stop, Finds head tail start middle stop →
      Lightens mark replacement middle stop)
    (fuel : Nat) (cursor : Cursor Symbol) (kept : List Symbol)
    (hkept : ∀ last ∈ kept.getLast?, cursor.before = some last) :
    ((∀ segment ∈ segmentsFrom head tail fuel cursor, segment = replacement) ∧
        replaceFrom head tail replacement fuel cursor = cursor.rest) ∨
      ((∃ segment ∈ segmentsFrom head tail fuel cursor, segment ≠ replacement) ∧
        weight mark (kept ++ replaceFrom head tail replacement fuel cursor) <
          weight mark (kept ++ cursor.rest)) := by
  induction fuel generalizing cursor kept with
  | zero => exact .inl ⟨by simp [segmentsFrom], rfl⟩
  | succ fuel ih =>
      rw [segmentsFrom, replaceFrom]
      cases hfound : head.run cursor fun middle => tail.run middle fun stop =>
          some (middle, stop) with
      | none =>
          dsimp only
          cases hrest : cursor.rest with
          | nil => exact .inl ⟨by simp, rfl⟩
          | cons symbol rest =>
              -- The symbol is kept, and with it all that stands before it.
              have hlast : ∀ last ∈ (kept ++ [symbol]).getLast?, some symbol = some last := by
                simp
              rcases ih ⟨some symbol, rest⟩ (kept ++ [symbol]) hlast with
                ⟨hall, hsame⟩ | ⟨hsome, hlighter⟩
              · exact .inl ⟨hall, congrArg (symbol :: ·) hsame⟩
              · rw [List.append_assoc, List.append_assoc] at hlighter
                exact .inr ⟨hsome, hlighter⟩
      | some found =>
          obtain ⟨middle, stop⟩ := found
          dsimp only
          have hmatches := Finds.matches hfound
          obtain ⟨⟨segment, hsegment, hmiddle, hbehind, hweight⟩, hapart⟩ :=
            hfinds cursor middle stop hfound
          obtain ⟨front, hfront, hbefore, -⟩ := hmatches.1.exists_taken
          have hshorter : stop.rest.length < cursor.rest.length := by
            have hpos := List.length_pos_of_ne_nil hsegment
            rw [hfront, hmiddle, List.length_append, List.length_append]
            omega
          have htaken : cursor.rest.take (cursor.rest.length - middle.rest.length) = front := by
            rw [hfront, List.length_append, Nat.add_sub_cancel, List.take_left']
            rfl
          have hlast : ∀ last ∈ (kept ++ front).getLast?, middle.before = some last := by
            intro last hlast
            rw [hbefore]
            rw [List.getLast?_append] at hlast
            rcases Option.or_eq_some_iff.mp hlast with hin | ⟨hnone, hin⟩
            · rw [hin, Option.some_or]
            · rw [hnone, Option.none_or]
              exact hkept last hin
          rw [if_pos hshorter, if_pos hshorter, between_eq hmiddle, htaken]
          -- The old text is cut at both ends of the piece, the new one where it likes.
          have hold : weight mark (kept ++ cursor.rest) =
              weight mark (kept ++ front) + weight mark segment + weight mark stop.rest := by
            rw [hfront, ← List.append_assoc, weight_append hmark (hapart _ hlast), hmiddle,
              weight_append hmark hbehind, Nat.add_assoc]
          have hnew : ∀ text, weight mark (kept ++ (front ++ replacement ++ text)) ≤
              weight mark (kept ++ front) + weight mark replacement + weight mark text := by
            intro text
            have hbound := weight_between_le hmark (kept ++ front) replacement text
            rw [List.append_assoc] at hbound
            rw [List.append_assoc front]
            exact hbound
          rcases ih stop [] (by simp) with ⟨hall, hsame⟩ | ⟨⟨found, hmem, hne⟩, hlighter⟩
          · rw [hsame]
            rcases hweight with rfl | hweight
            · refine .inl ⟨List.forall_mem_cons.mpr ⟨rfl, hall⟩, ?_⟩
              rw [hfront, hmiddle, List.append_assoc]
            · refine .inr ⟨⟨segment, List.mem_cons_self, ?_⟩, ?_⟩
              · rintro rfl
                exact absurd hweight (Nat.lt_irrefl _)
              · have hbound := hnew stop.rest
                omega
          · refine .inr ⟨⟨found, List.mem_cons_of_mem _ hmem, hne⟩, ?_⟩
            have hbound := hnew (replaceFrom head tail replacement fuel stop)
            have hle : weight mark replacement ≤ weight mark segment := by
              rcases hweight with rfl | hweight
              · exact Nat.le_refl _
              · exact Nat.le_of_lt hweight
            rw [List.nil_append, List.nil_append] at hlighter
            omega

theorem replaceAll_reduces (hmark : Unbordered mark)
    (hfinds : ∀ start middle stop, Finds head tail start middle stop →
      Lightens mark replacement middle stop) :
    Reduces (weight mark) (replaceAll head tail replacement) := by
  intro text
  rcases replaceFrom_lightens hmark hfinds (text.length + 1) ⟨none, text⟩ [] (by simp) with
    ⟨-, hsame⟩ | ⟨-, hlighter⟩
  · exact .inl hsame
  · exact .inr hlighter

/-- A text is left as it is where every replaced piece is the replacement already. -/
theorem replaceAll_eq_self_iff (hmark : Unbordered mark)
    (hfinds : ∀ start middle stop, Finds head tail start middle stop →
      Lightens mark replacement middle stop) (text : List Symbol) :
    replaceAll head tail replacement text = text ↔
      ∀ segment ∈ segments head tail text, segment = replacement := by
  rcases replaceFrom_lightens hmark hfinds (text.length + 1) ⟨none, text⟩ [] (by simp) with
    ⟨hall, hsame⟩ | ⟨⟨segment, hmem, hne⟩, hlighter⟩
  · exact ⟨fun _ => hall, fun _ => hsame⟩
  · constructor
    · intro hsame
      rw [List.nil_append, List.nil_append] at hlighter
      rw [replaceAll] at hsame
      rw [hsame] at hlighter
      exact absurd hlighter (Nat.lt_irrefl _)
    · intro hall
      exact absurd (hall segment hmem) hne

omit [DecidableEq Symbol] in
/-- Nothing is replaced where the pattern matches nowhere. -/
theorem segmentsFrom_eq_nil_iff {fuel : Nat} {cursor : Cursor Symbol}
    (hfuel : cursor.rest.length < fuel) :
    segmentsFrom head tail fuel cursor = [] ↔
      (Pattern.both head tail).testFrom cursor.before cursor.rest = false := by
  induction fuel generalizing cursor with
  | zero => exact absurd hfuel (Nat.not_lt_zero _)
  | succ fuel ih =>
      have hrun : ((Pattern.both head tail).run cursor some).isSome = true ↔
          (head.run cursor fun middle => tail.run middle fun stop =>
            some (middle, stop)).isSome = true := by
        simp only [Pattern.run_isSome, Pattern.Matches, Option.isSome_some, and_true]
        constructor
        · rintro ⟨stop, middle, hhead, htail⟩
          exact ⟨middle, hhead, stop, htail⟩
        · rintro ⟨middle, hhead, stop, htail⟩
          exact ⟨stop, middle, hhead, htail⟩
      obtain ⟨before, rest⟩ := cursor
      rw [segmentsFrom]
      cases hfound : head.run ⟨before, rest⟩ fun middle => tail.run middle fun stop =>
          some (middle, stop) with
      | none =>
          rw [hfound] at hrun
          have hnone : ((Pattern.both head tail).run ⟨before, rest⟩ some).isSome = false := by
            rw [Bool.eq_false_iff]
            exact fun hsome => absurd (hrun.mp hsome) (by simp)
          cases rest with
          | nil => simp [Pattern.testFrom, hnone]
          | cons symbol rest =>
              have hlater := @ih ⟨some symbol, rest⟩ (Nat.lt_of_succ_lt_succ hfuel)
              rw [Pattern.testFrom, hnone, Bool.false_or]
              exact hlater
      | some found =>
          rw [hfound] at hrun
          have hsome := hrun.mpr rfl
          cases rest with
          | nil => simp [Pattern.testFrom, hsome]
          | cons symbol rest => simp [Pattern.testFrom, hsome]

omit [DecidableEq Symbol] in
theorem segments_eq_nil_iff (text : List Symbol) :
    segments head tail text = [] ↔ (Pattern.both head tail).test text = false :=
  segmentsFrom_eq_nil_iff (Nat.lt_succ_self _)

omit [DecidableEq Symbol] in
/-- Every replaced piece was found at a place of the text. -/
theorem exists_finds_of_mem {fuel : Nat} {cursor : Cursor Symbol} {segment : List Symbol}
    (hmem : segment ∈ segmentsFrom head tail fuel cursor) :
    ∃ front start middle stop, cursor.rest = front ++ start.rest ∧
      start.before = front.getLast?.or cursor.before ∧ Finds head tail start middle stop ∧
      between middle stop = segment := by
  induction fuel generalizing cursor with
  | zero => cases hmem
  | succ fuel ih =>
      obtain ⟨before, rest⟩ := cursor
      have hstep : (segment ∈ match rest with
          | [] => []
          | symbol :: rest => segmentsFrom head tail fuel ⟨some symbol, rest⟩) →
          ∃ front start middle stop, rest = front ++ start.rest ∧
            start.before = front.getLast?.or before ∧ Finds head tail start middle stop ∧
            between middle stop = segment := by
        intro hlater
        cases rest with
        | nil => cases hlater
        | cons symbol rest =>
            obtain ⟨front, start, middle, stop, hrest, hbefore, hfound⟩ := ih hlater
            refine ⟨symbol :: front, start, middle, stop, congrArg (symbol :: ·) hrest, ?_, hfound⟩
            rw [getLast?_cons_or]
            exact hbefore
      rw [segmentsFrom] at hmem
      cases hfound : head.run ⟨before, rest⟩ fun middle => tail.run middle fun stop =>
          some (middle, stop) with
      | none =>
          rw [hfound] at hmem
          exact hstep hmem
      | some found =>
          obtain ⟨middle, stop⟩ := found
          rw [hfound] at hmem
          dsimp only at hmem
          rcases List.mem_cons.mp hmem with rfl | hmem
          · exact ⟨[], ⟨before, rest⟩, middle, stop, rfl, rfl, hfound, rfl⟩
          · split_ifs at hmem with hshorter
            · have hmatches := Finds.matches hfound
              have hboth : (Pattern.both head tail).Matches ⟨before, rest⟩ stop :=
                ⟨middle, hmatches.1, hmatches.2⟩
              obtain ⟨taken, hrest, hbefore, -⟩ := hboth.exists_taken
              obtain ⟨front, start, middle, last, hlater, hstart, hfinds⟩ := ih hmem
              refine ⟨taken ++ front, start, middle, last, ?_, ?_, hfinds⟩
              · rw [hlater] at hrest
                rw [List.append_assoc]
                exact hrest
              · rw [hstart, hbefore, List.getLast?_append, Option.or_assoc]
            · exact hstep hmem

/-- Where no replaced piece can be the replacement, a text is left as it is exactly where
the pattern matches nowhere in it. -/
theorem replaceAll_eq_self_iff_test (hmark : Unbordered mark)
    (hfinds : ∀ start middle stop, Finds head tail start middle stop →
      Lightens mark replacement middle stop) {text : List Symbol}
    (hother : ∀ front start middle stop, text = front ++ start.rest →
      start.before = front.getLast? → Finds head tail start middle stop →
      between middle stop ≠ replacement) :
    replaceAll head tail replacement text = text ↔
      (Pattern.both head tail).test text = false := by
  rw [replaceAll_eq_self_iff hmark hfinds, ← segments_eq_nil_iff, List.eq_nil_iff_forall_not_mem]
  refine forall_congr' fun segment => ⟨fun hsame hmem => ?_, fun hnone hmem => absurd hmem hnone⟩
  obtain ⟨front, start, middle, stop, htext, hbefore, hfound, hbetween⟩ := exists_finds_of_mem hmem
  rw [Option.or_none] at hbefore
  exact hother front start middle stop htext hbefore hfound (hbetween.trans (hsame hmem))

omit [DecidableEq Symbol] in
/-- A greedy run stops before a symbol that it does not take. -/
theorem runMany_greedy {Result : Type} {accept : Symbol → Bool}
    {next : Cursor Symbol → Option Result} {least : Nat} {before : Option Symbol}
    {result : Result} (hnext : ∀ cursor, (next cursor).isSome = true)
    (hrun : runMany accept next least before text = some result) :
    ∃ stop, next stop = some result ∧ ∀ symbol ∈ stop.rest.head?, accept symbol = false := by
  induction text generalizing least before with
  | nil =>
      rw [runMany] at hrun
      split_ifs at hrun
      exact ⟨⟨before, []⟩, hrun, by simp⟩
  | cons symbol text ih =>
      rw [runMany] at hrun
      by_cases haccept : accept symbol = true
      · rw [if_pos haccept] at hrun
        rcases eq_some_of_orElse hrun with hlater | hhere
        · exact ih hlater
        · -- A run that may end here may end behind the symbol too, and that is tried first.
          split_ifs at hhere with hleast
          have hsome : (runMany accept next (least - 1) (some symbol) text).isSome = true :=
            runMany_isSome.mpr ⟨⟨some symbol, text⟩,
              ⟨[], Nat.le_of_eq (by rw [hleast]; rfl), by simp, rfl, rfl⟩, hnext _⟩
          obtain ⟨later, hlater⟩ := Option.isSome_iff_exists.mp hsome
          rw [hlater] at hrun
          exact ih (hlater.trans hrun)
      · rw [if_neg haccept] at hrun
        split_ifs at hrun
        refine ⟨⟨before, symbol :: text⟩, hrun, fun found hfound => ?_⟩
        obtain rfl : symbol = found := Option.some.inj hfound
        exact Bool.eq_false_iff.mpr haccept

omit [DecidableEq Symbol] in
theorem Finds.greedy {accept : Symbol → Bool} {least : Nat}
    (hfinds : Finds head (.many least accept) start middle stop) :
    ∀ symbol ∈ stop.rest.head?, accept symbol = false := by
  obtain ⟨found, -, hrest⟩ := head.run_eq_some hfinds
  obtain ⟨last, hlast, hgreedy⟩ := runMany_greedy (fun cursor => rfl) hrest
  cases Option.some.inj hlast
  exact hgreedy

/-! ## Marks that stand apart -/

omit [DecidableEq Symbol] in
/-- A text whose last symbol ends the mark or is not in it holds no start of one. -/
theorem not_straddles_of_last (hlast : ∀ symbol ∈ front.getLast?, symbol ∉ mark.dropLast) :
    ¬Straddles mark front back := by
  rintro ⟨left, right, hleft, hright, rfl, ⟨before, rfl⟩, -⟩
  refine hlast (left.getLast hleft) ?_ ?_
  · rw [List.getLast?_append, List.getLast?_eq_some_getLast hleft]
    rfl
  · rw [List.dropLast_append_of_ne_nil hright]
    exact List.mem_append_left _ (List.getLast_mem hleft)

omit [DecidableEq Symbol] in
/-- A text whose first symbol begins the mark or is not in it holds no end of one. -/
theorem not_straddles_of_head (hhead : ∀ symbol ∈ back.head?, symbol ∉ mark.tail) :
    ¬Straddles mark front back := by
  rintro ⟨left, right, hleft, hright, rfl, -, hleading⟩
  obtain ⟨symbol, right, rfl⟩ := List.exists_cons_of_ne_nil hright
  obtain ⟨behind, rfl⟩ := hleading
  refine hhead symbol rfl ?_
  rw [List.tail_append_of_ne_nil hleft]
  exact List.mem_append_right _ List.mem_cons_self

omit [DecidableEq Symbol] in
/-- A text without the mark's first symbol holds no start of it. -/
theorem not_straddles_of_not_mem (hfirst : mark.head? = some first) (hfront : first ∉ front) :
    ¬Straddles mark front back := by
  rintro ⟨left, right, hleft, -, rfl, hsuffix, -⟩
  obtain ⟨head, left, rfl⟩ := List.exists_cons_of_ne_nil hleft
  obtain rfl : head = first := Option.some.inj hfirst
  exact hfront (hsuffix.subset List.mem_cons_self)

omit [DecidableEq Symbol] in
/-- A text whose start no mark goes on with holds no end of one. -/
theorem not_straddles_of_start {lead : List Symbol} (hlead : lead <+: back)
    (hmark : ∀ right ∈ mark.tail.tails, right ≠ [] → ¬right <+: lead ∧ ¬lead <+: right) :
    ¬Straddles mark front back := by
  rintro ⟨left, right, hleft, hright, rfl, -, hleading⟩
  have hmem : right ∈ (left ++ right).tail.tails := by
    rw [List.tail_append_of_ne_nil hleft, List.mem_tails]
    exact List.suffix_append _ _
  obtain ⟨hshort, hlong⟩ := hmark right hmem hright
  rcases List.prefix_or_prefix_of_prefix hleading hlead with hin | hin
  · exact hshort hin
  · exact hlong hin

/-! ## What the classes of the parts say -/

omit [DecidableEq Symbol] in
/-- Behind a head that no part of the mark but its end can end, no mark goes on. -/
theorem Finds.apart_of_mayEnd (hfinds : Finds head tail start middle stop)
    (hnullable : head.nullable = false)
    (hlast : ∀ symbol ∈ mark.dropLast, head.mayEnd symbol = false)
    (front : List Symbol) (hfront : ∀ last ∈ front.getLast?, middle.before = some last) :
    ¬Straddles mark front middle.rest := by
  obtain ⟨taken, -, hbefore, htakes⟩ := hfinds.matches.1.exists_taken
  apply not_straddles_of_last
  intro symbol hsymbol hmem
  have hend : taken.getLast? = some symbol := by
    have hmiddle := hfront symbol hsymbol
    rw [hbefore, List.getLast?_eq_some_getLast (htakes.nonempty hnullable), Option.some_or]
      at hmiddle
    rw [List.getLast?_eq_some_getLast (htakes.nonempty hnullable)]
    exact hmiddle
  have hmay := htakes.last symbol hend
  rw [hlast symbol hmem] at hmay
  cases hmay

omit [DecidableEq Symbol] in
/-- Where the tail cannot begin as the mark goes on, no mark goes on in it. -/
theorem Finds.apart_of_mayStart (hfinds : Finds head tail start middle stop)
    (hnullable : tail.nullable = false)
    (hfirst : ∀ symbol ∈ mark.tail, tail.mayStart symbol = false) (front : List Symbol) :
    ¬Straddles mark front middle.rest := by
  obtain ⟨taken, hrest, -, htakes⟩ := hfinds.matches.2.exists_taken
  apply not_straddles_of_head
  intro symbol hsymbol hmem
  have hstart : symbol ∈ taken.head? := by
    rw [hrest, List.head?_append_of_ne_nil _ (htakes.nonempty hnullable)] at hsymbol
    exact hsymbol
  have hmay := htakes.head symbol hstart
  rw [hfirst symbol hmem] at hmay
  cases hmay

omit [DecidableEq Symbol] in
theorem Finds.behind_of_accepts (hfinds : Finds head tail start middle stop)
    (hfirst : mark.head? = some first) (haccepts : tail.accepts first = false) :
    ¬Straddles mark (between middle stop) stop.rest := by
  obtain ⟨taken, hrest, -, htakes⟩ := hfinds.matches.2.exists_taken
  rw [between_eq hrest]
  apply not_straddles_of_not_mem hfirst
  intro hmem
  have haccepted := htakes.accepted first hmem
  rw [haccepts] at haccepted
  cases haccepted

omit [DecidableEq Symbol] in
theorem Finds.behind_of_mayEnd (hfinds : Finds head tail start middle stop)
    (hlast : ∀ symbol ∈ mark.dropLast, tail.mayEnd symbol = false) :
    ¬Straddles mark (between middle stop) stop.rest := by
  obtain ⟨taken, hrest, -, htakes⟩ := hfinds.matches.2.exists_taken
  rw [between_eq hrest]
  apply not_straddles_of_last
  intro symbol hsymbol hmem
  have hmay := htakes.last symbol hsymbol
  rw [hlast symbol hmem] at hmay
  cases hmay

omit [DecidableEq Symbol] in
theorem Finds.behind_of_greedy {accept : Symbol → Bool} {least : Nat}
    (hfinds : Finds head (.many least accept) start middle stop)
    (hmark : ∀ symbol ∈ mark.tail, accept symbol = true) :
    ¬Straddles mark (between middle stop) stop.rest := by
  apply not_straddles_of_head
  intro symbol hsymbol hmem
  have hrefused := hfinds.greedy symbol hsymbol
  rw [hmark symbol hmem] at hrefused
  cases hrefused

/-- A piece that stands apart and is replaced by the mark itself. -/
theorem Finds.lightens (hfinds : Finds head tail start middle stop) (hmark : Unbordered mark)
    (hnullable : tail.nullable = false)
    (hapart : ∀ front : List Symbol, (∀ last ∈ front.getLast?, middle.before = some last) →
      ¬Straddles mark front middle.rest)
    (hbehind : ¬Straddles mark (between middle stop) stop.rest) :
    Lightens mark mark middle stop := by
  obtain ⟨taken, hrest, -, htakes⟩ := hfinds.matches.2.exists_taken
  rw [between_eq hrest] at hbehind
  have hnonempty := htakes.nonempty hnullable
  exact ⟨⟨taken, hnonempty, hrest, hbehind, eq_mark_or_weight_lt hmark hnonempty⟩, hapart⟩

omit [DecidableEq Symbol] in
/-- A piece with a symbol that the replacement has not is none. -/
theorem Finds.between_ne_of_accepts (hfinds : Finds head tail start middle stop)
    (hmem : first ∈ replacement) (haccepts : tail.accepts first = false) :
    between middle stop ≠ replacement := by
  obtain ⟨taken, hrest, -, htakes⟩ := hfinds.matches.2.exists_taken
  rw [between_eq hrest]
  rintro rfl
  have haccepted := htakes.accepted first hmem
  rw [haccepts] at haccepted
  cases haccepted

/-- Two symbols that are not in the mark add their own weight to what stands between them. -/
theorem weight_wrapped (hmark : Unbordered mark) {symbol : Symbol} (hsymbol : symbol ∉ mark)
    (text : List Symbol) :
    weight mark (symbol :: text ++ [symbol]) = weight mark text + 4 := by
  have hnone : ∀ found ∈ [symbol].getLast?, found ∉ mark.dropLast := by
    intro found hfound hmem
    cases hfound
    exact hsymbol (List.dropLast_subset mark hmem)
  have hno : ∀ found ∈ [symbol].head?, found ∉ mark.tail := by
    intro found hfound hmem
    cases hfound
    exact hsymbol (List.mem_of_mem_tail hmem)
  have hsingle : weight mark [symbol] = 2 := by
    have hzero : occurrences mark [symbol] = 0 := by
      obtain ⟨first, rest, rfl, -⟩ := hmark
      have hother : ¬first :: rest <+: [symbol] := by
        intro hleading
        obtain ⟨rfl, -⟩ := List.cons_prefix_cons.mp hleading
        exact hsymbol List.mem_cons_self
      rw [occurrences, if_neg hother, occurrences]
    rw [weight, hzero]
    simp
  rw [weight_append hmark (not_straddles_of_head hno), ← List.singleton_append,
    weight_append hmark (not_straddles_of_last hnone), hsingle]
  omega

end OdinSentinel.Regex
