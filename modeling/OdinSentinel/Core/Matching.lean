import Mathlib.Data.List.Forall2
import OdinSentinel.Core.Regex

/-!
# What patterns match

The ways to match a pattern as a relation between places of a text.  The matcher tries
them in its order, and finds one wherever there is one.
-/

namespace OdinSentinel.Regex

variable {Symbol Result : Type}

/-- The ways to match a pattern from one place to another. -/
def Pattern.Matches : Pattern Symbol → Cursor Symbol → Cursor Symbol → Prop
  | .empty, start, stop => stop = start
  | .one accept, start, stop =>
      ∃ symbol, accept symbol = true ∧ start.rest = symbol :: stop.rest ∧ stop.before = some symbol
  | .many least accept, start, stop =>
      ∃ taken, least ≤ taken.length ∧ (∀ symbol ∈ taken, accept symbol = true) ∧
        start.rest = taken ++ stop.rest ∧ stop.before = taken.getLast?.or start.before
  | .either left right, start, stop => left.Matches start stop ∨ right.Matches start stop
  | .both left right, start, stop =>
      ∃ middle, left.Matches start middle ∧ right.Matches middle stop
  | .assertion holds, start, stop => holds start.before start.rest.head? = true ∧ stop = start

variable {accept : Symbol → Bool} {next : Cursor Symbol → Option Result}
variable {least : Nat} {before : Option Symbol} {symbol : Symbol} {text : List Symbol}

theorem getLast?_cons_or (symbol : Symbol) (taken : List Symbol) (before : Option Symbol) :
    (symbol :: taken).getLast?.or before = taken.getLast?.or (some symbol) := by
  rw [List.getLast?_cons]
  cases taken.getLast? <;> rfl

theorem many_nil {stop : Cursor Symbol} :
    (Pattern.many least accept).Matches ⟨before, []⟩ stop ↔ least = 0 ∧ stop = ⟨before, []⟩ := by
  constructor
  · rintro ⟨taken, hleast, -, hrest, hbefore⟩
    obtain ⟨rfl, hstop⟩ := List.append_eq_nil_iff.mp hrest.symm
    exact ⟨Nat.le_zero.mp hleast, by cases stop; simp_all⟩
  · rintro ⟨rfl, rfl⟩
    exact ⟨[], Nat.le_refl 0, by simp, rfl, rfl⟩

/-- A run ends here, or takes one more symbol. -/
theorem many_cons {stop : Cursor Symbol} :
    (Pattern.many least accept).Matches ⟨before, symbol :: text⟩ stop ↔
      (accept symbol = true ∧ (Pattern.many (least - 1) accept).Matches ⟨some symbol, text⟩ stop) ∨
        least = 0 ∧ stop = ⟨before, symbol :: text⟩ := by
  constructor
  · rintro ⟨taken, hleast, haccept, hrest, hbefore⟩
    cases taken with
    | nil => exact .inr ⟨Nat.le_zero.mp hleast, by cases stop; simp_all⟩
    | cons head taken =>
        obtain ⟨rfl, htail⟩ := List.cons.inj hrest
        rw [getLast?_cons_or] at hbefore
        obtain ⟨hhead, haccept⟩ := List.forall_mem_cons.mp haccept
        rw [List.length_cons] at hleast
        exact .inl ⟨hhead, taken, by omega, haccept, htail, hbefore⟩
  · rintro (⟨hhead, taken, hleast, haccept, hrest, hbefore⟩ | ⟨rfl, rfl⟩)
    · refine ⟨symbol :: taken, ?_, List.forall_mem_cons.mpr ⟨hhead, haccept⟩, ?_, ?_⟩
      · rw [List.length_cons]
        omega
      · rw [List.cons_append, ← hrest]
      · rw [getLast?_cons_or]
        exact hbefore
    · exact ⟨[], Nat.le_refl 0, by simp, rfl, rfl⟩

theorem isSome_orElse (first : Option Result) (second : Unit → Option Result) :
    (first.orElse second).isSome = true ↔ first.isSome = true ∨ (second ()).isSome = true := by
  cases first <;> simp [Option.orElse]

theorem runMany_isSome :
    (runMany accept next least before text).isSome = true ↔
      ∃ stop, (Pattern.many least accept).Matches ⟨before, text⟩ stop ∧
        (next stop).isSome = true := by
  induction text generalizing least before with
  | nil =>
      simp only [runMany, many_nil, and_assoc, exists_and_left, exists_eq_left]
      by_cases hleast : least = 0 <;> simp [hleast]
  | cons symbol text ih =>
      have hstop : (if least = 0 then next ⟨before, symbol :: text⟩ else none).isSome = true ↔
          least = 0 ∧ (next ⟨before, symbol :: text⟩).isSome = true := by
        by_cases hleast : least = 0 <;> simp [hleast]
      simp only [runMany, many_cons, or_and_right, exists_or, and_assoc, exists_and_left,
        exists_eq_left, ← ih]
      by_cases haccept : accept symbol = true
      · rw [if_pos haccept, isSome_orElse, hstop]
        simp only [haccept, true_and]
      · rw [if_neg haccept, hstop]
        simp only [haccept, Bool.false_eq_true, false_and, false_or]

/-- The matcher finds a way to match that lets `next` succeed wherever there is one. -/
theorem Pattern.run_isSome (pattern : Pattern Symbol) {start : Cursor Symbol}
    {next : Cursor Symbol → Option Result} :
    (pattern.run start next).isSome = true ↔
      ∃ stop, pattern.Matches start stop ∧ (next stop).isSome = true := by
  induction pattern generalizing start next with
  | empty => simp [run, Matches]
  | one accept =>
      obtain ⟨before, text⟩ := start
      cases text with
      | nil => simp [run, Matches]
      | cons symbol text =>
          rw [run]
          dsimp only
          constructor
          · intro hsome
            by_cases haccept : accept symbol = true
            · rw [if_pos haccept] at hsome
              exact ⟨_, ⟨symbol, haccept, rfl, rfl⟩, hsome⟩
            · rw [if_neg haccept] at hsome
              cases hsome
          · rintro ⟨⟨stopBefore, rest⟩, ⟨found, haccept, hrest, rfl⟩, hsome⟩
            obtain ⟨rfl, rfl⟩ := List.cons.inj hrest
            rw [if_pos haccept]
            exact hsome
  | many least accept => exact runMany_isSome
  | either left right ihLeft ihRight =>
      rw [run, isSome_orElse, ihLeft, ihRight]
      simp only [Matches, or_and_right, exists_or]
  | both left right ihLeft ihRight =>
      rw [run, ihLeft]
      simp only [Matches, ihRight]
      constructor
      · rintro ⟨middle, hleft, stop, hright, hsome⟩
        exact ⟨stop, ⟨middle, hleft, hright⟩, hsome⟩
      · rintro ⟨stop, ⟨middle, hleft, hright⟩, hsome⟩
        exact ⟨middle, hleft, stop, hright, hsome⟩
  | assertion holds =>
      rw [run]
      by_cases hholds : holds start.before start.rest.head? = true <;> simp [Matches, hholds]

theorem Pattern.testFrom_iff (pattern : Pattern Symbol) :
    pattern.testFrom before text = true ↔
      ∃ front back stop, text = front ++ back ∧
        pattern.Matches ⟨front.getLast?.or before, back⟩ stop := by
  induction text generalizing before with
  | nil =>
      simp only [testFrom, run_isSome, Option.isSome_some, and_true]
      constructor
      · rintro ⟨stop, hmatches⟩
        exact ⟨[], [], stop, rfl, hmatches⟩
      · rintro ⟨front, back, stop, hsplit, hmatches⟩
        obtain ⟨rfl, rfl⟩ := List.append_eq_nil_iff.mp hsplit.symm
        exact ⟨stop, hmatches⟩
  | cons symbol text ih =>
      rw [testFrom, Bool.or_eq_true, run_isSome, ih]
      simp only [Option.isSome_some, and_true]
      constructor
      · rintro (⟨stop, hmatches⟩ | ⟨front, back, stop, rfl, hmatches⟩)
        · exact ⟨[], symbol :: text, stop, rfl, hmatches⟩
        · refine ⟨symbol :: front, back, stop, rfl, ?_⟩
          rw [getLast?_cons_or]
          exact hmatches
      · rintro ⟨front, back, stop, hsplit, hmatches⟩
        cases front with
        | nil =>
            obtain rfl : symbol :: text = back := hsplit
            exact .inl ⟨stop, hmatches⟩
        | cons head front =>
            obtain ⟨rfl, rfl⟩ := List.cons.inj hsplit
            rw [getLast?_cons_or] at hmatches
            exact .inr ⟨front, back, stop, rfl, hmatches⟩

theorem eq_some_of_orElse {first : Option Result} {second : Unit → Option Result}
    {result : Result} (hsome : first.orElse second = some result) :
    first = some result ∨ second () = some result := by
  cases first with
  | none => exact .inr hsome
  | some value => exact .inl hsome

/-- What the matcher finds is a way to match, and what `next` makes of its end. -/
theorem runMany_eq_some {result : Result}
    (hrun : runMany accept next least before text = some result) :
    ∃ stop, (Pattern.many least accept).Matches ⟨before, text⟩ stop ∧ next stop = some result := by
  induction text generalizing least before with
  | nil =>
      rw [runMany] at hrun
      split_ifs at hrun with hleast
      exact ⟨_, many_nil.mpr ⟨hleast, rfl⟩, hrun⟩
  | cons symbol text ih =>
      have hstop : (if least = 0 then next ⟨before, symbol :: text⟩ else none) = some result →
          ∃ stop, (Pattern.many least accept).Matches ⟨before, symbol :: text⟩ stop ∧
            next stop = some result := by
        intro hhere
        split_ifs at hhere with hleast
        exact ⟨_, many_cons.mpr (.inr ⟨hleast, rfl⟩), hhere⟩
      rw [runMany] at hrun
      by_cases haccept : accept symbol = true
      · rw [if_pos haccept] at hrun
        rcases eq_some_of_orElse hrun with hlater | hhere
        · obtain ⟨stop, hmatches, hnext⟩ := ih hlater
          exact ⟨stop, many_cons.mpr (.inl ⟨haccept, hmatches⟩), hnext⟩
        · exact hstop hhere
      · rw [if_neg haccept] at hrun
        exact hstop hrun

theorem Pattern.run_eq_some (pattern : Pattern Symbol) {start : Cursor Symbol}
    {next : Cursor Symbol → Option Result} {result : Result}
    (hrun : pattern.run start next = some result) :
    ∃ stop, pattern.Matches start stop ∧ next stop = some result := by
  induction pattern generalizing start next with
  | empty => exact ⟨start, rfl, hrun⟩
  | one accept =>
      obtain ⟨before, text⟩ := start
      cases text with
      | nil => cases hrun
      | cons symbol text =>
          rw [run] at hrun
          dsimp only at hrun
          split_ifs at hrun with haccept
          exact ⟨_, ⟨symbol, haccept, rfl, rfl⟩, hrun⟩
  | many least accept => exact runMany_eq_some hrun
  | either left right ihLeft ihRight =>
      rcases eq_some_of_orElse hrun with hleft | hright
      · obtain ⟨stop, hmatches, hnext⟩ := ihLeft hleft
        exact ⟨stop, .inl hmatches, hnext⟩
      · obtain ⟨stop, hmatches, hnext⟩ := ihRight hright
        exact ⟨stop, .inr hmatches, hnext⟩
  | both left right ihLeft ihRight =>
      obtain ⟨middle, hleft, hrest⟩ := ihLeft hrun
      obtain ⟨stop, hright, hnext⟩ := ihRight hrest
      exact ⟨stop, ⟨middle, hleft, hright⟩, hnext⟩
  | assertion holds =>
      rw [run] at hrun
      split_ifs at hrun with hholds
      exact ⟨start, ⟨hholds, rfl⟩, hrun⟩

/-- A text passes where the pattern matches at some place in it. -/
theorem Pattern.test_iff (pattern : Pattern Symbol) :
    pattern.test text = true ↔
      ∃ front back stop, text = front ++ back ∧ pattern.Matches ⟨front.getLast?, back⟩ stop := by
  rw [test, testFrom_iff]
  simp only [Option.or_none]

/-! ## What a match takes -/

/-- Whether a match may take no symbol. -/
def Pattern.nullable : Pattern Symbol → Bool
  | .empty | .assertion _ => true
  | .one _ => false
  | .many least _ => least == 0
  | .either left right => left.nullable || right.nullable
  | .both left right => left.nullable && right.nullable

/-- Whether a match may take the symbol. -/
def Pattern.accepts (symbol : Symbol) : Pattern Symbol → Bool
  | .empty | .assertion _ => false
  | .one accept | .many _ accept => accept symbol
  | .either left right | .both left right => left.accepts symbol || right.accepts symbol

/-- Whether a match may begin with the symbol. -/
def Pattern.mayStart (symbol : Symbol) : Pattern Symbol → Bool
  | .empty | .assertion _ => false
  | .one accept | .many _ accept => accept symbol
  | .either left right => left.mayStart symbol || right.mayStart symbol
  | .both left right => left.mayStart symbol || (left.nullable && right.mayStart symbol)

/-- Whether a match may end with the symbol. -/
def Pattern.mayEnd (symbol : Symbol) : Pattern Symbol → Bool
  | .empty | .assertion _ => false
  | .one accept | .many _ accept => accept symbol
  | .either left right => left.mayEnd symbol || right.mayEnd symbol
  | .both left right => right.mayEnd symbol || (right.nullable && left.mayEnd symbol)

/-- What the classes of a pattern say of a piece that it takes. -/
structure Pattern.Takes (pattern : Pattern Symbol) (taken : List Symbol) : Prop where
  nonempty : pattern.nullable = false → taken ≠ []
  accepted : ∀ symbol ∈ taken, pattern.accepts symbol = true
  head : ∀ symbol ∈ taken.head?, pattern.mayStart symbol = true
  last : ∀ symbol ∈ taken.getLast?, pattern.mayEnd symbol = true

theorem Pattern.Takes.either {left right : Pattern Symbol} {taken : List Symbol}
    (htakes : left.Takes taken ∨ right.Takes taken) : (Pattern.either left right).Takes taken := by
  rcases htakes with htakes | htakes
  · refine ⟨fun hnullable => ?_, fun symbol hmem => ?_, fun symbol hmem => ?_,
      fun symbol hmem => ?_⟩
    · exact htakes.nonempty (Bool.or_eq_false_iff.mp hnullable).1
    · rw [accepts, htakes.accepted symbol hmem, Bool.true_or]
    · rw [mayStart, htakes.head symbol hmem, Bool.true_or]
    · rw [mayEnd, htakes.last symbol hmem, Bool.true_or]
  · refine ⟨fun hnullable => ?_, fun symbol hmem => ?_, fun symbol hmem => ?_,
      fun symbol hmem => ?_⟩
    · exact htakes.nonempty (Bool.or_eq_false_iff.mp hnullable).2
    · rw [accepts, htakes.accepted symbol hmem, Bool.or_true]
    · rw [mayStart, htakes.head symbol hmem, Bool.or_true]
    · rw [mayEnd, htakes.last symbol hmem, Bool.or_true]

theorem Pattern.Takes.both {left right : Pattern Symbol} {front back : List Symbol}
    (hfront : left.Takes front) (hback : right.Takes back) :
    (Pattern.both left right).Takes (front ++ back) := by
  refine ⟨fun hnullable => ?_, fun symbol hmem => ?_, fun symbol hmem => ?_, fun symbol hmem => ?_⟩
  · rw [nullable, Bool.and_eq_false_iff] at hnullable
    rcases hnullable with hnullable | hnullable
    · exact List.append_ne_nil_of_left_ne_nil (hfront.nonempty hnullable) back
    · exact List.append_ne_nil_of_right_ne_nil front (hback.nonempty hnullable)
  · rw [accepts]
    rcases List.mem_append.mp hmem with hmem | hmem
    · rw [hfront.accepted symbol hmem, Bool.true_or]
    · rw [hback.accepted symbol hmem, Bool.or_true]
  · rw [mayStart]
    cases front with
    | nil =>
        have hnullable : left.nullable = true := by
          by_contra hnot
          exact hfront.nonempty (Bool.eq_false_iff.mpr hnot) rfl
        rw [hnullable, hback.head symbol hmem, Bool.true_and, Bool.or_true]
    | cons first front => rw [hfront.head symbol hmem, Bool.true_or]
  · rw [mayEnd]
    rw [List.getLast?_append] at hmem
    by_cases hempty : back = []
    · have hnullable : right.nullable = true := by
        by_contra hnot
        exact hback.nonempty (Bool.eq_false_iff.mpr hnot) hempty
      rw [hempty] at hmem
      rw [hnullable, hfront.last symbol hmem, Bool.true_and, Bool.or_true]
    · rw [List.getLast?_eq_some_getLast hempty] at hmem
      have hlast := hback.last symbol (by rw [List.getLast?_eq_some_getLast hempty]; exact hmem)
      rw [hlast, Bool.true_or]

theorem Pattern.Takes.of_forall {pattern : Pattern Symbol} {taken : List Symbol}
    (hnonempty : pattern.nullable = false → taken ≠ [])
    (haccept : ∀ symbol ∈ taken, pattern.accepts symbol = true ∧
      pattern.mayStart symbol = true ∧ pattern.mayEnd symbol = true) : pattern.Takes taken where
  nonempty := hnonempty
  accepted symbol hmem := (haccept symbol hmem).1
  head symbol hmem := (haccept symbol (List.mem_of_head? hmem)).2.1
  last symbol hmem := (haccept symbol (List.mem_of_getLast? hmem)).2.2

/-- A match takes a piece of the text from its start on. -/
theorem Pattern.Matches.exists_taken {pattern : Pattern Symbol} {start stop : Cursor Symbol}
    (hmatches : pattern.Matches start stop) :
    ∃ taken, start.rest = taken ++ stop.rest ∧ stop.before = taken.getLast?.or start.before ∧
      pattern.Takes taken := by
  induction pattern generalizing start stop with
  | empty =>
      cases hmatches
      exact ⟨[], rfl, rfl, .of_forall (fun hnullable => by cases hnullable) (by simp)⟩
  | one accept =>
      obtain ⟨symbol, haccept, hrest, hbefore⟩ := hmatches
      refine ⟨[symbol], hrest, hbefore, .of_forall (fun _ => List.cons_ne_nil _ _) ?_⟩
      intro found hfound
      rw [List.mem_singleton.mp hfound]
      exact ⟨haccept, haccept, haccept⟩
  | many least accept =>
      obtain ⟨taken, hleast, haccept, hrest, hbefore⟩ := hmatches
      refine ⟨taken, hrest, hbefore, .of_forall (fun hnullable => ?_) fun symbol hmem => ?_⟩
      · rintro rfl
        rw [Nat.le_zero.mp hleast] at hnullable
        cases hnullable
      · exact ⟨haccept symbol hmem, haccept symbol hmem, haccept symbol hmem⟩
  | either left right ihLeft ihRight =>
      rcases hmatches with hleft | hright
      · obtain ⟨taken, hrest, hbefore, htakes⟩ := ihLeft hleft
        exact ⟨taken, hrest, hbefore, .either (.inl htakes)⟩
      · obtain ⟨taken, hrest, hbefore, htakes⟩ := ihRight hright
        exact ⟨taken, hrest, hbefore, .either (.inr htakes)⟩
  | both left right ihLeft ihRight =>
      obtain ⟨middle, hleft, hright⟩ := hmatches
      obtain ⟨front, hfront, hmiddle, hfrontTakes⟩ := ihLeft hleft
      obtain ⟨back, hback, hstop, hbackTakes⟩ := ihRight hright
      refine ⟨front ++ back, ?_, ?_, .both hfrontTakes hbackTakes⟩
      · rw [hfront, hback, List.append_assoc]
      · rw [hstop, hmiddle, List.getLast?_append, Option.or_assoc]
  | assertion holds =>
      obtain ⟨-, rfl⟩ := hmatches
      exact ⟨[], rfl, rfl, .of_forall (fun hnullable => by cases hnullable) (by simp)⟩

/-- Parts one after the other match where the later ones match behind the others. -/
theorem Pattern.all_append_matches {parts later : List (Pattern Symbol)}
    {start stop : Cursor Symbol} :
    (Pattern.all (parts ++ later)).Matches start stop ↔
      ∃ middle, (Pattern.all parts).Matches start middle ∧
        (Pattern.all later).Matches middle stop := by
  induction parts generalizing start with
  | nil =>
      constructor
      · exact fun hlater => ⟨start, rfl, hlater⟩
      · rintro ⟨_, rfl, hlater⟩
        exact hlater
  | cons part parts ih =>
      constructor
      · rintro ⟨first, hpart, hrest⟩
        obtain ⟨middle, hparts, hlater⟩ := ih.mp hrest
        exact ⟨middle, ⟨first, hpart, hparts⟩, hlater⟩
      · rintro ⟨middle, ⟨first, hpart, hparts⟩, hlater⟩
        exact ⟨first, hpart, ih.mpr ⟨middle, hparts, hlater⟩⟩

/-- A text passes a pattern of two parts where the second matches behind the first. -/
theorem Pattern.test_both_iff (head tail : Pattern Symbol) :
    (Pattern.both head tail).test text = true ↔
      ∃ front back middle, text = front ++ back ∧
        head.Matches ⟨front.getLast?, back⟩ middle ∧ ∃ stop, tail.Matches middle stop := by
  rw [test_iff]
  constructor
  · rintro ⟨front, back, stop, htext, middle, hhead, htail⟩
    exact ⟨front, back, middle, htext, hhead, stop, htail⟩
  · rintro ⟨front, back, middle, htext, hhead, stop, htail⟩
    exact ⟨front, back, stop, htext, middle, hhead, htail⟩

theorem Pattern.test_both_empty (pattern : Pattern Symbol) (text : List Symbol) :
    (Pattern.both .empty pattern).test text = pattern.test text := by
  rw [Bool.eq_iff_iff, test_iff, test_iff]
  simp [Matches]

/-- Of a run of one symbol or more only the first counts for whether it matches. -/
theorem Pattern.test_both_many_one (head : Pattern Symbol) (accept : Symbol → Bool)
    (text : List Symbol) :
    (Pattern.both head (.many 1 accept)).test text =
      (Pattern.both head (.one accept)).test text := by
  have hmatches : ∀ middle, (∃ stop, (Pattern.many 1 accept).Matches middle stop) ↔
      ∃ stop, (Pattern.one accept).Matches middle stop := by
    intro middle
    constructor
    · rintro ⟨stop, taken, hlength, haccept, hrest, -⟩
      cases taken with
      | nil => exact absurd hlength (by simp)
      | cons symbol taken =>
          exact ⟨⟨some symbol, taken ++ stop.rest⟩, symbol,
            haccept symbol List.mem_cons_self, hrest, rfl⟩
    · rintro ⟨stop, symbol, haccept, hrest, hbefore⟩
      exact ⟨stop, [symbol], Nat.le_refl 1, List.forall_mem_singleton.mpr haccept, hrest, hbefore⟩
  rw [Bool.eq_iff_iff, test_both_iff, test_both_iff]
  simp only [hmatches]

/-! ## Classes one after the other -/

/-- Classes one after the other match a piece of as many symbols. -/
theorem classes_matches {classes : List (Symbol → Bool)} {start stop : Cursor Symbol} :
    (Pattern.all (classes.map .one)).Matches start stop ↔
      ∃ taken, List.Forall₂ (fun accept symbol => accept symbol = true) classes taken ∧
        start.rest = taken ++ stop.rest ∧ stop.before = taken.getLast?.or start.before := by
  induction classes generalizing start with
  | nil =>
      constructor
      · rintro rfl
        exact ⟨[], .nil, rfl, rfl⟩
      · rintro ⟨taken, hnil, hrest, hbefore⟩
        cases hnil
        cases start
        cases stop
        simp_all [Pattern.all, Pattern.Matches]
  | cons accept classes ih =>
      constructor
      · rintro ⟨middle, ⟨symbol, haccept, hrest, hmiddle⟩, hlater⟩
        obtain ⟨taken, htaken, hback, hbefore⟩ := ih.mp hlater
        refine ⟨symbol :: taken, .cons haccept htaken, ?_, ?_⟩
        · rw [hrest, hback, List.cons_append]
        · rw [getLast?_cons_or, hbefore, hmiddle]
      · rintro ⟨taken, htaken, hrest, hbefore⟩
        cases htaken with
        | cons haccept htaken =>
            rename_i symbol taken
            rw [getLast?_cons_or] at hbefore
            exact ⟨⟨some symbol, taken ++ stop.rest⟩, ⟨symbol, haccept, hrest, rfl⟩,
              ih.mpr ⟨taken, htaken, rfl, hbefore⟩⟩

/-- A literal matches the text itself. -/
theorem literal_matches [BEq Symbol] [LawfulBEq Symbol] {word : List Symbol}
    {start stop : Cursor Symbol} :
    (Pattern.all (word.map fun symbol => .one (· == symbol))).Matches start stop ↔
      start.rest = word ++ stop.rest ∧ stop.before = word.getLast?.or start.before := by
  have hsame : ∀ taken, List.Forall₂ (fun accept symbol => accept symbol = true)
      (word.map fun symbol found => found == symbol) taken ↔ taken = word := by
    intro taken
    rw [List.forall₂_map_left_iff]
    constructor
    · intro htaken
      induction htaken with
      | nil => rfl
      | cons hsymbol _ ih => rw [ih, eq_of_beq hsymbol]
    · rintro rfl
      exact List.forall₂_same.mpr fun symbol _ => beq_self_eq_true symbol
  have hclasses : (word.map fun symbol => Pattern.one (· == symbol)) =
      (word.map fun symbol found => found == symbol).map .one := by
    rw [List.map_map]
    rfl
  rw [hclasses, classes_matches]
  simp only [hsame, exists_eq_left]

/-! ## Runs that end in one place -/

/-- Where the first symbol is none of the run's there is no run. -/
theorem runMany_stops (hhead : ∀ symbol ∈ text.head?, accept symbol = false) :
    runMany accept next least before text = if least = 0 then next ⟨before, text⟩ else none := by
  cases text with
  | nil => rfl
  | cons symbol text =>
      rw [runMany, hhead symbol rfl]
      rfl

/-- Where what follows a run fails as long as the run could go on, the run takes all it can. -/
theorem runMany_decided
    (hnext : ∀ cursor : Cursor Symbol, ∀ symbol ∈ cursor.rest.head?, accept symbol = true →
      next cursor = none)
    {taken rest : List Symbol} (htaken : ∀ symbol ∈ taken, accept symbol = true)
    (hrest : ∀ symbol ∈ rest.head?, accept symbol = false) :
    runMany accept next least before (taken ++ rest) =
      if least ≤ taken.length then next ⟨taken.getLast?.or before, rest⟩ else none := by
  induction taken generalizing least before with
  | nil =>
      rw [List.nil_append, runMany_stops hrest]
      simp only [List.length_nil, Nat.le_zero, List.getLast?_nil, Option.none_or]
  | cons symbol taken ih =>
      obtain ⟨hsymbol, htaken⟩ := List.forall_mem_cons.mp htaken
      have hhere : next ⟨before, symbol :: (taken ++ rest)⟩ = none :=
        hnext _ symbol rfl hsymbol
      have hleast : least - 1 ≤ taken.length ↔ least ≤ (symbol :: taken).length := by
        rw [List.length_cons]
        omega
      rw [List.cons_append, runMany, if_pos hsymbol, ih htaken, hhere, ite_self, getLast?_cons_or]
      simp only [hleast]
      split_ifs
      · cases next ⟨taken.getLast?.or (some symbol), rest⟩ <;> rfl
      · rfl

/-- A run that can take all it can and be followed does so. -/
theorem runMany_longest {result : Result} {taken rest : List Symbol}
    (htaken : ∀ symbol ∈ taken, accept symbol = true)
    (hrest : ∀ symbol ∈ rest.head?, accept symbol = false) (hleast : least ≤ taken.length)
    (hnext : next ⟨taken.getLast?.or before, rest⟩ = some result) :
    runMany accept next least before (taken ++ rest) = some result := by
  induction taken generalizing least before with
  | nil =>
      rw [List.nil_append, runMany_stops hrest, if_pos (Nat.le_zero.mp hleast)]
      exact hnext
  | cons symbol taken ih =>
      obtain ⟨hsymbol, htaken⟩ := List.forall_mem_cons.mp htaken
      rw [getLast?_cons_or] at hnext
      rw [List.length_cons] at hleast
      rw [List.cons_append, runMany, if_pos hsymbol, ih htaken (by omega) hnext]
      rfl

/-- What is made of the result of what follows is made of the run's. -/
theorem runMany_map {Other : Type} (make : Result → Other) :
    runMany accept (fun cursor => (next cursor).map make) least before text =
      (runMany accept next least before text).map make := by
  induction text generalizing least before with
  | nil =>
      rw [runMany, runMany]
      split_ifs <;> rfl
  | cons symbol text ih =>
      rw [runMany, runMany, ih]
      cases runMany accept next (least - 1) (some symbol) text <;> split_ifs <;> rfl

end OdinSentinel.Regex
