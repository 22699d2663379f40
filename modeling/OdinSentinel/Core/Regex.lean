import Mathlib.Data.List.Basic

/-!
# Backtracking patterns

Patterns as a backtracking matcher reads them: alternatives are tried from left
to right and a repetition takes as much as it can before it gives symbols back.
Repetition is over classes of single symbols, which needs no nesting.
-/

namespace OdinSentinel.Regex

variable {Symbol Result : Type}

/-- A place in a text: the symbol before it and the text from it on. -/
structure Cursor (Symbol : Type) where
  before : Option Symbol
  rest : List Symbol

inductive Pattern (Symbol : Type)
  | empty
  | one (accept : Symbol → Bool)
  | many (least : Nat) (accept : Symbol → Bool)
  | either (left right : Pattern Symbol)
  | both (left right : Pattern Symbol)
  | assertion (holds : Option Symbol → Option Symbol → Bool)

/-- A greedy run of at least `least` accepted symbols, then `next`. -/
def runMany (accept : Symbol → Bool) (next : Cursor Symbol → Option Result) :
    Nat → Option Symbol → List Symbol → Option Result
  | least, before, [] => if least = 0 then next ⟨before, []⟩ else none
  | least, before, symbol :: rest =>
      let stopHere := if least = 0 then next ⟨before, symbol :: rest⟩ else none
      if accept symbol then
        (runMany accept next (least - 1) (some symbol) rest).orElse fun _ => stopHere
      else stopHere

/-- The first way to match the pattern at a place that lets `next` succeed. -/
def Pattern.run : Pattern Symbol → Cursor Symbol → (Cursor Symbol → Option Result) →
    Option Result
  | .empty, cursor, next => next cursor
  | .one accept, cursor, next =>
      match cursor.rest with
      | [] => none
      | symbol :: rest => if accept symbol then next ⟨some symbol, rest⟩ else none
  | .many least accept, cursor, next => runMany accept next least cursor.before cursor.rest
  | .either left right, cursor, next => (left.run cursor next).orElse fun _ => right.run cursor next
  | .both left right, cursor, next => left.run cursor fun middle => right.run middle next
  | .assertion holds, cursor, next =>
      if holds cursor.before cursor.rest.head? then next cursor else none

/-- Parts one after the other. -/
def Pattern.all (parts : List (Pattern Symbol)) : Pattern Symbol :=
  parts.foldr .both .empty

/-- One of several patterns. -/
def Pattern.any : List (Pattern Symbol) → Pattern Symbol
  | [] => .assertion fun _ _ => false
  | [part] => part
  | part :: parts => .either part (Pattern.any parts)

/-- A part that may be missing. -/
def Pattern.maybe (part : Pattern Symbol) : Pattern Symbol := .either part .empty

/-- A greedy run of at most `most` accepted symbols. -/
def Pattern.upTo (most : Nat) (accept : Symbol → Bool) : Pattern Symbol :=
  match most with
  | 0 => .empty
  | most + 1 => .maybe (.both (.one accept) (Pattern.upTo most accept))

/-- Whether the pattern matches somewhere from a place on. -/
def Pattern.testFrom (pattern : Pattern Symbol) : Option Symbol → List Symbol → Bool
  | before, [] => (pattern.run ⟨before, []⟩ some).isSome
  | before, symbol :: rest =>
      (pattern.run ⟨before, symbol :: rest⟩ some).isSome || pattern.testFrom (some symbol) rest

/-- `pattern.test(text)`. -/
def Pattern.test (pattern : Pattern Symbol) (text : List Symbol) : Bool :=
  pattern.testFrom none text

/-- Every match from a place on, read from left to right, with what `head`
matched kept and what `tail` matched replaced. -/
def replaceFrom (head tail : Pattern Symbol) (replacement : List Symbol) :
    Nat → Cursor Symbol → List Symbol
  | 0, cursor => cursor.rest
  | fuel + 1, cursor =>
      let step := match cursor.rest with
        | [] => []
        | symbol :: rest => symbol :: replaceFrom head tail replacement fuel ⟨some symbol, rest⟩
      match head.run cursor fun middle => tail.run middle fun stop => some (middle, stop) with
      | none => step
      | some (middle, stop) =>
          let kept := cursor.rest.take (cursor.rest.length - middle.rest.length)
          if stop.rest.length < cursor.rest.length then
            kept ++ replacement ++ replaceFrom head tail replacement fuel stop
          else replacement ++ step

/-- `text` with every match of `head` and `tail` replaced by the text of `head`
and `replacement`. -/
def replaceAll (head tail : Pattern Symbol) (replacement text : List Symbol) : List Symbol :=
  replaceFrom head tail replacement (text.length + 1) ⟨none, text⟩

/-- Replacing leaves a symbol of a kind in a text that has one, when the replacement has
one too. -/
theorem exists_mem_replaceFrom {kind : Symbol → Prop} {head tail : Pattern Symbol}
    {replacement : List Symbol} (hreplacement : ∃ symbol ∈ replacement, kind symbol)
    (fuel : Nat) {cursor : Cursor Symbol} (hcursor : ∃ symbol ∈ cursor.rest, kind symbol) :
    ∃ symbol ∈ replaceFrom head tail replacement fuel cursor, kind symbol := by
  obtain ⟨mark, hmark, hkind⟩ := hreplacement
  induction fuel generalizing cursor with
  | zero => exact hcursor
  | succ fuel ih =>
      rw [replaceFrom]
      split
      · -- No match here: the symbol counts itself, or one behind it does.
        cases hrest : cursor.rest with
        | nil => simp [hrest] at hcursor
        | cons symbol rest =>
            rw [hrest] at hcursor
            obtain ⟨found, hfound, hcounts⟩ := hcursor
            rcases List.mem_cons.mp hfound with rfl | hfound
            · exact ⟨found, List.mem_cons_self, hcounts⟩
            · have hlater := @ih ⟨some symbol, rest⟩ ⟨found, hfound, hcounts⟩
              exact hlater.imp fun later hmem => ⟨List.mem_cons_of_mem _ hmem.1, hmem.2⟩
      · refine ⟨mark, ?_, hkind⟩
        dsimp only
        split
        · exact List.mem_append_left _ (List.mem_append_right _ hmark)
        · exact List.mem_append_left _ hmark

theorem exists_mem_replaceAll {kind : Symbol → Prop} {head tail : Pattern Symbol}
    {replacement text : List Symbol} (hreplacement : ∃ symbol ∈ replacement, kind symbol)
    (htext : ∃ symbol ∈ text, kind symbol) :
    ∃ symbol ∈ replaceAll head tail replacement text, kind symbol :=
  exists_mem_replaceFrom hreplacement _ htext

end OdinSentinel.Regex
