import OdinSentinel.Core.Dialogue

/-!
# Dialogues in a world

A world answers the questions of a program and changes with them.  `Plays` are the
complete runs of a program that is alone in a world; `Ensures` is what all of them
come to.
-/

namespace OdinSentinel.Dialogue

variable {Ask : Type} {Answer : Ask → Type} {World Result Next Stop : Type}

/-- How a world answers and changes. -/
abbrev Answers (World : Type) (Ask : Type) (Answer : Ask → Type) :=
  World → (question : Ask) → Answer question → World → Prop

inductive Plays (answers : Answers World Ask Answer) :
    Program Ask Answer Result → World → Result → World → Prop
  | done (result : Result) (world : World) : Plays answers (.done result) world result world
  | ask {question : Ask} {next : Answer question → Program Ask Answer Result}
      {world middle final : World} {result : Result} (answer : Answer question)
      (hanswer : answers world question answer middle)
      (hnext : Plays answers (next answer) middle result final) :
      Plays answers (.ask question next) world result final

/-- Every run asks only what it may and ends in a result and a world as wanted. -/
def Ensures (answers : Answers World Ask Answer) (may : Ask → Prop)
    (post : Result → World → Prop) : Program Ask Answer Result → World → Prop
  | .done result, world => post result world
  | .ask question next, world =>
      may question ∧ ∀ answer after, answers world question answer after →
        Ensures answers may post (next answer) after

variable {answers : Answers World Ask Answer} {may : Ask → Prop}

theorem Ensures.sound {post : Result → World → Prop} {program : Program Ask Answer Result}
    {world final : World} {result : Result}
    (hensures : Ensures answers may post program world)
    (hplays : Plays answers program world result final) : post result final := by
  induction hplays with
  | done result world => exact hensures
  | ask answer hanswer hnext ih => exact ih (hensures.2 answer _ hanswer)

theorem plays_done {value result : Result} {world final : World} :
    Plays answers (.done value) world result final ↔ result = value ∧ final = world := by
  constructor
  · intro hplays
    cases hplays
    exact ⟨rfl, rfl⟩
  · rintro ⟨rfl, rfl⟩
    exact .done result final

theorem plays_bind {program : Program Ask Answer Result} {next : Result → Program Ask Answer Next}
    {world final : World} {result : Next} :
    Plays answers (program >>= next) world result final ↔
      ∃ value middle, Plays answers program world value middle ∧
        Plays answers (next value) middle result final := by
  change Plays answers (program.bind next) world result final ↔ _
  induction program generalizing world with
  | done value =>
      constructor
      · exact fun hplays => ⟨value, world, .done value world, hplays⟩
      · rintro ⟨value, middle, hdone, hplays⟩
        cases hdone
        exact hplays
  | ask question rest ih =>
      constructor
      · intro hplays
        cases hplays with
        | ask answer hanswer hnext =>
            obtain ⟨value, middle, hfirst, hsecond⟩ := (ih answer).mp hnext
            exact ⟨value, middle, .ask answer hanswer hfirst, hsecond⟩
      · rintro ⟨value, middle, hfirst, hsecond⟩
        cases hfirst with
        | ask answer hanswer hnext =>
            exact .ask answer hanswer ((ih answer).mpr ⟨value, middle, hnext, hsecond⟩)

/-- A world that answers every question lets every program end. -/
theorem exists_plays
    (htotal : ∀ world question, ∃ answer after, answers world question answer after)
    (program : Program Ask Answer Result) (world : World) :
    ∃ result final, Plays answers program world result final := by
  induction program generalizing world with
  | done result => exact ⟨result, world, .done result world⟩
  | ask question next ih =>
      obtain ⟨answer, after, hanswer⟩ := htotal world question
      obtain ⟨result, final, hplays⟩ := ih answer after
      exact ⟨result, final, .ask answer hanswer hplays⟩

theorem Ensures.mono {post weaker : Result → World → Prop} {program : Program Ask Answer Result}
    {world : World} (hensures : Ensures answers may post program world)
    (hweaker : ∀ result final, post result final → weaker result final) :
    Ensures answers may weaker program world := by
  induction program generalizing world with
  | done result => exact hweaker result world hensures
  | ask question next ih =>
      exact ⟨hensures.1, fun answer after hanswer => ih answer (hensures.2 answer after hanswer)⟩

theorem ensures_bind {program : Program Ask Answer Result}
    {next : Result → Program Ask Answer Next} {post : Next → World → Prop} {world : World} :
    Ensures answers may post (program >>= next) world ↔
      Ensures answers may (fun result after => Ensures answers may post (next result) after)
        program world := by
  change Ensures answers may post (program.bind next) world ↔ _
  induction program generalizing world with
  | done result => exact Iff.rfl
  | ask question rest ih =>
      exact and_congr_right fun _ => forall_congr' fun answer => forall_congr' fun after =>
        imp_congr_right fun _ => ih answer

/-! ## Attempts -/

/-- `Ensures` of a program that may stop early. -/
def Attains (answers : Answers World Ask Answer) (may : Ask → Prop)
    (post : Except Stop Result → World → Prop) (attempt : Attempt Ask Answer Stop Result)
    (world : World) : Prop :=
  Ensures answers may post attempt.run world

/-- What is left to show behind the first part of an attempt. -/
def Onward (answers : Answers World Ask Answer) (may : Ask → Prop)
    (post : Except Stop Next → World → Prop) (next : Result → Attempt Ask Answer Stop Next) :
    Except Stop Result → World → Prop
  | .ok value, world => Attains answers may post (next value) world
  | .error stop, world => post (.error stop) world

theorem attains_bind {attempt : Attempt Ask Answer Stop Result}
    {next : Result → Attempt Ask Answer Stop Next} {post : Except Stop Next → World → Prop}
    {world : World} :
    Attains answers may post (attempt >>= next) world ↔
      Attains answers may (Onward answers may post next) attempt world := by
  change Ensures answers may post (attempt.run >>= ExceptT.bindCont next) world ↔ _
  rw [ensures_bind]
  constructor
  · intro hensures
    refine hensures.mono fun result after hnext => ?_
    cases result with
    | ok value => exact hnext
    | error stop => exact hnext
  · intro hensures
    refine hensures.mono fun result after hnext => ?_
    cases result with
    | ok value => exact hnext
    | error stop => exact hnext

theorem attains_request_bind {question : Ask}
    {next : Answer question → Attempt Ask Answer Stop Next}
    {post : Except Stop Next → World → Prop} {world : World} :
    Attains answers may post (Attempt.request question >>= next) world ↔
      may question ∧ ∀ answer after, answers world question answer after →
        Attains answers may post (next answer) after := by
  rw [attains_bind]
  exact Iff.rfl

end OdinSentinel.Dialogue
