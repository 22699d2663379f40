import Mathlib.Tactic.Common

/-!
# Dialogues with an environment

A program that asks an environment question after question, each next step
depending on the answers so far, and ends with a result.  A run answers every
question in some way, and its history keeps the exchanges, newest first.  On top
of it stands the program that can stop early.
-/

namespace OdinSentinel.Dialogue

inductive Program (Ask : Type) (Answer : Ask → Type) (Result : Type)
  | done (result : Result)
  | ask (question : Ask) (next : Answer question → Program Ask Answer Result)

/-- A question and its answer. -/
structure Exchange (Ask : Type) (Answer : Ask → Type) where
  question : Ask
  answer : Answer question

variable {Ask : Type} {Answer : Ask → Type} {Result Next Stop : Type}

namespace Program

def bind : Program Ask Answer Result → (Result → Program Ask Answer Next) →
    Program Ask Answer Next
  | .done result, next => next result
  | .ask question rest, next => .ask question fun answer => (rest answer).bind next

instance : Monad (Program Ask Answer) where
  pure := .done
  bind := bind

/-- One question. -/
def request (question : Ask) : Program Ask Answer (Answer question) := .ask question .done

/-- What the program does when the environment answers by a function of the
question and of the history. -/
def play (environment : (question : Ask) → List (Exchange Ask Answer) → Answer question) :
    Program Ask Answer Result → List (Exchange Ask Answer) →
      Result × List (Exchange Ask Answer)
  | .done result, history => (result, history)
  | .ask question next, history =>
      let answer := environment question history
      play environment (next answer) (⟨question, answer⟩ :: history)

/-- The program that asks another environment, for every question some of its own. -/
def translate {Ask' : Type} {Answer' : Ask' → Type}
    (each : (question : Ask) → Program Ask' Answer' (Answer question)) :
    Program Ask Answer Result → Program Ask' Answer' Result
  | .done result => .done result
  | .ask question next => (each question).bind fun answer => (next answer).translate each

end Program

/-- The complete runs of a program from a history, with their result and the
history behind them. -/
inductive Runs : Program Ask Answer Result → List (Exchange Ask Answer) → Result →
    List (Exchange Ask Answer) → Prop
  | done (result : Result) (history : List (Exchange Ask Answer)) :
      Runs (.done result) history result history
  | ask {question : Ask} {next : Answer question → Program Ask Answer Result}
      {before : List (Exchange Ask Answer)} {result : Result}
      {after : List (Exchange Ask Answer)} (answer : Answer question)
      (hnext : Runs (next answer) (⟨question, answer⟩ :: before) result after) :
      Runs (.ask question next) before result after

variable {before after : List (Exchange Ask Answer)}

theorem runs_play
    (environment : (question : Ask) → List (Exchange Ask Answer) → Answer question)
    (program : Program Ask Answer Result) (history : List (Exchange Ask Answer)) :
    Runs program history (program.play environment history).1
      (program.play environment history).2 := by
  induction program generalizing history with
  | done result => exact .done result history
  | ask question next ih => exact .ask _ (ih _ _)

/-- What a played program hears is what the environment answers. -/
theorem answer_of_mem_play
    (environment : (question : Ask) → List (Exchange Ask Answer) → Answer question)
    {program : Program Ask Answer Result} {history : List (Exchange Ask Answer)}
    {exchange : Exchange Ask Answer} (hmem : exchange ∈ (program.play environment history).2) :
    exchange ∈ history ∨ ∃ earlier, exchange.answer = environment exchange.question earlier := by
  induction program generalizing history with
  | done result => exact .inl hmem
  | ask question next ih =>
      rcases ih _ hmem with hmem | hanswer
      · rcases List.mem_cons.mp hmem with rfl | hmem
        · exact .inr ⟨history, rfl⟩
        · exact .inl hmem
      · exact .inr hanswer

theorem runs_pure {value result : Result} :
    Runs (pure value : Program Ask Answer Result) before result after ↔
      result = value ∧ after = before := by
  constructor
  · intro hrun
    cases hrun
    exact ⟨rfl, rfl⟩
  · rintro ⟨rfl, rfl⟩
    exact .done result after

theorem runs_request {question : Ask} {result : Answer question} :
    Runs (Program.request question) before result after ↔
      after = ⟨question, result⟩ :: before := by
  constructor
  · intro hrun
    cases hrun with
    | ask answer hnext =>
        cases hnext
        rfl
  · rintro rfl
    exact .ask result (.done result _)

theorem runs_bind {program : Program Ask Answer Result}
    {next : Result → Program Ask Answer Next} {result : Next} :
    Runs (program >>= next) before result after ↔
      ∃ middle history, Runs program before middle history ∧
        Runs (next middle) history result after := by
  change Runs (program.bind next) before result after ↔ _
  induction program generalizing before with
  | done value =>
      constructor
      · exact fun hrun => ⟨value, before, .done value before, hrun⟩
      · rintro ⟨middle, history, hdone, hrun⟩
        cases hdone
        exact hrun
  | ask question rest ih =>
      constructor
      · intro hrun
        cases hrun with
        | ask answer hnext =>
            obtain ⟨middle, history, hfirst, hsecond⟩ := (ih answer).mp hnext
            exact ⟨middle, history, .ask answer hfirst, hsecond⟩
      · rintro ⟨middle, history, hfirst, hsecond⟩
        cases hfirst with
        | ask answer hnext => exact .ask answer ((ih answer).mpr ⟨middle, history, hnext, hsecond⟩)

/-- A run only adds to the history. -/
theorem Runs.exists_append {program : Program Ask Answer Result} {result : Result}
    (hrun : Runs program before result after) : ∃ exchanges, after = exchanges ++ before := by
  induction hrun with
  | done result history => exact ⟨[], rfl⟩
  | @ask question next before result after answer hnext ih =>
      obtain ⟨exchanges, rfl⟩ := ih
      exact ⟨exchanges ++ [⟨question, answer⟩], by simp⟩

theorem Runs.suffix {program : Program Ask Answer Result} {result : Result}
    (hrun : Runs program before result after) : before <:+ after := by
  obtain ⟨exchanges, rfl⟩ := hrun.exists_append
  exact List.suffix_append exchanges before

/-! ## Stopping early -/

/-- A program that may stop with a value of its own instead of its result. -/
abbrev Attempt (Ask : Type) (Answer : Ask → Type) (Stop Result : Type) :=
  ExceptT Stop (Program Ask Answer) Result

/-- The runs of an attempt. -/
def Tries (attempt : Attempt Ask Answer Stop Result) (before : List (Exchange Ask Answer))
    (result : Except Stop Result) (after : List (Exchange Ask Answer)) : Prop :=
  Runs attempt.run before result after

def Attempt.request (question : Ask) : Attempt Ask Answer Stop (Answer question) :=
  ExceptT.lift (Program.request question)

theorem tries_pure {value : Result} {result : Except Stop Result} :
    Tries (pure value : Attempt Ask Answer Stop Result) before result after ↔
      result = .ok value ∧ after = before :=
  runs_pure

theorem tries_throw {stop : Stop} {result : Except Stop Result} :
    Tries (throw stop : Attempt Ask Answer Stop Result) before result after ↔
      result = .error stop ∧ after = before :=
  runs_pure

theorem tries_request {question : Ask} {result : Except Stop (Answer question)} :
    Tries (Attempt.request question) before result after ↔
      ∃ answer, result = .ok answer ∧ after = ⟨question, answer⟩ :: before := by
  change Runs (Program.request question >>= fun answer => pure (Except.ok answer)) _ _ _ ↔ _
  simp only [runs_bind, runs_request, runs_pure]
  constructor
  · rintro ⟨answer, _, rfl, rfl, rfl⟩
    exact ⟨answer, rfl, rfl⟩
  · rintro ⟨answer, rfl, rfl⟩
    exact ⟨answer, _, rfl, rfl, rfl⟩

theorem tries_bind {attempt : Attempt Ask Answer Stop Result}
    {next : Result → Attempt Ask Answer Stop Next} {result : Except Stop Next} :
    Tries (attempt >>= next) before result after ↔
      (∃ middle history, Tries attempt before (.ok middle) history ∧
        Tries (next middle) history result after) ∨
      ∃ stop, result = .error stop ∧ Tries attempt before (.error stop) after := by
  change Runs (attempt.run >>= ExceptT.bindCont next) before result after ↔ _
  rw [runs_bind]
  constructor
  · rintro ⟨middle, history, hfirst, hsecond⟩
    cases middle with
    | ok value => exact .inl ⟨value, history, hfirst, hsecond⟩
    | error stop =>
        obtain ⟨rfl, rfl⟩ := runs_pure.mp hsecond
        exact .inr ⟨stop, rfl, hfirst⟩
  · rintro (⟨middle, history, hfirst, hsecond⟩ | ⟨stop, rfl, hfirst⟩)
    · exact ⟨.ok middle, history, hfirst, hsecond⟩
    · exact ⟨.error stop, after, hfirst, runs_pure.mpr ⟨rfl, rfl⟩⟩

theorem tries_request_bind {question : Ask}
    {next : Answer question → Attempt Ask Answer Stop Next} {result : Except Stop Next} :
    Tries (Attempt.request question >>= next) before result after ↔
      ∃ answer, Tries (next answer) (⟨question, answer⟩ :: before) result after := by
  simp only [tries_bind, tries_request]
  constructor
  · rintro (⟨_, _, ⟨answer, hmiddle, rfl⟩, hrest⟩ | ⟨_, -, _, hstop, -⟩)
    · cases hmiddle
      exact ⟨_, hrest⟩
    · cases hstop
  · rintro ⟨answer, hrest⟩
    exact .inl ⟨answer, _, ⟨answer, rfl, rfl⟩, hrest⟩

end OdinSentinel.Dialogue
