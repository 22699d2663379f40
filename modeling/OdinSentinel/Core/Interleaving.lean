import Mathlib.Logic.Function.Basic
import OdinSentinel.Core.World

/-!
# Interleaved dialogues

Callers that each run a program of their own against one world.  A step answers the
next question of one of them; the history keeps who asked what, newest first.
-/

namespace OdinSentinel.Dialogue

variable {Caller Ask : Type} {Answer : Ask → Type} {World Result : Type}

structure System (Caller World Ask : Type) (Answer : Ask → Type) (Result : Type) where
  world : World
  program : Caller → Program Ask Answer Result

/-- The history of a system. -/
abbrev History (Caller Ask : Type) (Answer : Ask → Type) := List (Caller × Exchange Ask Answer)

variable [DecidableEq Caller]

/-- The system in which a caller got an answer. -/
def System.advance (system : System Caller World Ask Answer Result) (caller : Caller)
    (rest : Program Ask Answer Result) (after : World) : System Caller World Ask Answer Result where
  world := after
  program := Function.update system.program caller rest

inductive Interleaved (answers : Answers World Ask Answer)
    (start : System Caller World Ask Answer Result) :
    History Caller Ask Answer → System Caller World Ask Answer Result → Prop
  | nil : Interleaved answers start [] start
  | step {history : History Caller Ask Answer} {system : System Caller World Ask Answer Result}
      {caller : Caller} {question : Ask} {next : Answer question → Program Ask Answer Result}
      {answer : Answer question} {after : World}
      (hrun : Interleaved answers start history system)
      (hprogram : system.program caller = .ask question next)
      (hanswer : answers system.world question answer after) :
      Interleaved answers start ((caller, ⟨question, answer⟩) :: history)
        (system.advance caller (next answer) after)

variable {answers : Answers World Ask Answer} {start : System Caller World Ask Answer Result}

@[simp]
theorem System.advance_self (system : System Caller World Ask Answer Result) (caller : Caller)
    (rest : Program Ask Answer Result) (after : World) :
    (system.advance caller rest after).program caller = rest := by
  simp [System.advance]

@[simp]
theorem System.advance_of_ne (system : System Caller World Ask Answer Result)
    {caller other : Caller} (hother : other ≠ caller) (rest : Program Ask Answer Result)
    (after : World) : (system.advance caller rest after).program other = system.program other := by
  simp [System.advance, hother]

/-- Every part of the past of a run is a run. -/
theorem Interleaved.earlier {history : History Caller Ask Answer}
    {system : System Caller World Ask Answer Result}
    (hrun : Interleaved answers start history system) {later earlier : History Caller Ask Answer}
    (hsplit : history = later ++ earlier) :
    ∃ before, Interleaved answers start earlier before := by
  induction hrun generalizing later with
  | nil =>
      obtain ⟨-, rfl⟩ := List.append_eq_nil_iff.mp hsplit.symm
      exact ⟨start, .nil⟩
  | step hprefix hprogram hanswer ih =>
      cases later with
      | nil =>
          rw [List.nil_append] at hsplit
          rw [← hsplit]
          exact ⟨_, hprefix.step hprogram hanswer⟩
      | cons last later =>
          obtain ⟨-, htail⟩ := List.cons.inj hsplit
          exact ih htail

/-! ## What a caller has behind it -/

section Follows

variable {Next : Type}

/-- Every question of a program obeys a rule about the exchanges before it, and its result
is as wanted. -/
def Follows (rule : List (Exchange Ask Answer) → Ask → Prop)
    (post : List (Exchange Ask Answer) → Result → Prop) :
    List (Exchange Ask Answer) → Program Ask Answer Result → Prop
  | past, .done result => post past result
  | past, .ask question next => rule past question ∧ ∀ answer,
      Follows rule post (⟨question, answer⟩ :: past) (next answer)

variable {rule : List (Exchange Ask Answer) → Ask → Prop}
variable {past : List (Exchange Ask Answer)}

theorem Follows.mono {post weaker : List (Exchange Ask Answer) → Result → Prop}
    {program : Program Ask Answer Result} (hfollows : Follows rule post past program)
    (hweaker : ∀ past result, post past result → weaker past result) :
    Follows rule weaker past program := by
  induction program generalizing past with
  | done result => exact hweaker past result hfollows
  | ask question next ih => exact ⟨hfollows.1, fun answer => ih answer (hfollows.2 answer)⟩

theorem follows_bind {program : Program Ask Answer Result}
    {next : Result → Program Ask Answer Next} {post : List (Exchange Ask Answer) → Next → Prop} :
    Follows rule post past (program >>= next) ↔
      Follows rule (fun past result => Follows rule post past (next result)) past program := by
  change Follows rule post past (program.bind next) ↔ _
  induction program generalizing past with
  | done result => exact Iff.rfl
  | ask question rest ih => exact and_congr_right fun _ => forall_congr' fun answer => ih answer

/-- Every question is one that may be asked, whatever the answers. -/
def Asks (may : Ask → Prop) (program : Program Ask Answer Result) : Prop :=
  Ensures (fun (_ : Unit) _ _ _ => True) may (fun _ _ => True) program ()

theorem Asks.bind {may : Ask → Prop} {program : Program Ask Answer Result}
    {next : Result → Program Ask Answer Next} (hfirst : Asks may program)
    (hnext : ∀ result, Asks may (next result)) : Asks may (program >>= next) := by
  rw [Asks, ensures_bind]
  exact hfirst.mono fun result _ _ => hnext result

theorem Asks.mono {may wider : Ask → Prop} {program : Program Ask Answer Result}
    (hasks : Asks may program) (hwider : ∀ question, may question → wider question) :
    Asks wider program := by
  induction program with
  | done result => trivial
  | ask question next ih =>
      exact ⟨hwider question hasks.1, fun answer _ _ => ih answer (hasks.2 answer () trivial)⟩

theorem Asks.translate {Ask' : Type} {Answer' : Ask' → Type} {may : Ask → Prop}
    {may' : Ask' → Prop} {program : Program Ask Answer Result} (hasks : Asks may program)
    {each : (question : Ask) → Program Ask' Answer' (Answer question)}
    (heach : ∀ question, may question → Asks may' (each question)) :
    Asks may' (program.translate each) := by
  induction program with
  | done result => trivial
  | ask question next ih =>
      apply (heach question hasks.1).bind
      exact fun answer => ih answer (hasks.2 answer () trivial)

/-- Questions that leave a condition on the past as it is, and that it allows. -/
theorem Asks.follows {may : Ask → Prop} {stable : List (Exchange Ask Answer) → Prop}
    {program : Program Ask Answer Result} (hasks : Asks may program) (hstable : stable past)
    (hkeeps : ∀ past question answer, may question → stable past →
      stable (⟨question, answer⟩ :: past))
    (hallows : ∀ past question, may question → stable past → rule past question) :
    Follows rule (fun past _ => stable past) past program := by
  induction program generalizing past with
  | done result => exact hstable
  | ask question next ih =>
      refine ⟨hallows past question hasks.1 hstable, fun answer => ?_⟩
      exact ih answer (hasks.2 answer () trivial) (hkeeps past question answer hasks.1 hstable)

theorem Asks.follows_may {may : Ask → Prop} {program : Program Ask Answer Result}
    (hasks : Asks may program) : Follows (fun _ => may) (fun _ _ => True) past program := by
  induction program generalizing past with
  | done result => trivial
  | ask question next ih =>
      exact ⟨hasks.1, fun answer => ih answer (hasks.2 answer () trivial)⟩

/-- An attempt that asks what it may and, unless it stops, comes to a value as wanted,
whatever the answers. -/
def Yields {Stop : Type} (may : Ask → Prop) (good : Result → Prop)
    (attempt : Attempt Ask Answer Stop Result) : Prop :=
  Attains (fun (_ : Unit) _ _ _ => True) may (fun outcome _ => ∀ value, outcome = .ok value →
    good value) attempt ()

section Yields

variable {Stop : Type} {may : Ask → Prop} {good : Result → Prop}

theorem yields_pure {value : Result} (hgood : good value) :
    Yields may good (pure value : Attempt Ask Answer Stop Result) := by
  intro found hfound
  exact Except.ok.inj hfound ▸ hgood

theorem yields_throw {stop : Stop} :
    Yields may good (throw stop : Attempt Ask Answer Stop Result) := by
  rintro found ⟨⟩

theorem yields_request {question : Ask} (hmay : may question) :
    Yields may (fun _ => True)
      (Attempt.request question : Attempt Ask Answer Stop (Answer question)) :=
  ⟨hmay, fun _ _ _ _ _ => trivial⟩

theorem Yields.bind {attempt : Attempt Ask Answer Stop Result}
    {next : Result → Attempt Ask Answer Stop Next} {wanted : Next → Prop}
    (hfirst : Yields may good attempt) (hnext : ∀ value, good value → Yields may wanted (next value)) :
    Yields may wanted (attempt >>= next) := by
  rw [Yields, attains_bind]
  apply Ensures.mono hfirst
  intro outcome _ hgood
  cases outcome with
  | ok value => exact hnext value (hgood value rfl)
  | error stop =>
      have hstop : Yields may wanted (throw stop : Attempt Ask Answer Stop Next) := yields_throw
      exact hstop

theorem Yields.asks {attempt : Attempt Ask Answer Stop Result} (hyields : Yields may good attempt) :
    Asks may attempt.run :=
  Ensures.mono hyields fun _ _ _ => trivial

theorem Asks.yields {attempt : Attempt Ask Answer Stop Result} (hasks : Asks may attempt.run) :
    Yields may (fun _ => True) attempt :=
  Ensures.mono hasks fun _ _ _ _ _ => trivial

end Yields

/-- The exchanges of one caller. -/
def own (caller : Caller) (history : History Caller Ask Answer) : List (Exchange Ask Answer) :=
  (history.filter fun entry => entry.1 = caller).map Prod.snd

theorem own_cons_self (caller : Caller) (exchange : Exchange Ask Answer)
    (history : History Caller Ask Answer) :
    own caller ((caller, exchange) :: history) = exchange :: own caller history := by
  simp [own]

theorem own_cons_of_ne {caller other : Caller} (hother : other ≠ caller)
    (exchange : Exchange Ask Answer) (history : History Caller Ask Answer) :
    own other ((caller, exchange) :: history) = own other history := by
  simp [own, Ne.symm hother]

/-- An exchange of a caller stands in the history. -/
theorem exists_of_own {caller : Caller} {exchange : Exchange Ask Answer}
    {history : History Caller Ask Answer} {later earlier : List (Exchange Ask Answer)}
    (hsplit : own caller history = later ++ exchange :: earlier) :
    ∃ between before, history = between ++ (caller, exchange) :: before ∧
      own caller before = earlier := by
  induction history generalizing later with
  | nil => simp [own] at hsplit
  | cons entry rest ih =>
      obtain ⟨actor, last⟩ := entry
      by_cases hcaller : caller = actor
      · subst hcaller
        rw [own_cons_self] at hsplit
        cases later with
        | nil =>
            obtain ⟨rfl, hrest⟩ := List.cons.inj hsplit
            exact ⟨[], rest, rfl, hrest⟩
        | cons first later =>
            obtain ⟨between, before, rfl, hbefore⟩ := ih (List.cons.inj hsplit).2
            exact ⟨_ :: between, before, rfl, hbefore⟩
      · rw [own_cons_of_ne hcaller] at hsplit
        obtain ⟨between, before, rfl, hbefore⟩ := ih hsplit
        exact ⟨_ :: between, before, rfl, hbefore⟩

/-- A step in the past of a run. -/
theorem Interleaved.step_of_split {later earlier : History Caller Ask Answer} {caller : Caller}
    {question : Ask} {answer : Answer question}
    {system : System Caller World Ask Answer Result}
    (hrun : Interleaved answers start (later ++ (caller, ⟨question, answer⟩) :: earlier) system) :
    ∃ (before : System Caller World Ask Answer Result) (after : World)
      (next : Answer question → Program Ask Answer Result),
      Interleaved answers start earlier before ∧ before.program caller = .ask question next ∧
        answers before.world question answer after := by
  obtain ⟨stepped, hstep⟩ := hrun.earlier rfl
  cases hstep with
  | step hbefore hprogram hanswer => exact ⟨_, _, _, hbefore, hprogram, hanswer⟩

/-- Every caller of a run follows its rule. -/
theorem Interleaved.follows {rule : Caller → List (Exchange Ask Answer) → Ask → Prop}
    {post : Caller → List (Exchange Ask Answer) → Result → Prop}
    {history : History Caller Ask Answer} {system : System Caller World Ask Answer Result}
    (hrun : Interleaved answers start history system)
    (hstart : ∀ caller, Follows (rule caller) (post caller) [] (start.program caller))
    (caller : Caller) :
    Follows (rule caller) (post caller) (own caller history) (system.program caller) := by
  induction hrun with
  | nil => exact hstart caller
  | @step history system actor question next answer after _ hprogram hanswer ih =>
      by_cases hcaller : caller = actor
      · subst hcaller
        rw [hprogram] at ih
        rw [own_cons_self, System.advance_self]
        exact ih.2 answer
      · rw [own_cons_of_ne hcaller, System.advance_of_ne _ hcaller]
        exact ih

end Follows

/-! ## A caller that runs alone -/

theorem Program.bind_done (program : Program Ask Answer Result) : program.bind .done = program := by
  induction program with
  | done result => rfl
  | ask question next ih =>
      rw [Program.bind]
      congr 1
      funext answer
      exact ih answer

/-- A caller may run the first part of its program while the others wait. -/
theorem Interleaved.play {Middle : Type} {first : Program Ask Answer Middle}
    {next : Middle → Program Ask Answer Result} {caller : Caller} {value : Middle} {final : World}
    {history : History Caller Ask Answer} {system : System Caller World Ask Answer Result}
    (hrun : Interleaved answers start history system)
    (hplays : Plays answers first system.world value final)
    (hprogram : system.program caller = first.bind next) :
    ∃ history, Interleaved answers start history (system.advance caller (next value) final) := by
  generalize hworld : system.world = world at hplays
  induction hplays generalizing history system with
  | done value world =>
      refine ⟨history, ?_⟩
      have hsame : system.advance caller (next value) world = system := by
        change system.program caller = next value at hprogram
        rw [System.advance, ← hprogram, Function.update_eq_self, ← hworld]
      rw [hsame]
      exact hrun
  | @ask question rest world middle final value answer hanswer _ ih =>
      subst hworld
      have hstep := hrun.step hprogram hanswer
      obtain ⟨history, hplayed⟩ := ih hstep (System.advance_self _ _ _ _) rfl
      refine ⟨history, ?_⟩
      simpa [System.advance] using hplayed

end OdinSentinel.Dialogue
