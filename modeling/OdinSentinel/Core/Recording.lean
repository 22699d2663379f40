import OdinSentinel.Core.CriticalSection

/-!
# Worlds that remember

A world beside the exchanges that it had, newest first.  Its runs are the runs of the
world, and of each of them it can be said what was asked and what was answered.
-/

namespace OdinSentinel.Dialogue

variable {Ask : Type} {Answer : Ask → Type} {World Result Shared : Type}

/-- A world that keeps every exchange. -/
def Recording (answers : Answers World Ask Answer) :
    Answers (World × List (Exchange Ask Answer)) Ask Answer :=
  fun before question answer after =>
    answers before.1 question answer after.1 ∧ after.2 = ⟨question, answer⟩ :: before.2

variable {answers : Answers World Ask Answer} {program : Program Ask Answer Result}
variable {result : Result}

/-- One exchange through a world that is named. -/
theorem Plays.via {question : Ask} {next : Answer question → Program Ask Answer Result}
    {before after : World} (middle : World) (answer : Answer question)
    (hanswer : answers before question answer middle)
    (hnext : Plays answers (next answer) middle result after) :
    Plays answers (.ask question next) before result after :=
  .ask answer hanswer hnext

/-- Without its memory a run is a run of the world. -/
theorem Plays.forget {before after : World × List (Exchange Ask Answer)}
    (hplays : Plays (Recording answers) program before result after) :
    Plays answers program before.1 result after.1 := by
  induction hplays with
  | done result world => exact .done result world.1
  | ask answer hanswer hnext ih => exact .ask answer hanswer.1 ih

/-- A run of a world can be remembered. -/
theorem Plays.remember {before after : World}
    (hplays : Plays answers program before result after)
    (history : List (Exchange Ask Answer)) :
    ∃ exchanges, Plays (Recording answers) program (before, history) result (after, exchanges) := by
  induction hplays generalizing history with
  | done result world => exact ⟨history, .done result (world, history)⟩
  | @ask question next before middle after result answer hanswer hnext ih =>
      obtain ⟨exchanges, hrest⟩ := ih (⟨question, answer⟩ :: history)
      exact ⟨exchanges, .via (middle, ⟨question, answer⟩ :: history) answer ⟨hanswer, rfl⟩ hrest⟩

/-! ## A lock in memory -/

namespace LockRules

variable {answers : Answers (Store Shared) Ask Answer} (rules : LockRules answers)

/-- The lock was taken in one of the exchanges. -/
def HasTaken (history : List (Exchange Ask Answer)) : Prop :=
  ∃ exchange ∈ history, rules.takes exchange.question exchange.answer = true

variable {rules}

/-- A caller alone takes a lock that was free when it began. -/
theorem Approaches.free_of_hasTaken {span : Shared → Result → Shared → Prop}
    {idle : Result → Prop} (happroaches : rules.Approaches span idle program)
    {before after : Store Shared × List (Exchange Ask Answer)}
    (hplays : Plays (Recording answers) program before result after)
    (htaken : rules.HasTaken after.2) :
    rules.HasTaken before.2 ∨ before.1.locked = false := by
  induction hplays with
  | done result world => exact .inl htaken
  | @ask question next world middle final result answer hanswer hnext ih =>
      obtain ⟨hanswer, hmemory⟩ := hanswer
      cases htakes : rules.takes question answer with
      | true => exact .inr (rules.taken hanswer htakes).1
      | false =>
          obtain hsame := idle_store hanswer htakes happroaches.1 happroaches.2.1
          rcases ih ((happroaches.2.2 answer).2 htakes) htaken with hmiddle | hfree
          · rw [hmemory] at hmiddle
            obtain ⟨exchange, hmem, hexchange⟩ := hmiddle
            rcases List.mem_cons.mp hmem with rfl | hmem
            · rw [htakes] at hexchange
              cases hexchange
            · exact .inl ⟨exchange, hmem, hexchange⟩
          · rw [hsame] at hfree
            exact .inr hfree

end LockRules

end OdinSentinel.Dialogue
