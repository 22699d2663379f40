import OdinSentinel.Core.CriticalSection
import OdinSentinel.Registry.Compact

/-!
# The disk of one scope

What the calls of the registry do to the log: an append adds its line or nothing, a
compaction puts the text of its plan in the log's place or leaves the log alone, and
both write only while they hold the lock.
-/

namespace OdinSentinel.Registry

open JsText Dialogue

/-- The log of a scope and the file beside it. -/
structure Files where
  log : Option JsString
  temp : Option JsString

abbrev Disk := Store Files

namespace Files

def text (files : Files) : JsString := files.log.getD []

def append (files : Files) (line : JsString) : Files :=
  { files with log := some (files.text ++ line) }

end Files

/-- How a disk answers, `fails` saying which operations may fail.  Making the lock
directory and a rename are atomic, an append is all or nothing, and the holder of the
lock can remove it. -/
def Responds (fails : FileAsk → Prop) :
    Disk → (question : FileAsk) → FileAnswer question → Disk → Prop
  | before, .findLink, answer, after =>
      after = before ∧ (answer = .ok none ∨ fails .findLink)
  | before, .makeDir, answer, after =>
      after = before ∧ (answer = .ok () ∨ fails .makeDir)
  | before, .makeLock, answer, after =>
      (answer = .ok () ∧ before.locked = false ∧ after = { before with locked := true }) ∨
      (∃ error, answer = .error error ∧ after = before ∧
        ((isEexists error = true ∧ before.locked = true) ∨ fails .makeLock))
  | before, .removeLock, answer, after =>
      answer = .ok () ∧ after = { before with locked := false }
  | before, .logExists, answer, after =>
      after = before ∧ answer = before.shared.log.isSome
  | before, .readLog, answer, after =>
      after = before ∧
        ((∃ text, before.shared.log = some text ∧ answer = .ok text) ∨
          (∃ error, answer = .error error ∧ (before.shared.log = none ∨ fails .readLog)))
  | before, .appendLog text, answer, after =>
      (answer = .ok () ∧ after = { before with shared := before.shared.append text }) ∨
      (∃ error, answer = .error error ∧ after = before ∧ fails (.appendLog text))
  | before, .writeTemp text, answer, after =>
      (answer = .ok () ∧
        after = { before with shared := { before.shared with temp := some text } }) ∨
      (∃ error temp, answer = .error error ∧ fails (.writeTemp text) ∧
        after = { before with shared := { before.shared with temp } })
  | before, .renameTemp, answer, after =>
      (∃ text, before.shared.temp = some text ∧ answer = .ok () ∧
        after = { before with shared := { log := some text, temp := none } }) ∨
      (∃ error, answer = .error error ∧ after = before ∧
        (before.shared.temp = none ∨ fails .renameTemp))
  | before, .removeTemp, answer, after =>
      (answer = .ok () ∧
        after = { before with shared := { before.shared with temp := none } }) ∨
      (∃ error, answer = .error error ∧ after = before ∧ fails .removeTemp)
  | before, .now, _, after => after = before
  | before, .wait _ _, _, after => after = before
  | before, .random, _, after => after = before

/-- The questions that change a file. -/
def isWrite : FileAsk → Bool
  | .appendLog _ => true
  | .writeTemp _ => true
  | .renameTemp => true
  | .removeTemp => true
  | _ => false

/-- Whether the answer says that the lock was made. -/
def isTaken : (question : FileAsk) → FileAnswer question → Bool
  | .makeLock, .ok () => true
  | _, _ => false

variable {fails : FileAsk → Prop}

def diskRules (fails : FileAsk → Prop) : LockRules (Responds fails) where
  takes := isTaken
  frees question := question = .removeLock
  writes question := isWrite question = true
  taken := by
    intro before question answer after hanswer htaken
    cases question with
    | makeLock =>
        rcases hanswer with ⟨-, hfree, rfl⟩ | ⟨error, rfl, -, -⟩
        · exact ⟨hfree, rfl, rfl⟩
        · cases htaken
    | _ => cases htaken
  freed := by
    rintro before question answer after hanswer rfl
    obtain ⟨-, rfl⟩ := hanswer
    exact ⟨rfl, rfl⟩
  kept := by
    intro before question answer after hanswer htaken hfrees
    cases question with
    | makeLock =>
        rcases hanswer with ⟨rfl, -, -⟩ | ⟨error, -, rfl, -⟩
        · cases htaken
        · rfl
    | removeLock => exact absurd rfl hfrees
    | findLink => rw [hanswer.1]
    | makeDir => rw [hanswer.1]
    | logExists => rw [hanswer.1]
    | readLog => rw [hanswer.1]
    | appendLog text =>
        rcases hanswer with ⟨-, rfl⟩ | ⟨error, -, rfl, -⟩ <;> rfl
    | writeTemp text =>
        rcases hanswer with ⟨-, rfl⟩ | ⟨error, temp, -, -, rfl⟩ <;> rfl
    | renameTemp =>
        rcases hanswer with ⟨text, -, -, rfl⟩ | ⟨error, -, rfl, -⟩ <;> rfl
    | removeTemp =>
        rcases hanswer with ⟨-, rfl⟩ | ⟨error, -, rfl, -⟩ <;> rfl
    | now => exact congrArg Store.locked hanswer
    | wait => exact congrArg Store.locked hanswer
    | random => exact congrArg Store.locked hanswer
  unwritten := by
    intro before question answer after hanswer hwrites
    cases question with
    | makeLock =>
        rcases hanswer with ⟨-, -, rfl⟩ | ⟨error, -, rfl, -⟩ <;> rfl
    | removeLock => rw [hanswer.2]
    | findLink => rw [hanswer.1]
    | makeDir => rw [hanswer.1]
    | logExists => rw [hanswer.1]
    | readLog => rw [hanswer.1]
    | appendLog text => exact absurd rfl hwrites
    | writeTemp text => exact absurd rfl hwrites
    | renameTemp => exact absurd rfl hwrites
    | removeTemp => exact absurd rfl hwrites
    | now => exact congrArg Store.shared hanswer
    | wait => exact congrArg Store.shared hanswer
    | random => exact congrArg Store.shared hanswer

end OdinSentinel.Registry
