import Mathlib.Logic.Function.Basic
import OdinSentinel.Core.PosixPath

/-!
# A tree of files

A file system without links as a map from places to nodes, the system calls that read and
change it, and what each of them can touch.  A call may fail at any time; reading calls and
failed ones leave the tree, a failed write may leave a part of its text.
-/

namespace OdinSentinel.FileTree

open JsText PosixPath

inductive Node
  | directory
  | file (text : JsString)
  deriving DecidableEq

abbrev Tree := Place → Option Node

namespace Tree

def put (tree : Tree) (place : Place) (node : Option Node) : Tree :=
  Function.update tree place node

/-- The tree in which what was at `source`, with all that is in it, is at `target`. -/
def move (tree : Tree) (source target : Place) : Tree := fun place =>
  if target <:+ place then tree (place.take (place.length - target.length) ++ source)
  else if source <:+ place then none
  else tree place

theorem put_self (tree : Tree) (place : Place) (node : Option Node) :
    tree.put place node place = node :=
  Function.update_self _ _ _

theorem put_of_ne (tree : Tree) {place other : Place} (node : Option Node) (hne : other ≠ place) :
    tree.put place node other = tree other := by
  rw [put, Function.update_of_ne hne]

theorem move_of_not_within (tree : Tree) {source target place : Place}
    (hsource : ¬source <:+ place) (htarget : ¬target <:+ place) :
    tree.move source target place = tree place := by
  rw [move, if_neg htarget, if_neg hsource]

end Tree

/-! ## System calls -/

inductive SysCall
  | existsSync (place : Place)
  | readFileSync (place : Place)
  | mkdirRecursive (place : Place)
  | mkdirSync (place : Place)
  | writeFileSync (place : Place) (text : JsString)
  | renameSync (source target : Place)
  | rmdirSync (place : Place)

abbrev SysAnswer (Fault : Type) : SysCall → Type
  | .existsSync _ => Bool
  | .readFileSync _ => Except Fault JsString
  | _ => Except Fault Unit

variable {Fault : Type}

/-- How a tree answers a call, and the tree behind it. -/
def answers (tree : Tree) : (call : SysCall) → SysAnswer Fault call → Tree → Prop
  | .existsSync place, found, after => (found = true → (tree place).isSome) ∧ after = tree
  | .readFileSync place, answer, after =>
      (∀ text, answer = .ok text → tree place = some (.file text)) ∧ after = tree
  | .mkdirRecursive place, answer, after =>
      (∀ other, after other = tree other ∨
        other <:+ place ∧ tree other = none ∧ after other = some .directory) ∧
      (answer = .ok () → after place = some .directory)
  | .mkdirSync place, answer, after =>
      match answer with
      | .ok () => tree place = none ∧ after = tree.put place (some .directory)
      | .error _ => after = tree
  | .writeFileSync place text, answer, after =>
      match answer with
      | .ok () => after = tree.put place (some (.file text))
      | .error _ => after = tree ∨ ∃ written, written <+: text ∧
          after = tree.put place (some (.file written))
  | .renameSync source target, answer, after =>
      match answer with
      | .ok () => (tree source).isSome ∧ after = tree.move source target
      | .error _ => after = tree
  | .rmdirSync place, answer, after =>
      match answer with
      | .ok () => tree place = some .directory ∧
          (∀ other, place <:+ other → other ≠ place → tree other = none) ∧
          after = tree.put place none
      | .error _ => after = tree

/-- Where a call can change the tree. -/
def Touches : SysCall → Place → Prop
  | .existsSync _, _ => False
  | .readFileSync _, _ => False
  | .mkdirRecursive made, place => place <:+ made
  | .mkdirSync made, place => place = made
  | .writeFileSync written _, place => place = written
  | .renameSync source target, place => source <:+ place ∨ target <:+ place
  | .rmdirSync removed, place => place = removed

/-- A call leaves alone what it does not touch. -/
theorem answers_untouched {tree after : Tree} {call : SysCall} {answer : SysAnswer Fault call}
    (hanswer : answers tree call answer after) {place : Place} (huntouched : ¬Touches call place) :
    after place = tree place := by
  cases call with
  | existsSync | readFileSync => exact congrFun hanswer.2 place
  | mkdirRecursive made =>
      rcases hanswer.1 place with hsame | ⟨hwithin, -⟩
      · exact hsame
      · exact absurd hwithin huntouched
  | mkdirSync made =>
      cases answer with
      | ok made =>
          rw [hanswer.2]
          exact tree.put_of_ne _ huntouched
      | error fault => exact congrFun hanswer place
  | writeFileSync written text =>
      cases answer with
      | ok done =>
          rw [show after = _ from hanswer]
          exact tree.put_of_ne _ huntouched
      | error fault =>
          rcases hanswer with rfl | ⟨part, -, rfl⟩
          · rfl
          · exact tree.put_of_ne _ huntouched
  | renameSync source target =>
      obtain ⟨hsource, htarget⟩ := not_or.mp huntouched
      cases answer with
      | ok moved =>
          rw [hanswer.2]
          exact tree.move_of_not_within hsource htarget
      | error fault => exact congrFun hanswer place
  | rmdirSync removed =>
      cases answer with
      | ok done =>
          rw [hanswer.2.2]
          exact tree.put_of_ne _ huntouched
      | error fault => exact congrFun hanswer place

end OdinSentinel.FileTree
