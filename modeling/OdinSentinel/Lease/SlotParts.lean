import OdinSentinel.Core.LockedParts
import OdinSentinel.Lease.Apart
import OdinSentinel.Lease.Fencing
import OdinSentinel.Lease.RecordText

/-!
# The slots of a directory as parts under locks

A slot's part of the directory is its record file and the temporary files beside it, and
its lock directory guards it.
-/

namespace OdinSentinel.Lease.Store

open JsText Host Dialogue FileTree PosixPath

/-- The record file of a slot, and the temporary file of every process. -/
structure SlotPart where
  record : Option Node
  temp : Nat → Option Node

def slotPart (place : Place) (tree : Tree) (slot : JsString) : SlotPart where
  record := tree (recordName slot :: place)
  temp pid := tree (tempName pid slot :: place)

/-- What stands at a record's place, as the record's reader takes it. -/
def fileOf : Option Node → LeaseFile
  | none => .absent
  | some .directory => .notJson []
  | some (.file text) =>
      match Json.parse text with
      | some value => .json value
      | none => .notJson []

/-- What is written for a record with a safe token is that record's file. -/
theorem fileOf_recordText (host : HostRuntime) {record : LeaseRecord}
    (htoken : record.token < 2 ^ 53) :
    fileOf (some (.file (recordText host record))) = .json record.toJson := by
  rw [fileOf, parse_recordText htoken]

/-! ## Answers that can be relied on -/

/-- `existsSync` denies only what is not there, and the clock is one of some readings. -/
def Honest (reads : JsNumber → Prop) (tree : Tree) : (question : Ask) → AskAnswer question → Prop
  | .sys (.existsSync place), found => found = false → tree place = none
  | .clock, now => reads now
  | _, _ => True

/-- Every token in the directory can be raised within the safe integers. -/
def HasRoom (place : Place) (tree : Tree) : Prop :=
  ∀ slot, (fileOf (tree (recordName slot :: place))).register.token + 1 < 2 ^ 53

def soundAnswers (place : Place) (reads : JsNumber → Prop) : Answers Tree Ask AskAnswer :=
  fun tree question answer after => storeAnswers tree question answer after ∧
    Honest reads tree question answer ∧ HasRoom place tree

/-! ## What a question reaches -/

/-- Where a question can change the tree. -/
def Reaches : Ask → Place → Prop
  | .sys call, within => Touches call within
  | .clock, _ => False
  | .locking lockDir question, within =>
      ¬Registry.LockAsks question ∨ question = .makeLock ∧ within = lockDir

theorem storeAnswers_unreached {tree after : Tree} {question : Ask} {answer : AskAnswer question}
    (hanswer : storeAnswers tree question answer after) {within : Place}
    (hwithin : ¬Reaches question within) : after within = tree within := by
  cases question with
  | sys call => exact answers_untouched hanswer hwithin
  | clock => exact congrFun hanswer within
  | locking lockDir question =>
      obtain ⟨hlock, hother⟩ := not_or.mp hwithin
      cases not_not.mp hlock with
      | makeLock =>
          exact @answers_untouched Registry.FsError _ _ (.mkdirSync lockDir) _ hanswer within
            fun hsame => hother ⟨rfl, hsame⟩
      | now | wait | random => exact congrFun hanswer within

/-- A question about some slots reaches no other name in their directory. -/
theorem not_reaches_of_mayAsk {place : Place} {pid : Nat} {slots : List JsString} {question : Ask}
    (hmay : MayAsk place pid slots question) {name : Segment}
    (hname : ∀ slot ∈ slots, slotPattern slot = true → name ∉ slotNames pid slot) :
    ¬Reaches question (name :: place) := by
  have hown : ∀ own, IsOwn place pid slots own → ¬own <:+ name :: place := by
    rintro own ⟨slot, hslot, hpattern, other, hother, rfl⟩ hbelow
    have hsame : other :: place = name :: place := hbelow.eq_of_length (by simp)
    rw [(List.cons.inj hsame).1] at hother
    exact hname slot hslot hpattern hother
  have hself : ∀ own, IsOwn place pid slots own → name :: place ≠ own := by
    rintro own howned rfl
    exact hown _ howned List.suffix_rfl
  cases question with
  | sys call =>
      cases call with
      | existsSync | readFileSync => exact id
      | mkdirRecursive made =>
          have hmade : made = place := hmay
          intro habove
          have hlong := List.IsSuffix.length_le habove
          rw [hmade, List.length_cons] at hlong
          omega
      | mkdirSync made => exact hself made hmay
      | writeFileSync written text => exact hself written hmay
      | renameSync source target => exact not_or.mpr ⟨hown source hmay.1, hown target hmay.2⟩
      | rmdirSync removed => exact hself removed hmay
  | clock => exact id
  | locking lockDir question =>
      exact not_or.mpr ⟨not_not.mpr hmay.1, fun hmade => hself lockDir hmay.2 hmade.2⟩

/-! ## The guards -/

/-- A question after which a slot's lock may not stand any more. -/
def Frees (place : Place) : Ask → JsString → Prop
  | .locking _ question, _ => ¬Registry.LockAsks question
  | question, slot => Reaches question (lockName slot :: place)

/-- A question after which a slot's part may be another. -/
def Changes (place : Place) (question : Ask) (slot : JsString) : Prop :=
  Reaches question (recordName slot :: place) ∨
    ∃ pid, Reaches question (tempName pid slot :: place)

/-- An answer that gives a slot's lock. -/
def Takes (place : Place) : (question : Ask) → AskAnswer question → JsString → Prop
  | .locking lockDir .makeLock, answer, slot => answer = .ok () ∧ lockDir = lockName slot :: place
  | _, _, _ => False

theorem slotPart_unchanged {place : Place} {tree after : Tree} {question : Ask}
    {answer : AskAnswer question} (hanswer : storeAnswers tree question answer after)
    {slot : JsString} (hchanges : ¬Changes place question slot) :
    slotPart place after slot = slotPart place tree slot := by
  obtain ⟨hrecord, htemp⟩ := not_or.mp hchanges
  rw [slotPart, slotPart, storeAnswers_unreached hanswer hrecord]
  congr 1
  funext pid
  exact storeAnswers_unreached hanswer fun hreaches => htemp ⟨pid, hreaches⟩

theorem lock_taken {place : Place} {tree after : Tree} {question : Ask}
    {answer : AskAnswer question} (hanswer : storeAnswers tree question answer after)
    {slot : JsString} (htakes : Takes place question answer slot) :
    ¬(tree (lockName slot :: place)).isSome ∧ (after (lockName slot :: place)).isSome := by
  cases question with
  | sys call => exact htakes.elim
  | clock => exact htakes.elim
  | locking lockDir question =>
      cases question with
      | makeLock =>
          obtain ⟨rfl, rfl⟩ := htakes
          obtain ⟨hfree, hmade⟩ := hanswer
          rw [hfree, hmade, Tree.put, Function.update_self]
          exact ⟨Bool.false_ne_true, rfl⟩
      | _ => exact htakes.elim

theorem lock_stays {place : Place} {tree after : Tree} {question : Ask}
    {answer : AskAnswer question} (hanswer : storeAnswers tree question answer after)
    {slot : JsString} (hfrees : ¬Frees place question slot)
    (hheld : (tree (lockName slot :: place)).isSome) :
    (after (lockName slot :: place)).isSome := by
  cases question with
  | sys call =>
      rw [storeAnswers_unreached hanswer hfrees]
      exact hheld
  | clock =>
      rw [storeAnswers_unreached hanswer hfrees]
      exact hheld
  | locking lockDir question =>
      by_cases hmade : question = .makeLock ∧ lockName slot :: place = lockDir
      · -- Only a directory can come to stand at the lock's place.
        obtain ⟨rfl, rfl⟩ := hmade
        cases answer with
        | ok made =>
            rw [hanswer.2, Tree.put, Function.update_self]
            rfl
        | error fault =>
            rw [show after = tree from hanswer]
            exact hheld
      · rw [storeAnswers_unreached hanswer (not_or.mpr ⟨hfrees, hmade⟩)]
        exact hheld

/-- The lock directory of each slot guards the slot's part. -/
def slotGuards (place : Place) (reads : JsNumber → Prop) :
    Guards (soundAnswers place reads) JsString SlotPart where
  part := slotPart place
  held tree slot := (tree (lockName slot :: place)).isSome
  takes := Takes place
  frees := Frees place
  changes := Changes place
  taken := fun hanswer htakes => lock_taken hanswer.1 htakes
  stays := fun hanswer hfrees hheld => lock_stays hanswer.1 hfrees hheld
  unchanged := fun hanswer hchanges => slotPart_unchanged hanswer.1 hchanges

/-! ## Sparing -/

variable {place : Place} {reads : JsNumber → Prop} {pid : Nat} {slots : List JsString}
variable {question : Ask}

theorem spares_of_not_reaches {slot : JsString}
    (hnot : ∀ pid, ∀ name ∈ slotNames pid slot, ¬Reaches question (name :: place))
    (hlock : ∀ lockDir asked, question = .locking lockDir asked → Registry.LockAsks asked) :
    (slotGuards place reads).Spares question slot := by
  have hrecord := hnot 0 (recordName slot) (by simp [slotNames])
  have htemp : ∀ pid, ¬Reaches question (tempName pid slot :: place) :=
    fun pid => hnot pid _ (by simp [slotNames])
  have hlockDir := hnot 0 (lockName slot) (by simp [slotNames])
  refine ⟨?_, not_or.mpr ⟨hrecord, not_exists.mpr htemp⟩⟩
  cases question with
  | sys call => exact hlockDir
  | clock => exact hlockDir
  | locking lockDir asked => exact not_not.mpr (hlock lockDir asked rfl)

/-- A question about some slots spares the others. -/
theorem spares_of_mayAsk (hmay : MayAsk place pid slots question) {slot : JsString}
    (hslot : slot ∉ slots) : (slotGuards place reads).Spares question slot := by
  apply spares_of_not_reaches
  · intro otherPid name hname
    apply not_reaches_of_mayAsk hmay
    intro other hother _
    apply slotNames_disjoint _ hname
    rintro rfl
    exact hslot hother
  · rintro lockDir asked rfl
    exact hmay.1

/-- A question that changes nothing spares every slot. -/
theorem spares_of_mayAsk_nil (hmay : MayAsk place pid [] question) (slot : JsString) :
    (slotGuards place reads).Spares question slot :=
  spares_of_mayAsk hmay List.not_mem_nil

end OdinSentinel.Lease.Store
