import OdinSentinel.Lease.SlotParts
import OdinSentinel.Registry.Locking

/-!
# Contention for a slot's lock

An attempt at a slot's lock spares every slot, and says truly whether it has the lock.
-/

namespace OdinSentinel.Lease.Store

open JsText Host Dialogue FileTree PosixPath

variable {place : Place} {reads : JsNumber → Prop} {Own Value : Type}
variable {moves : Moves Own JsString SlotPart} {own : Own}
variable {slot : JsString} {fails : Registry.FileAsk → Prop} {locked : Value → Bool}

/-- The attempt at a lock, as a dialogue of the lease store. -/
def lockingTalk (lockDir : Place)
    (program : Program Registry.FileAsk Registry.FileAnswer (Except Registry.Halt Value)) :
    Program Ask AskAnswer (Except Registry.Halt Value) :=
  program.translate fun question => Program.request (.locking lockDir question)

/-- What an attempt at a lock asks changes no part, and frees no lock. -/
theorem spares_locking {question : Registry.FileAsk} (hlock : Registry.LockAsks question)
    (other : JsString) :
    (slotGuards place reads).Spares (.locking (lockName slot :: place) question) other := by
  have hrecord : recordName other ≠ lockName slot :=
    ne_of_last (last_recordName other) (last_lockName slot) (by decide)
  have htemp : ∀ pid, tempName pid other ≠ lockName slot :=
    fun pid => ne_of_last (last_tempName pid other) (last_lockName slot) (by decide)
  have hreaches : ∀ name, name ≠ lockName slot →
      ¬Reaches (.locking (lockName slot :: place) question) (name :: place) := by
    intro name hname
    exact not_or.mpr ⟨not_not.mpr hlock, fun hmade => hname (List.cons.inj hmade.2).1⟩
  refine ⟨not_not.mpr hlock, not_or.mpr ⟨hreaches _ hrecord, ?_⟩⟩
  exact not_exists.mpr fun pid => hreaches _ (htemp pid)

/-- The lock is held, and the outcome says so. -/
def Got (locked : Value → Bool) (own : Own) (slot : JsString) (holding : Holding JsString SlotPart)
    (next : Own) (outcome : Except Registry.Halt Value) : Prop :=
  next = own ∧ (∃ part, holding = some (slot, part)) ∧
    ∃ value, outcome = .ok value ∧ locked value = true

/-- The lock is not held, and no outcome says that it is. -/
def Lost (locked : Value → Bool) (own : Own) (holding : Holding JsString SlotPart) (next : Own)
    (outcome : Except Registry.Halt Value) : Prop :=
  next = own ∧ holding = none ∧ ∀ value, outcome = .ok value → locked value = false

variable (place reads slot)

/-- Behind the lock no other attempt is made. -/
theorem refines_got {before disk : Registry.Disk}
    {program : Program Registry.FileAsk Registry.FileAnswer (Except Registry.Halt Value)}
    (hasks : Asks Registry.LockAsks program)
    (hensures : Ensures (Registry.Responds fails) (Registry.diskRules fails).Stays
      (Registry.Took locked before) program disk)
    (hstay : ∀ part, moves own slot part own part) (part : SlotPart) :
    (slotGuards place reads).Refines moves (Got locked own slot)
      (lockingTalk (lockName slot :: place) program) (some (slot, part)) own := by
  apply Rested.of_now
  induction program generalizing disk part with
  | done outcome =>
      obtain ⟨value, houtcome, hlocked, -⟩ := hensures
      exact ⟨rfl, ⟨part, rfl⟩, value, houtcome, hlocked⟩
  | ask question next ih =>
      have hlock := hasks.1
      have hspares : ∀ other, (slotGuards place reads).Spares
          (.locking (lockName slot :: place) question) other := spares_locking hlock
      refine ⟨fun other _ => hspares other, fun tree answer after hanswer hpart => ?_⟩
      have hsame : (slotGuards place reads).part after slot = part :=
        ((slotGuards place reads).unchanged hanswer (hspares slot).2).trans hpart
      rw [hsame]
      refine ⟨own, hstay part, .inr ⟨(hspares slot).1, .of_now ?_⟩⟩
      have hstays := hensures.1.2
      cases hlock with
      | makeLock => cases hstays (.ok ())
      | now | wait | random =>
          exact ih answer (hasks.2 answer () trivial) (hensures.2 answer disk rfl) part

/-- The attempts at a lock tell truly whether it is held. -/
theorem refines_attempts
    {program : Program Registry.FileAsk Registry.FileAnswer (Except Registry.Halt Value)}
    (hasks : Asks Registry.LockAsks program)
    (hacquires : (Registry.diskRules fails).Acquires (Registry.Took locked)
      (Registry.Missed locked) program)
    (hstay : ∀ part, moves own slot part own part) :
    (slotGuards place reads).Refines moves
      (fun holding next outcome =>
        Got locked own slot holding next outcome ∨ Lost locked own holding next outcome)
      (lockingTalk (lockName slot :: place) program) none own := by
  apply Rested.of_now
  induction program with
  | done outcome => exact .inr ⟨rfl, rfl, hacquires⟩
  | ask question next ih =>
      have hlock := hasks.1
      refine ⟨spares_locking hlock, fun tree answer after hanswer => ?_⟩
      have hrest := hasks.2 answer () trivial
      obtain ⟨-, -, hanswers⟩ := hacquires
      cases htakes : (Registry.diskRules fails).takes question answer with
      | false => exact .inr (.of_now (ih answer hrest ((hanswers answer).2 htakes)))
      | true =>
          cases hlock with
          | makeLock =>
              cases answer with
              | error fault => cases htakes
              | ok made =>
                  let disk : Registry.Disk := { locked := false, shared := { log := none, temp := none } }
                  have hmade : Registry.Responds fails disk .makeLock (.ok ())
                      { disk with locked := true } := .inl ⟨rfl, rfl, rfl⟩
                  have hgot := refines_got place reads slot hrest
                    ((hanswers (.ok ())).1 rfl disk _ hmade) hstay
                  exact .inl ⟨slot, ⟨rfl, rfl⟩, (hgot _).mono fun _ _ _ => .inl⟩
          | now | wait | random => cases htakes

/-- An attempt at a slot's lock spares every slot and tells truly whether it is held. -/
theorem refines_acquireLock (options : StoreOptions) (fuel : Nat)
    (hstay : ∀ part, moves own slot part own part) :
    (slotGuards place reads).Refines moves
      (fun holding next outcome => next = own ∧ ∀ acquisition, outcome = .ok acquisition →
        (acquisition.locked = true → ∃ part, holding = some (slot, part)) ∧
          (acquisition.locked = false → holding = none))
      (acquireLock options fuel (lockName slot :: place)).run none own := by
  have hasks := Registry.acquireRegistryLockBy_asks Registry.sleepSync_asks
    { maxLockAttempts := none, lockRetryMs := none, lockBudgetMs := options.lockBudgetMs } fuel
  have hacquires := @Registry.acquireRegistryLockBy_acquires (fun _ => True) _
    Registry.sleepSync_quiet
    { maxLockAttempts := none, lockRetryMs := none, lockBudgetMs := options.lockBudgetMs } fuel
  apply (refines_attempts place reads slot hasks hacquires hstay).bind
  intro holding next outcome hoffer
  apply Rested.of_now
  cases outcome with
  | error halt =>
      refine ⟨hoffer.elim And.left And.left, ?_⟩
      rintro acquisition ⟨⟩
  | ok acquisition =>
      rcases hoffer with ⟨rfl, hheld, value, hvalue, hlocked⟩ | ⟨rfl, hfree, hlocked⟩
      · cases hvalue
        refine ⟨rfl, ?_⟩
        rintro _ ⟨⟩
        exact ⟨fun _ => hheld, fun hmissed => absurd (hlocked.symm.trans hmissed) (by decide)⟩
      · refine ⟨rfl, ?_⟩
        rintro _ ⟨⟩
        have hmissed := hlocked acquisition rfl
        exact ⟨fun hgot => absurd (hgot.symm.trans hmissed) (by decide), fun _ => hfree⟩

end OdinSentinel.Lease.Store
