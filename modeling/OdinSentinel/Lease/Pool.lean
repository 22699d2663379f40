import OdinSentinel.Core.Transition
import OdinSentinel.Lease.AnyOf

/-!
# Lease pools

The record files of one lease directory and the any-of calls in progress on it.
A single-slot call is one step, a visit of an any-of call is one step, and the
steps of any number of holders interleave freely, each with its own clock.
-/

namespace OdinSentinel.Lease

open JsText Host Transition

/-- The record file of every slot and the any-of calls in progress, by number. -/
structure Pool where
  files : JsString → LeaseFile
  calls : Nat → Option AnyCall

/-- One step: a whole single-slot call, or the start or one visit of an any-of call. -/
inductive Operation
  | acquire (slot holder : JsString) (ttlSeconds : JsNumber) (options : LeaseOptions)
      (around : Surroundings)
  | acquireAny (call : Nat) (slots : List JsString) (holder : JsString)
      (ttlSeconds : JsNumber) (options : LeaseOptions) (allow : AllowFile)
  | visit (call : Nat) (around : Surroundings)
  | renew (slot holder : JsString) (token ttlSeconds : JsNumber) (options : LeaseOptions)
      (around : Surroundings)
  | release (slot holder : JsString) (token : JsNumber) (around : Surroundings)

namespace Pool

/-- No record file and no call. -/
def empty : Pool := { files := fun _ => .absent, calls := fun _ => none }

def setFile (pool : Pool) (slot : JsString) (file : LeaseFile) : Pool :=
  { pool with files := Function.update pool.files slot file }

def setCall (pool : Pool) (call : Nat) (progress : Option AnyCall) : Pool :=
  { pool with calls := Function.update pool.calls call progress }

@[simp]
theorem setFile_files_self (pool : Pool) (slot : JsString) (file : LeaseFile) :
    (pool.setFile slot file).files slot = file := by
  simp [setFile]

@[simp]
theorem setFile_files_of_ne (pool : Pool) {slot other : JsString} (file : LeaseFile)
    (hne : other ≠ slot) : (pool.setFile slot file).files other = pool.files other := by
  simp [setFile, hne]

@[simp]
theorem setFile_calls (pool : Pool) (slot : JsString) (file : LeaseFile) :
    (pool.setFile slot file).calls = pool.calls := rfl

@[simp]
theorem setCall_files (pool : Pool) (call : Nat) (progress : Option AnyCall) :
    (pool.setCall call progress).files = pool.files := rfl

@[simp]
theorem setCall_calls_self (pool : Pool) (call : Nat) (progress : Option AnyCall) :
    (pool.setCall call progress).calls call = progress := by
  simp [setCall]

@[simp]
theorem setCall_calls_of_ne (pool : Pool) {call other : Nat} (progress : Option AnyCall)
    (hne : other ≠ call) : (pool.setCall call progress).calls other = pool.calls other := by
  simp [setCall, hne]

end Pool

/-- The call that is left in progress. -/
def Progress.call : Progress → Option AnyCall
  | .finished _ => none
  | .visiting call => some call

variable (host : HostRuntime) (dir : JsString)

/-- The pool after one step.  A number names one call at a time. -/
def next (pool : Pool) : Operation → Pool
  | .acquire slot holder ttlSeconds options around =>
      pool.setFile slot
        (acquireLease host dir slot holder ttlSeconds options around (pool.files slot)).2
  | .acquireAny call slots holder ttlSeconds options allow =>
      match pool.calls call with
      | some _ => pool
      | none =>
          match acquireAnyLease host slots holder ttlSeconds options allow with
          | .error _ => pool
          | .ok started => pool.setCall call (some started)
  | .visit call around =>
      match pool.calls call with
      | none => pool
      | some visiting =>
          let result := visiting.visit host dir around (pool.files visiting.current)
          (pool.setFile visiting.current result.2).setCall call result.1.call
  | .renew slot holder token ttlSeconds options around =>
      pool.setFile slot
        (renewLease host dir slot holder token ttlSeconds options around (pool.files slot)).2
  | .release slot holder token around =>
      pool.setFile slot
        (releaseLease host dir slot holder token around (pool.files slot)).2

/-- The slot that a step works on. -/
def targetOf (pool : Pool) : Operation → Option JsString
  | .acquire slot _ _ _ _ => some slot
  | .acquireAny _ _ _ _ _ _ => none
  | .visit call _ => (pool.calls call).map AnyCall.current
  | .renew slot _ _ _ _ _ => some slot
  | .release slot _ _ _ => some slot

/-- A step leaves the files of the other slots alone. -/
theorem next_files_of_ne {pool : Pool} {operation : Operation} {slot : JsString}
    (hslot : targetOf pool operation ≠ some slot) :
    (next host dir pool operation).files slot = pool.files slot := by
  cases operation with
  | acquire | renew | release =>
      exact pool.setFile_files_of_ne _ fun hsame => hslot (congrArg some hsame.symm)
  | acquireAny call =>
      rw [next]
      split
      · rfl
      · split <;> rfl
  | visit call =>
      rw [next]
      split
      · rfl
      · rename_i visiting hvisiting
        rw [targetOf, hvisiting] at hslot
        exact pool.setFile_files_of_ne _ fun hsame => hslot (congrArg some hsame.symm)

theorem targetOf_of_ne {pool : Pool} {operation : Operation} {slot : JsString}
    (hne : (next host dir pool operation).files slot ≠ pool.files slot) :
    targetOf pool operation = some slot :=
  not_not.mp fun hslot => hne (next_files_of_ne host dir hslot)

/-- A record that a step's own call reports as granted. -/
structure Grant where
  slot : JsString
  holder : JsString
  record : LeaseRecord

/-- What the acquiring calls report, step by step. -/
def granted (pool : Pool) : Operation → Option Grant
  | .acquire slot holder ttlSeconds options around =>
      match (acquireLease host dir slot holder ttlSeconds options around (pool.files slot)).1 with
      | .ok (.ok result) => some { slot, holder, record := result.record }
      | _ => none
  | .visit call around =>
      match pool.calls call with
      | none => none
      | some visiting =>
          match (visiting.visit host dir around (pool.files visiting.current)).1 with
          | .finished (.ok (.ok result)) =>
              some { slot := result.slot, holder := visiting.holder, record := result.record }
          | _ => none
  | _ => none

end OdinSentinel.Lease
