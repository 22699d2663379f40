import OdinSentinel.Core.Fallible
import OdinSentinel.Lease.Record

/-!
# Slot lease operations

Every operation is the body it runs under the slot's lock, from the record read
there to the record written there.  An any-of acquire takes one lock at a time,
so a call of it is a little machine that visits one slot after another.
-/

namespace OdinSentinel.Lease

open JsText Host Fallible

/-- What an operation can throw instead of returning a result. -/
inductive Thrown
  | rangeError
  | writeError
  deriving DecidableEq

/-- What surrounds one locked body: the allow-list as it is read before the lock
and under it, a directory that cannot be made, a lock that is not obtained (its
attempts and elapsed time), the clock, and a write that fails. -/
structure Surroundings where
  allowBefore : AllowFile
  dirFault : Option JsString
  lockFault : Option (Nat × JsNumber)
  allowInside : AllowFile
  clock : JsNumber
  writeFault : Bool

/-- Nothing fails and no allow-list is there. -/
def Surroundings.calm (clock : JsNumber) : Surroundings :=
  { allowBefore := .absent, dirFault := none, lockFault := none, allowInside := .absent, clock
    writeFault := false }

/-- The directory, the lock and the write of a locked body do not fail. -/
def Surroundings.letsWrite (around : Surroundings) : Bool :=
  around.dirFault.isNone && around.lockFault.isNone && !around.writeFault

/-- What a locked body comes to: its result, and the record that it persists if any. -/
abbrev Answer (α : Type) := LeaseResult α × Option LeaseRecord

def persist {α : Type} (record : LeaseRecord) (extra : α) : Except Thrown (Answer α) :=
  .ok (.ok extra, some record)

/-- A body that returns without writing. -/
def unchanged {α : Type} (result : LeaseResult α) : Except Thrown (Answer α) := .ok (result, none)

def iso (host : HostRuntime) (ms : JsNumber) : Except Thrown JsString :=
  match host.toISOString ms with
  | some text => .ok text
  | none => .error .rangeError

/-- One read-modify-write of a slot under its lock: the reply and the file left. -/
def withSlotLock {α : Type} (host : HostRuntime) (dir slot : JsString)
    (around : Surroundings) (file : LeaseFile)
    (body : LeaseRecord → Except Thrown (Answer α)) : Except Thrown (LeaseResult α) × LeaseFile :=
  match around.dirFault with
  | some message =>
      (.ok (refusal .lease_dir_unavailable
        (js "lease directory " ++ dir ++ js " cannot be created: " ++ message)), file)
  | none =>
      match around.lockFault with
      | some (attempts, elapsedMs) =>
          (.ok (refusal .lock_unavailable
            (js "slot lock " ++ lockPath host dir slot ++ js " held by another writer after " ++
              natText attempts ++ js " attempt(s) over " ++ host.numberText elapsedMs ++
              js " ms; failing closed")), file)
      | none =>
          match readLease host dir slot around.allowInside file with
          | .error reason => (.ok (.error reason), file)
          | .ok record =>
              match body record with
              | .error thrown => (.error thrown, file)
              | .ok (result, none) => (.ok result, file)
              | .ok (result, some next) =>
                  if around.writeFault then (.error .writeError, file)
                  else (.ok result, .json next.toJson)

/-- The allow-list, then the slot's lock. -/
def withAllowedSlotLock {α : Type} (host : HostRuntime) (dir slot : JsString)
    (around : Surroundings) (file : LeaseFile)
    (body : LeaseRecord → Except Thrown (Answer α)) : Except Thrown (LeaseResult α) × LeaseFile :=
  match ensureSlotAllowed around.allowBefore slot with
  | .error reason => (.ok (.error reason), file)
  | .ok () => withSlotLock host dir slot around file body

/-! ## The bodies -/

namespace LeaseRecord

/-- A new tenure under a token raised by one. -/
def grant (record : LeaseRecord) (holder acquiredAt expiresAt : JsString) : LeaseRecord :=
  { record with token := record.token + 1, tenure := some { holder, acquiredAt, expiresAt } }

/-- The same holder and token with new instants. -/
def refresh (record : LeaseRecord) (tenure : Tenure) (acquiredAt expiresAt : JsString) :
    LeaseRecord :=
  { record with tenure := some { tenure with acquiredAt, expiresAt } }

/-- A free slot that keeps its token. -/
def free (record : LeaseRecord) : LeaseRecord := { record with tenure := none }

end LeaseRecord

structure AcquireResult where
  record : LeaseRecord
  acquired : Bool
  tookOver : Bool
  deriving DecidableEq

def slotHeldDetail (slot : JsString) (record : LeaseRecord) (tenure : Tenure) : JsString :=
  js "slot \"" ++ slot ++ js "\" is held by \"" ++ tenure.holder ++ js "\" (token " ++
    natText record.token ++ js ") until " ++ tenure.expiresAt

def expiryOf (host : HostRuntime) (clock ttlSeconds : JsNumber) : Except Thrown JsString :=
  iso host (clock.plus (ttlSeconds.mul (.ofNat 1000)))

def acquireBody (host : HostRuntime) (slot holder : JsString) (ttlSeconds : JsNumber)
    (options : LeaseOptions) (clock : JsNumber) (record : LeaseRecord) :
    Except Thrown (Answer AcquireResult) := do
  let skew := skewMs options
  let expiresAt ← expiryOf host clock ttlSeconds
  match record.tenure with
  | none =>
      let next := record.grant holder (← iso host clock) expiresAt
      persist next { record := next, acquired := true, tookOver := false }
  | some tenure =>
      if tenure.holder = holder then
        let next := record.refresh tenure (← iso host clock) expiresAt
        persist next { record := next, acquired := false, tookOver := false }
      else if isExpired host record clock skew then
        let next := record.grant holder (← iso host clock) expiresAt
        persist next { record := next, acquired := true, tookOver := true }
      else
        unchanged (refusal .slot_held (slotHeldDetail slot record tenure))

/-- The checks that renew and release share: this holder, with this token. -/
def currentTenure (host : HostRuntime) (slot holder : JsString) (token : JsNumber)
    (record : LeaseRecord) : LeaseResult Tenure :=
  match record.tenure with
  | none => refusal .lease_missing (js "slot \"" ++ slot ++ js "\" has no holder")
  | some tenure =>
      if tenure.holder ≠ holder then
        refusal .not_holder
          (js "slot \"" ++ slot ++ js "\" is held by \"" ++ tenure.holder ++ js "\", not \"" ++
            holder ++ js "\"")
      else if JsNumber.ofNat record.token ≠ token then
        refusal .stale_token
          (js "slot \"" ++ slot ++ js "\" is at token " ++ natText record.token ++
            js "; this holder presented " ++ host.numberText token)
      else .ok tenure

def renewBody (host : HostRuntime) (slot holder : JsString) (token ttlSeconds : JsNumber)
    (options : LeaseOptions) (clock : JsNumber) (record : LeaseRecord) :
    Except Thrown (Answer LeaseRecord) :=
  match currentTenure host slot holder token record with
  | .error reason => unchanged (.error reason)
  | .ok tenure =>
      if isExpired host record clock (skewMs options) then
        unchanged (refusal .lease_expired
          (js "slot \"" ++ slot ++ js "\" expired at " ++ tenure.expiresAt ++
            js "; a renew cannot revive it"))
      else do
        let next := record.refresh tenure (← iso host clock) (← expiryOf host clock ttlSeconds)
        persist next next

def releaseBody (host : HostRuntime) (slot holder : JsString) (token : JsNumber)
    (record : LeaseRecord) : Except Thrown (Answer LeaseRecord) :=
  match currentTenure host slot holder token record with
  | .error reason => unchanged (.error reason)
  | .ok _ => persist record.free record.free

/-! ## The single-slot calls -/

/-- `ttl` must be finite and positive. -/
def checkTtl (host : HostRuntime) (ttlSeconds : JsNumber) : LeaseResult Unit :=
  if ttlSeconds.isFinite = false ∨ ttlSeconds.le (.finite 0) = true then
    refusal .invalid_ttl
      (js "ttl must be a positive number of seconds; rejected: " ++ host.numberJson ttlSeconds)
  else .ok ()

def checkHolder (holder : JsString) : LeaseResult Unit :=
  if trim holder = [] then refusal .invalid_holder (js "holder must be a non-empty identifier")
  else .ok ()

def checkSlot (slot : JsString) : LeaseResult Unit :=
  if slotPattern slot = false then refusal .invalid_slot invalidSlotDetail else .ok ()

/-- Run a call whose arguments were checked, or return what the check refused. -/
def guarded {α : Type} (check : LeaseResult Unit) (file : LeaseFile)
    (call : Except Thrown (LeaseResult α) × LeaseFile) :
    Except Thrown (LeaseResult α) × LeaseFile :=
  match check with
  | .error reason => (.ok (.error reason), file)
  | .ok () => call

def acquireLease (host : HostRuntime) (dir slot holder : JsString) (ttlSeconds : JsNumber)
    (options : LeaseOptions) (around : Surroundings) (file : LeaseFile) :
    Except Thrown (LeaseResult AcquireResult) × LeaseFile :=
  guarded (do checkSlot slot; checkHolder holder; checkTtl host ttlSeconds) file
    (withAllowedSlotLock host dir slot around file
      (acquireBody host slot holder ttlSeconds options around.clock))

def renewLease (host : HostRuntime) (dir slot holder : JsString)
    (token ttlSeconds : JsNumber) (options : LeaseOptions) (around : Surroundings)
    (file : LeaseFile) : Except Thrown (LeaseResult LeaseRecord) × LeaseFile :=
  guarded (do checkSlot slot; checkTtl host ttlSeconds) file
    (withAllowedSlotLock host dir slot around file
      (renewBody host slot holder token ttlSeconds options around.clock))

def releaseLease (host : HostRuntime) (dir slot holder : JsString) (token : JsNumber)
    (around : Surroundings) (file : LeaseFile) :
    Except Thrown (LeaseResult LeaseRecord) × LeaseFile :=
  guarded (checkSlot slot) file
    (withAllowedSlotLock host dir slot around file (releaseBody host slot holder token))

/-! ## What a body can do -/

section Cases

variable {host : HostRuntime} {slot holder : JsString} {token ttlSeconds clock : JsNumber}
variable {options : LeaseOptions} {record : LeaseRecord} {write : Option LeaseRecord}

/-- An acquire grants an open slot, refreshes its own tenure, or refuses. -/
theorem acquireBody_cases {result : LeaseResult AcquireResult}
    (hbody : acquireBody host slot holder ttlSeconds options clock record =
      .ok (result, write)) :
    (∃ acquiredAt expiresAt tookOver,
      (record.tenure = none ∨ ∃ tenure, record.tenure = some tenure ∧ tenure.holder ≠ holder ∧
        isExpired host record clock (skewMs options) = true) ∧
      write = some (record.grant holder acquiredAt expiresAt) ∧
      result = .ok ⟨record.grant holder acquiredAt expiresAt, true, tookOver⟩) ∨
    (∃ tenure acquiredAt expiresAt,
      record.tenure = some tenure ∧ tenure.holder = holder ∧
      write = some (record.refresh tenure acquiredAt expiresAt) ∧
      result = .ok ⟨record.refresh tenure acquiredAt expiresAt, false, false⟩) ∨
    (∃ tenure, record.tenure = some tenure ∧ tenure.holder ≠ holder ∧
      isExpired host record clock (skewMs options) = false ∧ write = none ∧
      result = refusal .slot_held (slotHeldDetail slot record tenure)) := by
  rw [acquireBody] at hbody
  obtain ⟨expiresAt, -, hbody⟩ := do_eq_ok.mp hbody
  split at hbody
  · rename_i htenure
    obtain ⟨acquiredAt, -, hbody⟩ := do_eq_ok.mp hbody
    obtain ⟨rfl, rfl⟩ := Prod.mk.inj (Except.ok.inj hbody)
    exact .inl ⟨acquiredAt, expiresAt, false, .inl htenure, rfl, rfl⟩
  · rename_i tenure htenure
    by_cases hholder : tenure.holder = holder
    · rw [if_pos hholder] at hbody
      obtain ⟨acquiredAt, -, hbody⟩ := do_eq_ok.mp hbody
      obtain ⟨rfl, rfl⟩ := Prod.mk.inj (Except.ok.inj hbody)
      exact .inr (.inl ⟨tenure, acquiredAt, expiresAt, htenure, hholder, rfl, rfl⟩)
    · rw [if_neg hholder] at hbody
      by_cases hexpired : isExpired host record clock (skewMs options) = true
      · rw [if_pos hexpired] at hbody
        obtain ⟨acquiredAt, -, hbody⟩ := do_eq_ok.mp hbody
        obtain ⟨rfl, rfl⟩ := Prod.mk.inj (Except.ok.inj hbody)
        exact .inl ⟨acquiredAt, expiresAt, true,
          .inr ⟨tenure, htenure, hholder, hexpired⟩, rfl, rfl⟩
      · rw [if_neg hexpired] at hbody
        obtain ⟨rfl, rfl⟩ := Prod.mk.inj (Except.ok.inj hbody)
        exact .inr (.inr ⟨tenure, htenure, hholder, by simpa using hexpired, rfl, rfl⟩)

theorem currentTenure_ok {tenure : Tenure}
    (hcurrent : currentTenure host slot holder token record = .ok tenure) :
    record.tenure = some tenure ∧ tenure.holder = holder ∧
      JsNumber.ofNat record.token = token := by
  rw [currentTenure] at hcurrent
  split at hcurrent
  · cases hcurrent
  · rename_i found htenure
    by_cases hholder : found.holder = holder
    · by_cases htoken : JsNumber.ofNat record.token = token
      · rw [if_neg (by simpa using hholder), if_neg (by simpa using htoken)] at hcurrent
        cases hcurrent
        exact ⟨htenure, hholder, htoken⟩
      · rw [if_neg (by simpa using hholder), if_pos htoken] at hcurrent
        cases hcurrent
    · rw [if_pos hholder] at hcurrent
      cases hcurrent

/-- A renew that writes refreshes an unexpired tenure of the presented token. -/
theorem renewBody_write {result : LeaseResult LeaseRecord} {next : LeaseRecord}
    (hbody : renewBody host slot holder token ttlSeconds options clock record =
      .ok (result, some next)) :
    ∃ tenure acquiredAt expiresAt,
      record.tenure = some tenure ∧ tenure.holder = holder ∧
      JsNumber.ofNat record.token = token ∧
      isExpired host record clock (skewMs options) = false ∧
      next = record.refresh tenure acquiredAt expiresAt := by
  rw [renewBody] at hbody
  split at hbody
  · cases hbody
  · rename_i tenure hcurrent
    obtain ⟨htenure, hholder, htoken⟩ := currentTenure_ok hcurrent
    by_cases hexpired : isExpired host record clock (skewMs options) = true
    · rw [if_pos hexpired] at hbody
      cases hbody
    · rw [if_neg hexpired] at hbody
      obtain ⟨acquiredAt, -, hbody⟩ := do_eq_ok.mp hbody
      obtain ⟨expiresAt, -, hbody⟩ := do_eq_ok.mp hbody
      obtain ⟨-, hnext⟩ := Prod.mk.inj (Except.ok.inj hbody)
      exact ⟨tenure, acquiredAt, expiresAt, htenure, hholder, htoken,
        by simpa using hexpired, (Option.some.inj hnext).symm⟩

/-- A release that writes frees a tenure of the presented token. -/
theorem releaseBody_write {result : LeaseResult LeaseRecord} {next : LeaseRecord}
    (hbody : releaseBody host slot holder token record = .ok (result, some next)) :
    ∃ tenure, record.tenure = some tenure ∧ tenure.holder = holder ∧
      JsNumber.ofNat record.token = token ∧ next = record.free := by
  rw [releaseBody] at hbody
  split at hbody
  · cases hbody
  · rename_i tenure hcurrent
    obtain ⟨htenure, hholder, htoken⟩ := currentTenure_ok hcurrent
    obtain ⟨-, hnext⟩ := Prod.mk.inj (Except.ok.inj hbody)
    exact ⟨tenure, htenure, hholder, htoken, (Option.some.inj hnext).symm⟩

end Cases

section Locked

variable {α : Type} {host : HostRuntime} {dir slot : JsString} {around : Surroundings}
variable {file : LeaseFile} {body : LeaseRecord → Except Thrown (Answer α)}

/-- The file a locked body leaves is the one it found, or the record it persisted. -/
theorem withSlotLock_file (host : HostRuntime) (dir slot : JsString) (around : Surroundings)
    (file : LeaseFile) (body : LeaseRecord → Except Thrown (Answer α)) :
    (withSlotLock host dir slot around file body).2 = file ∨
    ∃ record result next,
      readLease host dir slot around.allowInside file = .ok record ∧
      body record = .ok (result, some next) ∧
      (withSlotLock host dir slot around file body).2 = .json next.toJson := by
  rw [withSlotLock]
  split
  · exact .inl rfl
  · split
    · exact .inl rfl
    · split
      · exact .inl rfl
      · rename_i record hread
        split
        · exact .inl rfl
        · exact .inl rfl
        · rename_i result next hbody
          split
          · exact .inl rfl
          · exact .inr ⟨record, result, next, hread, hbody, rfl⟩

/-- Where the directory, the lock or the write fails, the file stays as it was. -/
theorem withSlotLock_faulty (hfaulty : around.letsWrite = false) :
    (withSlotLock host dir slot around file body).2 = file := by
  rw [withSlotLock]
  split
  · rfl
  · rename_i hdir
    split
    · rfl
    · rename_i hlock
      have hwrite : around.writeFault = true := by
        simpa [Surroundings.letsWrite, hdir, hlock] using hfaulty
      simp only [hwrite, if_true]
      split
      · rfl
      · split <;> rfl

/-- Elsewhere what the body writes reaches the file. -/
theorem withSlotLock_persisted {record next : LeaseRecord} {result : LeaseResult α}
    (hwrites : around.letsWrite = true)
    (hread : readLease host dir slot around.allowInside file = .ok record)
    (hbody : body record = .ok (result, some next)) :
    (withSlotLock host dir slot around file body).2 = .json next.toJson := by
  rw [Surroundings.letsWrite, Bool.and_eq_true, Bool.and_eq_true, Option.isNone_iff_eq_none,
    Option.isNone_iff_eq_none, Bool.not_eq_true'] at hwrites
  obtain ⟨⟨hdir, hlock⟩, hwrite⟩ := hwrites
  simp only [withSlotLock, hdir, hlock, hread, hbody, hwrite, Bool.false_eq_true, if_false]

/-- A reply that reports success comes from the body, and its write has landed. -/
theorem withSlotLock_ok {value : α}
    (hreply : (withSlotLock host dir slot around file body).1 = .ok (.ok value)) :
    ∃ record write,
      readLease host dir slot around.allowInside file = .ok record ∧
      body record = .ok (.ok value, write) ∧
      (withSlotLock host dir slot around file body).2 =
        (write.map fun next => LeaseFile.json next.toJson).getD file := by
  rw [withSlotLock] at hreply ⊢
  split at hreply
  · cases hreply
  · split at hreply
    · cases hreply
    · split at hreply
      · cases hreply
      · rename_i record hread
        split at hreply
        · cases hreply
        · rename_i result hbody
          cases hreply
          exact ⟨record, none, hread, hbody, by simp [*]⟩
        · rename_i result next hbody
          split at hreply
          · cases hreply
          · rename_i hfault
            cases hreply
            exact ⟨record, some next, hread, hbody, by simp [*]⟩

/-- A checked call that reports success passed its checks. -/
theorem guarded_ok {check : LeaseResult Unit} {value : α}
    (hreply : (guarded check file (withAllowedSlotLock host dir slot around file body)).1 =
      .ok (.ok value)) :
    guarded check file (withAllowedSlotLock host dir slot around file body) =
      withSlotLock host dir slot around file body := by
  unfold guarded withAllowedSlotLock at hreply ⊢
  split at hreply
  · cases hreply
  · split at hreply
    · cases hreply
    · rfl

end Locked

end OdinSentinel.Lease
