import OdinSentinel.Lease.Operations

/-!
# Any-of acquire

One call scans its list twice, first for a slot this holder already holds, then
for the first free or expired one, and holds one slot lock at a time.  Between
two visits everything else may run, so a call in progress is a value of its own.
-/

namespace OdinSentinel.Lease

open JsText Host Fallible

inductive Phase
  | own
  | grant
  deriving DecidableEq

/-- What one slot try produced inside its own lock. -/
inductive SlotTry
  | granted (record : LeaseRecord) (acquired tookOver : Bool)
  | held (holder expiresAt : Option JsString)
  deriving DecidableEq

structure AcquireAnyResult where
  slot : JsString
  record : LeaseRecord
  acquired : Bool
  tookOver : Bool
  held : List HeldSlot
  deriving DecidableEq

/-- The own pass never writes: it leaves a free or expired slot for the grant pass. -/
def ownBody (host : HostRuntime) (holder : JsString) (ttlSeconds : JsNumber)
    (options : LeaseOptions) (clock : JsNumber) (record : LeaseRecord) :
    Except Thrown (Answer SlotTry) := do
  let skew := skewMs options
  let _expiresAt ← expiryOf host clock ttlSeconds
  let expired := isExpired host record clock skew
  if record.holder = some holder ∧ expired = false then
    unchanged (.ok (.granted record false false))
  else if record.holder = none ∨ expired = true then
    unchanged (.ok (.held none none))
  else
    unchanged (.ok (.held record.holder record.expiresAt))

def grantBody (host : HostRuntime) (holder : JsString) (ttlSeconds : JsNumber)
    (options : LeaseOptions) (clock : JsNumber) (record : LeaseRecord) :
    Except Thrown (Answer SlotTry) := do
  let skew := skewMs options
  let expiresAt ← expiryOf host clock ttlSeconds
  let expired := isExpired host record clock skew
  if record.holder = none ∨ expired = true then
    let next := record.grant holder (← iso host clock) expiresAt
    persist next (.granted next true record.holder.isSome)
  else if record.holder = some holder then
    -- The same holder won the race for this slot: success with its current token.
    unchanged (.ok (.granted record false false))
  else
    unchanged (.ok (.held record.holder record.expiresAt))

def anyBody (host : HostRuntime) : Phase → JsString → JsNumber → LeaseOptions → JsNumber →
    LeaseRecord → Except Thrown (Answer SlotTry)
  | .own => ownBody host
  | .grant => grantBody host

/-- A call in progress: its arguments, the pass it is in, the slot it visits next
and those after it, and the held slots it has met. -/
structure AnyCall where
  first : JsString
  others : List JsString
  holder : JsString
  ttlSeconds : JsNumber
  options : LeaseOptions
  phase : Phase
  current : JsString
  rest : List JsString
  held : List HeldSlot

namespace AnyCall

/-- The list the call was made with. -/
def slots (call : AnyCall) : List JsString := call.first :: call.others

/-- A call at the start of its own pass. -/
def start (first : JsString) (others : List JsString) (holder : JsString)
    (ttlSeconds : JsNumber) (options : LeaseOptions) : AnyCall :=
  { first, others, holder, ttlSeconds, options
    phase := .own, current := first, rest := others, held := [] }

end AnyCall

/-- A call after one visit. -/
inductive Progress
  | finished (reply : Except Thrown (LeaseResult AcquireAnyResult))
  | visiting (call : AnyCall)

def heldText (entry : HeldSlot) : JsString :=
  entry.slot ++ js " by \"" ++ entry.holder.getD (js "null") ++ js "\" until " ++
    entry.expiresAt.getD (js "null")

def allSlotsHeld (held : List HeldSlot) : LeaseResult AcquireAnyResult :=
  .error
    { code := .all_slots_held
      detail := js "every requested slot is held: " ++
        (js "; ").intercalate (held.map heldText)
      slots := some held }

/-- `held.push` unless the slot is listed already or was not really held. -/
def noteHeld (held : List HeldSlot) (slot : JsString) (holder expiresAt : Option JsString) :
    List HeldSlot :=
  if holder ≠ none ∧ held.all (fun entry => entry.slot ≠ slot) = true then
    held ++ [HeldSlot.mk slot holder expiresAt]
  else held

namespace AnyCall

/-- On to the next slot, to the grant pass, or to the refusal at its end. -/
def advance (call : AnyCall) (held : List HeldSlot) : Progress :=
  match call.rest, call.phase with
  | next :: rest, _ => .visiting { call with current := next, rest, held }
  | [], .own =>
      .visiting { call with phase := .grant, current := call.first, rest := call.others, held }
  | [], .grant => .finished (.ok (allSlotsHeld held))

/-- One visit: the slot's locked body and what the call does with its reply. -/
def visit (host : HostRuntime) (dir : JsString) (call : AnyCall) (around : Surroundings)
    (file : LeaseFile) : Progress × LeaseFile :=
  match withSlotLock host dir call.current around file
      (anyBody host call.phase call.holder call.ttlSeconds call.options around.clock) with
  | (.error thrown, file) => (.finished (.error thrown), file)
  | (.ok (.error reason), file) => (.finished (.ok (.error reason)), file)
  | (.ok (.ok (.granted record acquired tookOver)), file) =>
      (.finished (.ok (.ok
        { slot := call.current, record, acquired, tookOver, held := call.held })), file)
  | (.ok (.ok (.held holder expiresAt)), file) =>
      (call.advance (noteHeld call.held call.current holder expiresAt), file)

end AnyCall

def checkSlots (slots : List JsString) : LeaseResult Unit :=
  if slots.all slotPattern = false then refusal .invalid_slot invalidSlotDetail else .ok ()

/-- Refuse a list that names a slot the allow-list does not. -/
def ensureSlotsAllowed (allow : AllowFile) (slots : List JsString) : LeaseResult Unit := do
  match ← readAllowedSlots allow with
  | none => .ok ()
  | some allowed =>
      match slots.find? (fun slot => !allowed.contains slot) with
      | some denied => slotNotAllowed denied
      | none => .ok ()

/-- `acquireAnyLease` up to its first lock: the checks, then the call to visit with. -/
def acquireAnyLease (host : HostRuntime) (slots : List JsString) (holder : JsString)
    (ttlSeconds : JsNumber) (options : LeaseOptions) (allow : AllowFile) :
    LeaseResult AnyCall :=
  match slots with
  | [] => refusal .invalid_slot (js "at least one slot id is required")
  | first :: others => do
      checkSlots slots
      checkHolder holder
      checkTtl host ttlSeconds
      ensureSlotsAllowed allow slots
      .ok (AnyCall.start first others holder ttlSeconds options)

/-! ## What a visit can do -/

section Cases

variable {host : HostRuntime} {holder : JsString} {ttlSeconds clock : JsNumber}
variable {options : LeaseOptions} {record : LeaseRecord} {write : Option LeaseRecord}
variable {result : LeaseResult SlotTry}

/-- The own pass reports a live tenure of this holder, and never writes. -/
theorem ownBody_cases
    (hbody : ownBody host holder ttlSeconds options clock record = .ok (result, write)) :
    write = none ∧
      ((record.holder = some holder ∧ isExpired host record clock (skewMs options) = false ∧
          result = .ok (.granted record false false)) ∨
        (¬(record.holder = some holder ∧
            isExpired host record clock (skewMs options) = false) ∧
          ∃ other expiresAt, result = .ok (.held other expiresAt))) := by
  rw [ownBody] at hbody
  obtain ⟨_, -, hbody⟩ := do_eq_ok.mp hbody
  dsimp only at hbody
  split at hbody
  · rename_i hown
    obtain ⟨rfl, rfl⟩ := Prod.mk.inj (Except.ok.inj hbody)
    exact ⟨rfl, .inl ⟨hown.1, hown.2, rfl⟩⟩
  · rename_i hown
    split at hbody
    · obtain ⟨rfl, rfl⟩ := Prod.mk.inj (Except.ok.inj hbody)
      exact ⟨rfl, .inr ⟨hown, none, none, rfl⟩⟩
    · obtain ⟨rfl, rfl⟩ := Prod.mk.inj (Except.ok.inj hbody)
      exact ⟨rfl, .inr ⟨hown, record.holder, record.expiresAt, rfl⟩⟩

/-- The grant pass takes an open slot, returns the holder's own, or moves on. -/
theorem grantBody_cases
    (hbody : grantBody host holder ttlSeconds options clock record = .ok (result, write)) :
    (∃ acquiredAt expiresAt,
      (record.holder = none ∨ isExpired host record clock (skewMs options) = true) ∧
      write = some (record.grant holder acquiredAt expiresAt) ∧
      result = .ok (.granted (record.grant holder acquiredAt expiresAt) true
        record.holder.isSome)) ∨
    (record.holder = some holder ∧ isExpired host record clock (skewMs options) = false ∧
      write = none ∧ result = .ok (.granted record false false)) ∨
    (record.holder ≠ none ∧ record.holder ≠ some holder ∧
      isExpired host record clock (skewMs options) = false ∧ write = none ∧
      result = .ok (.held record.holder record.expiresAt)) := by
  rw [grantBody] at hbody
  obtain ⟨expiresAt, -, hbody⟩ := do_eq_ok.mp hbody
  dsimp only at hbody
  split at hbody
  · rename_i hopen
    obtain ⟨acquiredAt, -, hbody⟩ := do_eq_ok.mp hbody
    obtain ⟨rfl, rfl⟩ := Prod.mk.inj (Except.ok.inj hbody)
    exact .inl ⟨acquiredAt, expiresAt, hopen, rfl, rfl⟩
  · rename_i hopen
    obtain ⟨hheld, hlive⟩ := not_or.mp hopen
    split at hbody
    · rename_i hown
      obtain ⟨rfl, rfl⟩ := Prod.mk.inj (Except.ok.inj hbody)
      exact .inr (.inl ⟨hown, by simpa using hlive, rfl, rfl⟩)
    · rename_i hown
      obtain ⟨rfl, rfl⟩ := Prod.mk.inj (Except.ok.inj hbody)
      exact .inr (.inr ⟨hheld, hown, by simpa using hlive, rfl, rfl⟩)

end Cases

namespace AnyCall

variable {host : HostRuntime} {dir : JsString} {call : AnyCall} {around : Surroundings}
variable {file : LeaseFile}

/-- The file a visit leaves is the one its locked body leaves. -/
theorem visit_file :
    (call.visit host dir around file).2 =
      (withSlotLock host dir call.current around file
        (anyBody host call.phase call.holder call.ttlSeconds call.options around.clock)).2 := by
  rw [visit]
  split <;> simp [*]

/-- A visit that reports success comes from a granted slot try. -/
theorem visit_granted {result : AcquireAnyResult}
    (hresult : (call.visit host dir around file).1 = .finished (.ok (.ok result))) :
    result.slot = call.current ∧
    (withSlotLock host dir call.current around file
      (anyBody host call.phase call.holder call.ttlSeconds call.options around.clock)).1 =
      .ok (.ok (.granted result.record result.acquired result.tookOver)) := by
  rw [visit] at hresult
  split at hresult
  · cases hresult
  · cases hresult
  · rename_i hlock
    cases hresult
    exact ⟨rfl, by simp [hlock]⟩
  · rw [advance] at hresult
    split at hresult <;> cases hresult

end AnyCall

end OdinSentinel.Lease
