import OdinSentinel.Lease.OneSlot

/-!
# One slot, asked for alone or in a list

An acquire of a slot and an any-of acquire of the list of that slot alone decide alike,
but for the tenure of the caller itself: where it has run out, the any-of acquire takes
it anew, and where it has not, only the acquire writes it again.
-/

namespace OdinSentinel.Lease

open JsText Host Fallible

/-- The visits of one call, with nobody else at work; `none` when the fuel is spent. -/
def AnyCall.finish (host : HostRuntime) (dir : JsString) (around : Surroundings) :
    Nat → AnyCall → (JsString → LeaseFile) →
      Option (Except Thrown (LeaseResult AcquireAnyResult)) × (JsString → LeaseFile)
  | 0, _, files => (none, files)
  | fuel + 1, call, files =>
      match call.visit host dir around (files call.current) with
      | (.finished reply, file) => (some reply, Function.update files call.current file)
      | (.visiting next, file) =>
          next.finish host dir around fuel (Function.update files call.current file)

/-- A whole any-of acquire, with nobody else at work. -/
def acquireAnyAlone (host : HostRuntime) (dir : JsString) (slots : List JsString)
    (holder : JsString) (ttlSeconds : JsNumber) (options : LeaseOptions) (around : Surroundings)
    (files : JsString → LeaseFile) :
    Option (Except Thrown (LeaseResult AcquireAnyResult)) × (JsString → LeaseFile) :=
  match acquireAnyLease host slots holder ttlSeconds options around.allowBefore with
  | .error reason => (some (.ok (.error reason)), files)
  | .ok call => call.finish host dir around (2 * slots.length) files

/-! ## What both do before their bodies -/

/-- What becomes of a locked body's answer. -/
def settle {α : Type} (writeFault : Bool) (file : LeaseFile) :
    Except Thrown (Answer α) → Except Thrown (LeaseResult α) × LeaseFile
  | .error thrown => (.error thrown, file)
  | .ok (result, none) => (.ok result, file)
  | .ok (result, some next) =>
      if writeFault then (.error .writeError, file) else (.ok result, .json next.toJson)

variable {host : HostRuntime} {dir slot holder : JsString} {ttlSeconds : JsNumber}
  {options : LeaseOptions} {around : Surroundings} {file : LeaseFile}

/-- In the same surroundings every body meets the same refusal or the same record. -/
theorem withSlotLock_cases (host : HostRuntime) (dir slot : JsString) (around : Surroundings)
    (file : LeaseFile) :
    (∃ reason, ∀ (α : Type) (body : LeaseRecord → Except Thrown (Answer α)),
      withSlotLock host dir slot around file body = (.ok (.error reason), file)) ∨
    ∃ record, storedRecord host slot file = some record ∧
      ∀ (α : Type) (body : LeaseRecord → Except Thrown (Answer α)),
        withSlotLock host dir slot around file body =
          settle around.writeFault file (body record) := by
  cases hdir : around.dirFault with
  | some message => exact .inl ⟨_, fun α body => by simp [withSlotLock, hdir]; rfl⟩
  | none =>
      cases hlock : around.lockFault with
      | some fault => exact .inl ⟨_, fun α body => by simp [withSlotLock, hdir, hlock]; rfl⟩
      | none =>
          cases hread : readLease host dir slot around.allowInside file with
          | error reason =>
              exact .inl ⟨reason, fun α body => by simp [withSlotLock, hdir, hlock, hread]⟩
          | ok record =>
              refine .inr ⟨record, readLease_stored hread, fun α body => ?_⟩
              simp only [withSlotLock, hdir, hlock, hread]
              rcases body record with thrown | ⟨result, _ | next⟩ <;> rfl

theorem checkSlots_singleton (slot : JsString) : checkSlots [slot] = checkSlot slot := by
  simp [checkSlots, checkSlot]

theorem ensureSlotsAllowed_singleton (allow : AllowFile) (slot : JsString) :
    ensureSlotsAllowed allow [slot] = ensureSlotAllowed allow slot := by
  unfold ensureSlotsAllowed ensureSlotAllowed
  congr 1
  funext listed
  cases listed with
  | none => rfl
  | some allowed => by_cases hmem : slot ∈ allowed <;> simp [List.find?, hmem]

/-! ## The decisions -/

/-- The caller's own tenure, which has run out or not. -/
def OwnTenure (host : HostRuntime) (slot holder : JsString) (options : LeaseOptions)
    (around : Surroundings) (file : LeaseFile) (lapsed : Bool) : Prop :=
  ∃ record, storedRecord host slot file = some record ∧ record.holder = some holder ∧
    isExpired host record around.clock (skewMs options) = lapsed

/-- How the replies of the two calls compare: both refuse, both throw, or both grant the
same holder the same token; a lapsed tenure of the caller's own is granted anew under the
next token by the any-of call alone, and a live one is all that call needs, even where the
other cannot write it. -/
inductive SameDecision (host : HostRuntime) (slot holder : JsString) (options : LeaseOptions)
    (around : Surroundings) (file : LeaseFile) :
    Except Thrown (LeaseResult AcquireResult) →
      Option (Except Thrown (LeaseResult AcquireAnyResult)) → Prop
  | refused (reason other : LeaseRefusal) :
      SameDecision host slot holder options around file (.ok (.error reason))
        (some (.ok (.error other)))
  | threw (thrown : Thrown) :
      SameDecision host slot holder options around file (.error thrown) (some (.error thrown))
  | granted (one : AcquireResult) (any : AcquireAnyResult)
      (hlapsed : ¬OwnTenure host slot holder options around file true)
      (hone : one.record.holder = some holder) (hany : any.record.holder = some holder)
      (htoken : any.record.token = one.record.token) :
      SameDecision host slot holder options around file (.ok (.ok one)) (some (.ok (.ok any)))
  | anew (one : AcquireResult) (any : AcquireAnyResult)
      (hlapsed : OwnTenure host slot holder options around file true)
      (hone : one.record.holder = some holder) (hany : any.record.holder = some holder)
      (htoken : any.record.token = one.record.token + 1) :
      SameDecision host slot holder options around file (.ok (.ok one)) (some (.ok (.ok any)))
  | unwritten (thrown : Thrown) (any : AcquireAnyResult)
      (hlive : OwnTenure host slot holder options around file false)
      (hany : any.record.holder = some holder) :
      SameDecision host slot holder options around file (.error thrown) (some (.ok (.ok any)))

/-- The reply of a call whose last slot try comes to this. -/
def lastReply (slot : JsString) (held : List HeldSlot) :
    Except Thrown (LeaseResult SlotTry) → Except Thrown (LeaseResult AcquireAnyResult)
  | .error thrown => .error thrown
  | .ok (.error reason) => .ok (.error reason)
  | .ok (.ok (.granted record acquired tookOver)) =>
      .ok (.ok { slot, record, acquired, tookOver, held })
  | .ok (.ok (.held holder expiresAt)) => .ok (allSlotsHeld (noteHeld held slot holder expiresAt))

/-- On an open slot the own pass moves on and the grant pass takes it. -/
theorem open_bodies (holder : JsString) {record : LeaseRecord} {expiresAt : JsString}
    (hexpiry : expiryOf host around.clock ttlSeconds = .ok expiresAt)
    (hopen : record.holder = none ∨
      isExpired host record around.clock (skewMs options) = true) :
    ownBody host holder ttlSeconds options around.clock record =
        unchanged (.ok (.held none none)) ∧
      grantBody host holder ttlSeconds options around.clock record =
        (iso host around.clock).bind fun acquiredAt =>
          persist (record.grant holder acquiredAt expiresAt)
            (.granted (record.grant holder acquiredAt expiresAt) true record.holder.isSome) := by
  have hown : ¬(record.holder = some holder ∧
      isExpired host record around.clock (skewMs options) = false) := by
    rintro ⟨hholder, hlive⟩
    rcases hopen with hnone | hexpired
    · rw [hnone] at hholder
      cases hholder
    · rw [hexpired] at hlive
      cases hlive
  constructor
  · simp only [ownBody, hexpiry, bind, Except.bind]
    rw [if_neg hown, if_pos hopen]
  · simp only [grantBody, hexpiry, bind, Except.bind]
    rw [if_pos hopen]

section Alone

variable {files : JsString → LeaseFile} {record : LeaseRecord}
  (hlock : ∀ (α : Type) (body : LeaseRecord → Except Thrown (Answer α)),
    withSlotLock host dir slot around (files slot) body =
      settle around.writeFault (files slot) (body record))
include hlock

theorem finish_threw {thrown : Thrown}
    (hown : ownBody host holder ttlSeconds options around.clock record = .error thrown) :
    ((AnyCall.start slot [] holder ttlSeconds options).finish host dir around 2 files).1 =
      some (.error thrown) := by
  simp [AnyCall.finish, AnyCall.visit, AnyCall.start, anyBody, hlock, hown, settle]

theorem finish_own
    (hown : ownBody host holder ttlSeconds options around.clock record =
      unchanged (.ok (.granted record false false))) :
    ((AnyCall.start slot [] holder ttlSeconds options).finish host dir around 2 files).1 =
      some (.ok (.ok ⟨slot, record, false, false, []⟩)) := by
  simp [AnyCall.finish, AnyCall.visit, AnyCall.start, anyBody, hlock, hown, settle, unchanged]

/-- A call that finds nothing of its own ends as its grant pass does. -/
theorem finish_grant {other expiresAt : Option JsString}
    (hown : ownBody host holder ttlSeconds options around.clock record =
      unchanged (.ok (.held other expiresAt))) :
    ((AnyCall.start slot [] holder ttlSeconds options).finish host dir around 2 files).1 =
      some (lastReply slot (noteHeld [] slot other expiresAt)
        (settle around.writeFault (files slot)
          (grantBody host holder ttlSeconds options around.clock record)).1) := by
  have hfirst : (AnyCall.start slot [] holder ttlSeconds options).visit host dir around
      (files slot) =
        (.visiting { AnyCall.start slot [] holder ttlSeconds options with
          phase := .grant, held := noteHeld [] slot other expiresAt }, files slot) := by
    simp [AnyCall.visit, AnyCall.start, AnyCall.advance, anyBody, hlock, hown, settle, unchanged]
  have hstart : (AnyCall.start slot [] holder ttlSeconds options).current = slot := rfl
  rw [AnyCall.finish, hstart, hfirst]
  simp only [Function.update_eq_self]
  generalize hgrant : settle around.writeFault (files slot)
    (grantBody host holder ttlSeconds options around.clock record) = answer
  obtain ⟨reply, file⟩ := answer
  rcases reply with thrown | reason | ⟨granted, acquired, tookOver⟩ | ⟨next, later⟩
  all_goals
    simp [AnyCall.finish, AnyCall.visit, AnyCall.start, AnyCall.advance, anyBody, hlock, hgrant,
      lastReply]

/-- A slot that both calls take under the next token. -/
theorem open_decide (tookOver : Bool) {expiresAt : JsString}
    (hforeign : ¬OwnTenure host slot holder options around (files slot) true)
    (hexpiry : expiryOf host around.clock ttlSeconds = .ok expiresAt)
    (hopen : record.holder = none ∨
      isExpired host record around.clock (skewMs options) = true)
    (hacquire : acquireBody host slot holder ttlSeconds options around.clock record =
      (iso host around.clock).bind fun acquiredAt =>
        persist (record.grant holder acquiredAt expiresAt)
          ⟨record.grant holder acquiredAt expiresAt, true, tookOver⟩) :
    SameDecision host slot holder options around (files slot)
      (settle around.writeFault (files slot)
        (acquireBody host slot holder ttlSeconds options around.clock record)).1
      ((AnyCall.start slot [] holder ttlSeconds options).finish host dir around 2 files).1 := by
  obtain ⟨hown, hgrant⟩ := open_bodies holder hexpiry hopen
  rw [finish_grant hlock hown, hgrant, hacquire]
  cases iso host around.clock with
  | error thrown => exact .threw thrown
  | ok acquiredAt =>
      cases around.writeFault with
      | true => exact .threw .writeError
      | false =>
          refine .granted ⟨record.grant holder acquiredAt expiresAt, true, tookOver⟩
            ⟨slot, record.grant holder acquiredAt expiresAt, true, record.holder.isSome, _⟩
            hforeign ?_ ?_ ?_
          all_goals rfl

section Held

variable {tenure : Tenure} {expiresAt : JsString}
  (hexpiry : expiryOf host around.clock ttlSeconds = .ok expiresAt)
  (htenure : record.tenure = some tenure)
include hexpiry htenure

/-- The caller's own tenure has run out: the acquire renews it, the any-of call takes it. -/
theorem lapsed_decide (hstored : storedRecord host slot (files slot) = some record)
    (hself : tenure.holder = holder)
    (hexpired : isExpired host record around.clock (skewMs options) = true) :
    SameDecision host slot holder options around (files slot)
      (settle around.writeFault (files slot)
        (acquireBody host slot holder ttlSeconds options around.clock record)).1
      ((AnyCall.start slot [] holder ttlSeconds options).finish host dir around 2 files).1 := by
  have hholder : record.holder = some holder := by simp [LeaseRecord.holder, htenure, hself]
  have hlapsed : OwnTenure host slot holder options around (files slot) true :=
    ⟨record, hstored, hholder, hexpired⟩
  obtain ⟨hown, hgrant⟩ := open_bodies holder hexpiry (.inr hexpired)
  have hacquire : acquireBody host slot holder ttlSeconds options around.clock record =
      (iso host around.clock).bind fun acquiredAt =>
        persist (record.refresh tenure acquiredAt expiresAt)
          ⟨record.refresh tenure acquiredAt expiresAt, false, false⟩ := by
    simp only [acquireBody, hexpiry, htenure, if_pos hself]
    rfl
  rw [finish_grant hlock hown, hgrant, hacquire]
  cases iso host around.clock with
  | error thrown => exact .threw thrown
  | ok acquiredAt =>
      cases around.writeFault with
      | true => exact .threw .writeError
      | false =>
          refine .anew ⟨record.refresh tenure acquiredAt expiresAt, false, false⟩
            ⟨slot, record.grant holder acquiredAt expiresAt, true, record.holder.isSome, _⟩
            hlapsed ?_ ?_ ?_
          · exact congrArg some hself
          · rfl
          · rfl

/-- The caller's own tenure is live: the any-of call reads it, the acquire writes it. -/
theorem live_decide (hstored : storedRecord host slot (files slot) = some record)
    (hself : tenure.holder = holder)
    (hexpired : isExpired host record around.clock (skewMs options) = false) :
    SameDecision host slot holder options around (files slot)
      (settle around.writeFault (files slot)
        (acquireBody host slot holder ttlSeconds options around.clock record)).1
      ((AnyCall.start slot [] holder ttlSeconds options).finish host dir around 2 files).1 := by
  have hholder : record.holder = some holder := by simp [LeaseRecord.holder, htenure, hself]
  have hlive : OwnTenure host slot holder options around (files slot) false :=
    ⟨record, hstored, hholder, hexpired⟩
  have hunlapsed : ¬OwnTenure host slot holder options around (files slot) true := by
    rintro ⟨found, hfound, -, hlapsed⟩
    obtain rfl := Option.some.inj (hstored.symm.trans hfound)
    rw [hexpired] at hlapsed
    cases hlapsed
  have hown : ownBody host holder ttlSeconds options around.clock record =
      unchanged (.ok (.granted record false false)) := by
    simp only [ownBody, hexpiry, bind, Except.bind]
    rw [if_pos ⟨hholder, hexpired⟩]
  have hacquire : acquireBody host slot holder ttlSeconds options around.clock record =
      (iso host around.clock).bind fun acquiredAt =>
        persist (record.refresh tenure acquiredAt expiresAt)
          ⟨record.refresh tenure acquiredAt expiresAt, false, false⟩ := by
    simp only [acquireBody, hexpiry, htenure, if_pos hself]
    rfl
  rw [finish_own hlock hown, hacquire]
  cases iso host around.clock with
  | error thrown => exact .unwritten thrown _ hlive hholder
  | ok acquiredAt =>
      cases around.writeFault with
      | true => exact .unwritten .writeError _ hlive hholder
      | false =>
          refine .granted ⟨record.refresh tenure acquiredAt expiresAt, false, false⟩
            ⟨slot, record, false, false, []⟩ hunlapsed ?_ hholder rfl
          exact congrArg some hself

/-- Another holder has the slot: both refuse. -/
theorem held_decide (hself : tenure.holder ≠ holder)
    (hexpired : isExpired host record around.clock (skewMs options) = false) :
    SameDecision host slot holder options around (files slot)
      (settle around.writeFault (files slot)
        (acquireBody host slot holder ttlSeconds options around.clock record)).1
      ((AnyCall.start slot [] holder ttlSeconds options).finish host dir around 2 files).1 := by
  have hholder : record.holder = some tenure.holder := by simp [LeaseRecord.holder, htenure]
  have hheld : ¬(record.holder = none ∨
      isExpired host record around.clock (skewMs options) = true) := by
    simp [hholder, hexpired]
  have hother : record.holder ≠ some holder := by
    simpa [hholder] using hself
  have hacquire : acquireBody host slot holder ttlSeconds options around.clock record =
      unchanged (refusal .slot_held (slotHeldDetail slot record tenure)) := by
    simp only [acquireBody, hexpiry, htenure, if_neg hself, hexpired]
    rfl
  have hown : ownBody host holder ttlSeconds options around.clock record =
      unchanged (.ok (.held record.holder record.expiresAt)) := by
    simp only [ownBody, hexpiry, bind, Except.bind]
    rw [if_neg fun hmine => hother hmine.1, if_neg hheld]
  have hgrant : grantBody host holder ttlSeconds options around.clock record =
      unchanged (.ok (.held record.holder record.expiresAt)) := by
    simp only [grantBody, hexpiry, bind, Except.bind]
    rw [if_neg hheld, if_neg hother]
  rw [finish_grant hlock hown, hgrant, hacquire]
  exact .refused _ _

end Held

/-- On one record, in one state of everything around it, the bodies decide alike. -/
theorem bodies_decide (hstored : storedRecord host slot (files slot) = some record) :
    SameDecision host slot holder options around (files slot)
      (settle around.writeFault (files slot)
        (acquireBody host slot holder ttlSeconds options around.clock record)).1
      ((AnyCall.start slot [] holder ttlSeconds options).finish host dir around 2 files).1 := by
  have hforeign : record.holder ≠ some holder →
      ¬OwnTenure host slot holder options around (files slot) true := by
    rintro hother ⟨found, hfound, hholder, -⟩
    obtain rfl := Option.some.inj (hstored.symm.trans hfound)
    exact hother hholder
  cases hexpiry : expiryOf host around.clock ttlSeconds with
  | error thrown =>
      have hown : ownBody host holder ttlSeconds options around.clock record = .error thrown := by
        simp [ownBody, hexpiry, bind, Except.bind]
      have hacquire : acquireBody host slot holder ttlSeconds options around.clock record =
          .error thrown := by
        simp [acquireBody, hexpiry, bind, Except.bind]
      rw [finish_threw hlock hown, hacquire]
      exact .threw thrown
  | ok expiresAt =>
      cases htenure : record.tenure with
      | none =>
          have hnone : record.holder = none := by simp [LeaseRecord.holder, htenure]
          apply open_decide hlock false (hforeign (by simp [hnone])) hexpiry (.inl hnone)
          simp only [acquireBody, hexpiry, htenure]
          rfl
      | some tenure =>
          cases hexpired : isExpired host record around.clock (skewMs options) with
          | true =>
              by_cases hself : tenure.holder = holder
              · exact lapsed_decide hlock hexpiry htenure hstored hself hexpired
              · have hother : record.holder ≠ some holder := by
                  simpa [LeaseRecord.holder, htenure] using hself
                apply open_decide hlock true (hforeign hother) hexpiry (.inr hexpired)
                simp only [acquireBody, hexpiry, htenure, if_neg hself, hexpired]
                rfl
          | false =>
              by_cases hself : tenure.holder = holder
              · exact live_decide hlock hexpiry htenure hstored hself hexpired
              · exact held_decide hlock hexpiry htenure hself hexpired

end Alone

/-! ## The calls -/

/-- For every content of the record file and every argument, in one state of everything
around it, the two calls decide alike as far as `SameDecision` says. -/
theorem acquire_sameDecision (host : HostRuntime) (dir slot holder : JsString)
    (ttlSeconds : JsNumber) (options : LeaseOptions) (around : Surroundings)
    (files : JsString → LeaseFile) :
    SameDecision host slot holder options around (files slot)
      (acquireLease host dir slot holder ttlSeconds options around (files slot)).1
      (acquireAnyAlone host dir [slot] holder ttlSeconds options around files).1 := by
  unfold acquireLease acquireAnyAlone acquireAnyLease
  rw [checkSlots_singleton, ensureSlotsAllowed_singleton]
  cases checkSlot slot with
  | error reason => exact .refused reason reason
  | ok _ =>
      cases checkHolder holder with
      | error reason => exact .refused reason reason
      | ok _ =>
          cases checkTtl host ttlSeconds with
          | error reason => exact .refused reason reason
          | ok _ =>
              simp only [withAllowedSlotLock, guarded, bind, Except.bind]
              cases ensureSlotAllowed around.allowBefore slot with
              | error reason => exact .refused reason reason
              | ok _ =>
                  rcases withSlotLock_cases host dir slot around (files slot) with
                    ⟨reason, hlock⟩ | ⟨record, hstored, hlock⟩
                  · rw [hlock]
                    simp only [List.length_singleton, mul_one, AnyCall.finish, AnyCall.visit,
                      AnyCall.start, hlock]
                    exact .refused reason reason
                  · rw [hlock]
                    exact bodies_decide hlock hstored

/-- The record of a runner whose lease ran out an hour ago. -/
def lapsedFile : LeaseFile := .json (LeaseRecord.toJson
  { slot := js "job", token := 3
    tenure := some ⟨js "runner-a", js "2025-12-31T23:59:00.000Z", js "2026-01-01T00:00:00.000Z"⟩ })

def anHourLater : Surroundings := Surroundings.calm (.ofInt 1767229200000)

theorem lapsedFile_tokens : ¬∀ host dir slot holder ttlSeconds options around files one any,
    (acquireLease host dir slot holder ttlSeconds options around (files slot)).1 =
      .ok (.ok one) →
    (acquireAnyAlone host dir [slot] holder ttlSeconds options around files).1 =
      some (.ok (.ok any)) →
    any.record.token = one.record.token := by
  intro hsame
  have hone : (acquireLease plainHost (js "/leases") (js "job") (js "runner-a") (.ofNat 60)
      ⟨none⟩ anHourLater lapsedFile).1 = .ok (.ok
        ⟨⟨js "job", 3, some ⟨js "runner-a", js "2026-01-01T01:00:00.000Z",
          js "2026-01-01T01:01:00.000Z"⟩⟩, false, false⟩) := by
    decide +kernel
  have hany : (acquireAnyAlone plainHost (js "/leases") [js "job"] (js "runner-a") (.ofNat 60)
      ⟨none⟩ anHourLater (fun _ => lapsedFile)).1 = some (.ok (.ok
        ⟨js "job", ⟨js "job", 4, some ⟨js "runner-a", js "2026-01-01T01:00:00.000Z",
          js "2026-01-01T01:01:00.000Z"⟩⟩, true, true, []⟩)) := by
    decide +kernel
  exact absurd (hsame plainHost (js "/leases") (js "job") (js "runner-a") (.ofNat 60) ⟨none⟩
    anHourLater (fun _ => lapsedFile) _ _ hone hany) (by decide)

end OdinSentinel.Lease
