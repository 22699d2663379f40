import OdinSentinel.Lease.Expiry
import OdinSentinel.Lease.SameDecision

/-!
# Lifetimes of a lease

A call formats the instant at which its tenure would run out before it knows whether it
writes one.  Where no date can hold that instant the call throws; where the instant has
come already, the skew allowed for, the tenure is over as it begins.
-/

namespace OdinSentinel.Lease

open JsText Host Fallible Transition

variable {α : Type} {host : HostRuntime} {dir slot holder : JsString}
  {token ttlSeconds clock : JsNumber} {options : LeaseOptions} {record next : LeaseRecord}
  {around : Surroundings} {file : LeaseFile}

/-! ## Conditions -/

/-- A tenure of these seconds from now is a date, and lasts beyond now. -/
def lasts (options : LeaseOptions) (clock ttlSeconds : JsNumber) : Bool :=
  match expiresAtMs clock ttlSeconds with
  | none => false
  | some instant => !((JsNumber.ofInt instant).plus (skewMs options)).le clock

/-- An acquire writes: the slot is free, the holder's own, or expired. -/
def takesRecord (host : HostRuntime) (holder : JsString) (options : LeaseOptions)
    (clock : JsNumber) (record : LeaseRecord) : Bool :=
  record.holder = none || record.holder = some holder ||
    isExpired host record clock (skewMs options)

/-- The grant pass writes: the slot is free or expired. -/
def opensRecord (host : HostRuntime) (options : LeaseOptions) (clock : JsNumber)
    (record : LeaseRecord) : Bool :=
  record.holder = none || isExpired host record clock (skewMs options)

/-- A renew writes: the holder's own, under the presented token, and not expired. -/
def renewsRecord (host : HostRuntime) (holder : JsString) (token : JsNumber)
    (options : LeaseOptions) (clock : JsNumber) (record : LeaseRecord) : Bool :=
  record.holder = some holder && JsNumber.ofNat record.token = token &&
    !isExpired host record clock (skewMs options)

/-- The expiry is a date; and where the acquire writes it, the tenure lasts. -/
def acquireFits (host : HostRuntime) (holder : JsString) (ttlSeconds : JsNumber)
    (options : LeaseOptions) (clock : JsNumber) (record : LeaseRecord) : Bool :=
  (expiresAtMs clock ttlSeconds).isSome &&
    (!takesRecord host holder options clock record || lasts options clock ttlSeconds)

/-- The expiry is a date; and where the visit writes it, the tenure lasts. -/
def visitFits (host : HostRuntime) (phase : Phase) (ttlSeconds : JsNumber)
    (options : LeaseOptions) (clock : JsNumber) (record : LeaseRecord) : Bool :=
  (expiresAtMs clock ttlSeconds).isSome &&
    (phase = .own || !opensRecord host options clock record || lasts options clock ttlSeconds)

/-- Where the renew writes an expiry, it is a date and the tenure lasts. -/
def renewFits (host : HostRuntime) (holder : JsString) (token ttlSeconds : JsNumber)
    (options : LeaseOptions) (clock : JsNumber) (record : LeaseRecord) : Bool :=
  !renewsRecord host holder token options clock record || lasts options clock ttlSeconds

/-! ## What a body comes to -/

/-- What a body comes to, and whether that is handled; `persistedOf` is the record that a
success reports to be written. -/
inductive Concludes (host : HostRuntime) (options : LeaseOptions) (ttlSeconds clock : JsNumber)
    (record : LeaseRecord) (persistedOf : α → Option LeaseRecord) :
    Except Thrown (Answer α) → Bool → Prop
  | threw :
      Concludes host options ttlSeconds clock record persistedOf (.error .rangeError) false
  | idle (result : LeaseResult α) (hidle : ∀ value, result = .ok value → persistedOf value = none) :
      Concludes host options ttlSeconds clock record persistedOf (.ok (result, none)) true
  | wrote (value : α) (next : LeaseRecord) (hvalue : persistedOf value = some next)
      (hdated : Dated host ttlSeconds clock record next) :
      Concludes host options ttlSeconds clock record persistedOf (.ok (.ok value, some next))
        (lasts options clock ttlSeconds)

/-- The record that an any-of call reports to be written. -/
def SlotTry.persisted : SlotTry → Option LeaseRecord
  | .granted record true _ => some record
  | _ => none

theorem takesRecord_of_tenure {tenure : Tenure} (htenure : record.tenure = some tenure) :
    takesRecord host holder options clock record =
      (decide (tenure.holder = holder) || isExpired host record clock (skewMs options)) := by
  rw [takesRecord, LeaseRecord.holder, htenure]
  simp

theorem acquireBody_concludes (hhost : LawfulInstants host) (hclock : (clipTime clock).isSome) :
    Concludes host options ttlSeconds clock record (fun result => some result.record)
      (acquireBody host slot holder ttlSeconds options clock record)
      (acquireFits host holder ttlSeconds options clock record) := by
  cases hexpiry : expiresAtMs clock ttlSeconds with
  | none =>
      have hthrows : acquireBody host slot holder ttlSeconds options clock record =
          .error .rangeError := by
        unfold acquireBody expiryOf
        rw [iso_of_clip_none hhost hexpiry]
        rfl
      rw [hthrows, acquireFits, hexpiry]
      exact .threw
  | some instant =>
      obtain ⟨expiresAt, hexpires⟩ := iso_of_clip hhost hexpiry
      obtain ⟨now, hnow⟩ := Option.isSome_iff_exists.mp hclock
      obtain ⟨acquiredAt, hacquired⟩ := iso_of_clip hhost hnow
      change expiryOf host clock ttlSeconds = .ok expiresAt at hexpires
      simp only [acquireBody, acquireFits, hexpires, hexpiry, hacquired, bind, Except.bind,
        Option.isSome_some, Bool.true_and]
      cases htenure : record.tenure with
      | none =>
          have htakes : takesRecord host holder options clock record = true := by
            rw [takesRecord, LeaseRecord.holder, htenure]
            rfl
          rw [htakes]
          exact .wrote _ _ rfl ⟨rfl, _, rfl, hexpires⟩
      | some tenure =>
          rw [takesRecord_of_tenure htenure]
          dsimp only
          by_cases hholder : tenure.holder = holder
          · rw [if_pos hholder, decide_eq_true hholder]
            exact .wrote _ _ rfl ⟨rfl, _, rfl, hexpires⟩
          · rw [if_neg hholder, decide_eq_false hholder]
            cases isExpired host record clock (skewMs options) with
            | true => exact .wrote _ _ rfl ⟨rfl, _, rfl, hexpires⟩
            | false => exact .idle _ (by rintro _ ⟨⟩)

theorem anyBody_concludes (hhost : LawfulInstants host) (hclock : (clipTime clock).isSome)
    (phase : Phase) :
    Concludes host options ttlSeconds clock record SlotTry.persisted
      (anyBody host phase holder ttlSeconds options clock record)
      (visitFits host phase ttlSeconds options clock record) := by
  cases hexpiry : expiresAtMs clock ttlSeconds with
  | none =>
      have hthrows : anyBody host phase holder ttlSeconds options clock record =
          .error .rangeError := by
        cases phase with
        | own =>
            change ownBody _ _ _ _ _ _ = _
            unfold ownBody expiryOf
            rw [iso_of_clip_none hhost hexpiry]
            rfl
        | grant =>
            change grantBody _ _ _ _ _ _ = _
            unfold grantBody expiryOf
            rw [iso_of_clip_none hhost hexpiry]
            rfl
      rw [hthrows, visitFits, hexpiry]
      exact .threw
  | some instant =>
      obtain ⟨expiresAt, hexpires⟩ := iso_of_clip hhost hexpiry
      obtain ⟨now, hnow⟩ := Option.isSome_iff_exists.mp hclock
      obtain ⟨acquiredAt, hacquired⟩ := iso_of_clip hhost hnow
      change expiryOf host clock ttlSeconds = .ok expiresAt at hexpires
      cases phase with
      | own =>
          simp only [anyBody, ownBody, visitFits, hexpires, hexpiry, bind, Except.bind,
            Option.isSome_some, Bool.true_and, decide_true, Bool.true_or]
          split_ifs
          · exact .idle _ (by rintro _ ⟨⟩; rfl)
          · exact .idle _ (by rintro _ ⟨⟩; rfl)
          · exact .idle _ (by rintro _ ⟨⟩; rfl)
      | grant =>
          simp only [anyBody, grantBody, visitFits, hexpires, hexpiry, hacquired, bind, Except.bind,
            Option.isSome_some, Bool.true_and]
          by_cases hopens : record.holder = none ∨ isExpired host record clock (skewMs options) = true
          · have hopens' : opensRecord host options clock record = true := by
              simpa [opensRecord] using hopens
            rw [if_pos hopens, hopens']
            exact .wrote _ _ rfl ⟨rfl, _, rfl, hexpires⟩
          · have hopens' : opensRecord host options clock record = false := by
              simpa [opensRecord] using hopens
            rw [if_neg hopens, hopens']
            split_ifs
            · exact .idle _ (by rintro _ ⟨⟩; rfl)
            · exact .idle _ (by rintro _ ⟨⟩; rfl)

/-- A renew that is refused for its holder or its token would not write. -/
theorem renewsRecord_of_error {reason : LeaseRefusal}
    (hcurrent : currentTenure host slot holder token record = .error reason) :
    renewsRecord host holder token options clock record = false := by
  by_contra hrenews
  rw [Bool.not_eq_false, renewsRecord, Bool.and_eq_true, Bool.and_eq_true, decide_eq_true_eq,
    decide_eq_true_eq] at hrenews
  obtain ⟨⟨hholder, htoken⟩, -⟩ := hrenews
  obtain ⟨tenure, htenure, hsame⟩ := Option.map_eq_some_iff.mp hholder
  rw [currentTenure] at hcurrent
  simp only [htenure, hsame, htoken, ne_eq, not_true_eq_false, if_false] at hcurrent
  cases hcurrent

theorem renewBody_concludes (hhost : LawfulInstants host) (hclock : (clipTime clock).isSome) :
    Concludes host options ttlSeconds clock record some
      (renewBody host slot holder token ttlSeconds options clock record)
      (renewFits host holder token ttlSeconds options clock record) := by
  obtain ⟨now, hnow⟩ := Option.isSome_iff_exists.mp hclock
  obtain ⟨acquiredAt, hacquired⟩ := iso_of_clip hhost hnow
  rw [renewBody]
  cases hcurrent : currentTenure host slot holder token record with
  | error reason =>
      rw [renewFits, renewsRecord_of_error hcurrent]
      exact .idle _ (by rintro _ ⟨⟩)
  | ok tenure =>
      obtain ⟨htenure, hholder, htoken⟩ := currentTenure_ok hcurrent
      have hself : record.holder = some holder := by
        rw [LeaseRecord.holder, htenure, Option.map_some, hholder]
      rw [renewFits, renewsRecord, decide_eq_true hself, decide_eq_true htoken]
      cases hexpired : isExpired host record clock (skewMs options) with
      | true => exact .idle _ (by rintro _ ⟨⟩)
      | false =>
          simp only [Bool.false_eq_true, if_false, hacquired, bind, Except.bind]
          cases hexpiry : expiresAtMs clock ttlSeconds with
          | none =>
              have hthrows : expiryOf host clock ttlSeconds = .error .rangeError :=
                iso_of_clip_none hhost hexpiry
              have hlasts : lasts options clock ttlSeconds = false := by rw [lasts, hexpiry]
              rw [hthrows, hlasts]
              exact .threw
          | some instant =>
              obtain ⟨expiresAt, hexpires⟩ := iso_of_clip hhost hexpiry
              change expiryOf host clock ttlSeconds = .ok expiresAt at hexpires
              rw [hexpires]
              exact .wrote _ _ rfl ⟨rfl, _, rfl, hexpires⟩

/-! ## Replies -/

/-- A call is handled: it returns a result, and the record that it reports to be written is
one that the reader accepts, and not expired now. -/
structure Sound (host : HostRuntime) (slot : JsString) (options : LeaseOptions) (clock : JsNumber)
    (persistedOf : α → Option LeaseRecord) (reply : Except Thrown (LeaseResult α))
    (file : LeaseFile) : Prop where
  returns : ∀ thrown, reply ≠ .error thrown
  stored : ∀ value record, reply = .ok (.ok value) → persistedOf value = some record →
    storedRecord host slot file = some record ∧
      isExpired host record clock (skewMs options) = false

variable {persistedOf : α → Option LeaseRecord} {answer : Except Thrown (Answer α)} {fits : Bool}

theorem sound_refused (reason : LeaseRefusal) :
    Sound host slot options clock persistedOf (.ok (.error reason)) file where
  returns := by rintro _ ⟨⟩
  stored := by rintro _ _ ⟨⟩

/-- A body's answer is handled as `Concludes` says. -/
theorem Concludes.sound_iff (hhost : LawfulInstants host)
    (hconcludes : Concludes host options ttlSeconds clock record persistedOf answer fits)
    (hslot : record.slot = slot) :
    Sound host slot options clock persistedOf (settle false file answer).1
      (settle false file answer).2 ↔ fits = true := by
  cases hconcludes with
  | threw => exact iff_of_false (fun hsound => hsound.returns _ rfl) Bool.false_ne_true
  | idle result hidle =>
      apply iff_of_true _ rfl
      constructor
      · rintro _ ⟨⟩
      · rintro value record ⟨⟩ hpersisted
        cases (hidle value rfl).symm.trans hpersisted
  | wrote value next hvalue hdated =>
      obtain ⟨hstored, instant, hexpiry, hexpired⟩ := hdated.stored hhost hslot
      have hlasts : lasts options clock ttlSeconds =
          !isExpired host next clock (skewMs options) := by
        rw [hexpired, lasts, hexpiry]
      rw [hlasts, Bool.not_eq_true']
      constructor
      · intro hsound
        exact (hsound.stored value next rfl hvalue).2
      · intro hlive
        constructor
        · rintro _ ⟨⟩
        · rintro _ record ⟨⟩ hpersisted
          obtain rfl := Option.some.inj (hvalue.symm.trans hpersisted)
          exact ⟨hstored, hlive⟩

/-! ## Calls -/

/-- A locked body is run, on this record. -/
structure Reaches (host : HostRuntime) (dir slot : JsString) (around : Surroundings)
    (file : LeaseFile) (record : LeaseRecord) : Prop where
  made : around.dirFault = none
  locked : around.lockFault = none
  read : readLease host dir slot around.allowInside file = .ok record

/-- A call passes the checks in front of its lock. -/
structure Passes (check : LeaseResult Unit) (around : Surroundings) (slot : JsString) : Prop where
  check : check = .ok ()
  allowed : ensureSlotAllowed around.allowBefore slot = .ok ()

theorem Reaches.sameSlot (hreaches : Reaches host dir slot around file record) :
    record.slot = slot := storedRecord_slot (readLease_stored hreaches.read)

/-- A locked body runs on the record that it reaches; where it reaches none, the call is refused. -/
theorem withSlotLock_reaches (body : LeaseRecord → Except Thrown (Answer α)) :
    (∃ reason, withSlotLock host dir slot around file body = (.ok (.error reason), file) ∧
      ∀ record, ¬Reaches host dir slot around file record) ∨
    ∃ record, Reaches host dir slot around file record ∧
      withSlotLock host dir slot around file body =
        settle around.writeFault file (body record) := by
  cases hdir : around.dirFault with
  | some message =>
      refine .inl ⟨_, by rw [withSlotLock, hdir]; rfl, ?_⟩
      intro record hreaches
      cases hdir.symm.trans hreaches.made
  | none =>
      cases hlock : around.lockFault with
      | some fault =>
          refine .inl ⟨_, by rw [withSlotLock, hdir, hlock]; rfl, ?_⟩
          intro record hreaches
          cases hlock.symm.trans hreaches.locked
      | none =>
          cases hread : readLease host dir slot around.allowInside file with
          | error reason =>
              refine .inl ⟨reason, by simp only [withSlotLock, hdir, hlock, hread], ?_⟩
              intro record hreaches
              cases hread.symm.trans hreaches.read
          | ok record =>
              refine .inr ⟨record, ⟨hdir, hlock, hread⟩, ?_⟩
              simp only [withSlotLock, hdir, hlock, hread]
              rcases body record with thrown | ⟨result, _ | next⟩
              · rfl
              · rfl
              · rfl

theorem withSlotLock_sound_iff (hhost : LawfulInstants host)
    {body : LeaseRecord → Except Thrown (Answer α)} {fits : LeaseRecord → Bool}
    (hbody : ∀ record, Concludes host options ttlSeconds clock record persistedOf (body record)
      (fits record)) (hwrite : around.writeFault = false) :
    Sound host slot options clock persistedOf (withSlotLock host dir slot around file body).1
        (withSlotLock host dir slot around file body).2 ↔
      ∀ record, Reaches host dir slot around file record → fits record = true := by
  obtain ⟨reason, hlock, hnone⟩ | ⟨record, hreaches, hlock⟩ :=
    @withSlotLock_reaches _ host dir slot around file body
  · rw [hlock]
    exact iff_of_true (sound_refused reason) fun record hreaches => absurd hreaches (hnone record)
  · rw [hlock, hwrite, (hbody record).sound_iff hhost hreaches.sameSlot]
    constructor
    · intro hfits other hother
      obtain rfl := Except.ok.inj (hreaches.read.symm.trans hother.read)
      exact hfits
    · exact fun hfits => hfits record hreaches

theorem guarded_sound_iff (hhost : LawfulInstants host)
    {body : LeaseRecord → Except Thrown (Answer α)} {fits : LeaseRecord → Bool}
    (hbody : ∀ record, Concludes host options ttlSeconds clock record persistedOf (body record)
      (fits record)) (hwrite : around.writeFault = false) (check : LeaseResult Unit) :
    Sound host slot options clock persistedOf
        (guarded check file (withAllowedSlotLock host dir slot around file body)).1
        (guarded check file (withAllowedSlotLock host dir slot around file body)).2 ↔
      (Passes check around slot →
        ∀ record, Reaches host dir slot around file record → fits record = true) := by
  cases hcheck : check with
  | error reason =>
      apply iff_of_true (sound_refused reason)
      intro hpasses
      cases hpasses.check
  | ok _ =>
      rw [guarded, withAllowedSlotLock]
      cases hallowed : ensureSlotAllowed around.allowBefore slot with
      | error reason =>
          apply iff_of_true (sound_refused reason)
          intro hpasses
          cases hallowed.symm.trans hpasses.allowed
      | ok _ =>
          dsimp only
          rw [withSlotLock_sound_iff hhost hbody hwrite]
          exact ⟨fun hfits _ => hfits, fun hfits => hfits ⟨rfl, hallowed⟩⟩

/-- A visit of an any-of call is handled. -/
structure SoundVisit (host : HostRuntime) (visiting : AnyCall) (clock : JsNumber)
    (progress : Progress) (file : LeaseFile) : Prop where
  returns : ∀ thrown, progress ≠ .finished (.error thrown)
  stored : ∀ result, progress = .finished (.ok (.ok result)) → result.acquired = true →
    storedRecord host visiting.current file = some result.record ∧
      isExpired host result.record clock (skewMs visiting.options) = false

/-- A call goes on, or every slot is held. -/
theorem advance_settles (visiting : AnyCall) (held : List HeldSlot) :
    (∃ going, visiting.advance held = .visiting going) ∨
      visiting.advance held = .finished (.ok (allSlotsHeld held)) := by
  rw [AnyCall.advance]
  split
  · exact .inl ⟨_, rfl⟩
  · exact .inl ⟨_, rfl⟩
  · exact .inr rfl

theorem soundVisit_iff {visiting : AnyCall} :
    SoundVisit host visiting around.clock (visiting.visit host dir around file).1
        (visiting.visit host dir around file).2 ↔
      Sound host visiting.current visiting.options around.clock SlotTry.persisted
        (withSlotLock host dir visiting.current around file (anyBody host visiting.phase
          visiting.holder visiting.ttlSeconds visiting.options around.clock)).1
        (withSlotLock host dir visiting.current around file (anyBody host visiting.phase
          visiting.holder visiting.ttlSeconds visiting.options around.clock)).2 := by
  rw [AnyCall.visit]
  rcases hlock : withSlotLock host dir visiting.current around file (anyBody host visiting.phase
    visiting.holder visiting.ttlSeconds visiting.options around.clock) with
    ⟨thrown | reason | ⟨record, acquired, tookOver⟩ | ⟨other, expiresAt⟩, left⟩
  · exact iff_of_false (fun hvisit => hvisit.returns thrown rfl)
      fun hsound => hsound.returns thrown rfl
  · apply iff_of_true _ (sound_refused reason)
    constructor
    · rintro _ ⟨⟩
    · rintro _ ⟨⟩
  · constructor
    · intro hvisit
      constructor
      · rintro _ ⟨⟩
      · rintro _ written ⟨⟩ hpersisted
        cases acquired with
        | false => cases hpersisted
        | true =>
            obtain rfl := Option.some.inj hpersisted
            exact hvisit.stored _ rfl rfl
    · intro hsound
      constructor
      · rintro _ ⟨⟩
      · rintro _ ⟨⟩ hacquired
        exact hsound.stored _ record rfl (by rw [show acquired = true from hacquired]; rfl)
  · apply iff_of_true
    · dsimp only
      rcases advance_settles visiting (noteHeld visiting.held visiting.current other expiresAt) with
        ⟨going, hgoing⟩ | hheld
      · rw [hgoing]
        constructor
        · rintro _ ⟨⟩
        · rintro _ ⟨⟩
      · rw [hheld]
        constructor
        · rintro _ ⟨⟩
        · rintro _ ⟨⟩
    · constructor
      · rintro _ ⟨⟩
      · rintro _ _ ⟨⟩ ⟨⟩

/-- The visits that an any-of call makes at most from here on. -/
def AnyCall.visitsLeft (visiting : AnyCall) : Nat :=
  match visiting.phase with
  | .own => visiting.rest.length + 1 + visiting.slots.length
  | .grant => visiting.rest.length + 1

/-- A visit that does not end its call leaves fewer visits. -/
theorem visitsLeft_lt {visiting going : AnyCall}
    (hgoing : (visiting.visit host dir around file).1 = .visiting going) :
    going.visitsLeft < visiting.visitsLeft := by
  rw [AnyCall.visit] at hgoing
  split at hgoing
  · cases hgoing
  · cases hgoing
  · cases hgoing
  · dsimp only at hgoing
    rw [AnyCall.advance] at hgoing
    cases hphase : visiting.phase with
    | own =>
        cases hrest : visiting.rest with
        | nil =>
            rw [hrest, hphase] at hgoing
            cases hgoing
            simp [AnyCall.visitsLeft, AnyCall.slots, hphase, hrest]
        | cons slot rest =>
            rw [hrest] at hgoing
            cases hgoing
            simp [AnyCall.visitsLeft, AnyCall.slots, hphase, hrest]
    | grant =>
        cases hrest : visiting.rest with
        | nil =>
            rw [hrest, hphase] at hgoing
            cases hgoing
        | cons slot rest =>
            rw [hrest] at hgoing
            cases hgoing
            simp [AnyCall.visitsLeft, hphase, hrest]

/-! ## Steps -/

/-- What surrounds the locked body of a step. -/
def surroundingsOf : Operation → Option Surroundings
  | .acquire _ _ _ _ around => some around
  | .acquireAny _ _ _ _ _ _ => none
  | .visit _ around => some around
  | .renew _ _ _ _ _ around => some around
  | .release _ _ _ around => some around

/-- The call that a step belongs to is handled in it.  The start of an any-of call only
refuses, and a release writes no tenure. -/
def Handled (host : HostRuntime) (dir : JsString) (pool : Pool) : Operation → Prop
  | .acquire slot holder ttlSeconds options around =>
      let call := acquireLease host dir slot holder ttlSeconds options around (pool.files slot)
      Sound host slot options around.clock (fun result => some result.record) call.1 call.2
  | .acquireAny _ _ _ _ _ _ => True
  | .visit call around => ∀ visiting, pool.calls call = some visiting →
      let visit := visiting.visit host dir around (pool.files visiting.current)
      SoundVisit host visiting around.clock visit.1 visit.2
  | .renew slot holder token ttlSeconds options around =>
      let call := renewLease host dir slot holder token ttlSeconds options around (pool.files slot)
      Sound host slot options around.clock some call.1 call.2
  | .release _ _ _ _ => True

/-- The condition of a step: wherever its body comes to run, the lifetime fits. -/
def Fits (host : HostRuntime) (dir : JsString) (pool : Pool) : Operation → Prop
  | .acquire slot holder ttlSeconds options around =>
      Passes (do checkSlot slot; checkHolder holder; checkTtl host ttlSeconds) around slot →
        ∀ record, Reaches host dir slot around (pool.files slot) record →
          acquireFits host holder ttlSeconds options around.clock record = true
  | .acquireAny _ _ _ _ _ _ => True
  | .visit call around => ∀ visiting, pool.calls call = some visiting →
      ∀ record, Reaches host dir visiting.current around (pool.files visiting.current) record →
        visitFits host visiting.phase visiting.ttlSeconds visiting.options around.clock record =
          true
  | .renew slot holder token ttlSeconds options around =>
      Passes (do checkSlot slot; checkTtl host ttlSeconds) around slot →
        ∀ record, Reaches host dir slot around (pool.files slot) record →
          renewFits host holder token ttlSeconds options around.clock record = true
  | .release _ _ _ _ => True

theorem step_handled_iff (hhost : LawfulInstants host) (pool : Pool) {operation : Operation}
    (haround : ∀ around, surroundingsOf operation = some around →
      around.writeFault = false ∧ (clipTime around.clock).isSome = true) :
    Handled host dir pool operation ↔ Fits host dir pool operation := by
  cases operation with
  | acquire slot holder ttlSeconds options around =>
      obtain ⟨hwrite, hclock⟩ := haround around rfl
      exact guarded_sound_iff hhost (fun record => acquireBody_concludes hhost hclock) hwrite _
  | acquireAny => exact Iff.rfl
  | visit call around =>
      obtain ⟨hwrite, hclock⟩ := haround around rfl
      apply forall_congr'
      intro visiting
      apply imp_congr_right
      intro _
      apply soundVisit_iff.trans
      exact withSlotLock_sound_iff hhost
        (fun record => anyBody_concludes hhost hclock visiting.phase) hwrite
  | renew slot holder token ttlSeconds options around =>
      obtain ⟨hwrite, hclock⟩ := haround around rfl
      exact guarded_sound_iff hhost (fun record => renewBody_concludes hhost hclock) hwrite _
  | release => exact Iff.rfl

/-- From every state of the records and for every duration: a step of an acquire, a visit or
a renew is handled exactly where the lifetime that it formats fits; and an any-of call comes
to its end, each visit that goes on leaving fewer. -/
theorem lifetime_handled_iff (hhost : LawfulInstants host) (dir : JsString) (pool : Pool)
    (operation : Operation)
    (haround : ∀ around, surroundingsOf operation = some around →
      around.writeFault = false ∧ (clipTime around.clock).isSome = true) :
    (Handled host dir pool operation ↔ Fits host dir pool operation) ∧
      ∀ (visiting going : AnyCall) (around : Surroundings) (file : LeaseFile),
        (visiting.visit host dir around file).1 = .visiting going →
          going.visitsLeft < visiting.visitsLeft :=
  ⟨step_handled_iff hhost pool haround, fun _ _ _ _ => visitsLeft_lt⟩

/-- A minute's lease of a slot without a record. -/
def minuteAcquire : Operation :=
  .acquire (js "job") (js "runner-a") (.ofNat 60) ⟨none⟩ (Surroundings.calm (.ofInt 1767225600000))

theorem minuteAcquire_handled : Handled isoHost (js "/leases") Pool.empty minuteAcquire := by
  apply (lifetime_handled_iff isoHost_lawful (js "/leases") Pool.empty minuteAcquire _).1.mpr
  · intro _ record hreaches
    obtain rfl : emptyRecord (js "job") = record := Except.ok.inj hreaches.read
    decide +kernel
  · rintro around ⟨⟩
    exact ⟨rfl, by decide +kernel⟩

/-- A finite, positive duration whose end no date can hold makes the acquire throw. -/
theorem farExpiry_throws : ¬∀ host dir slot holder ttlSeconds options around file,
    LawfulInstants host → checkTtl host ttlSeconds = .ok () → around.writeFault = false →
    (clipTime around.clock).isSome = true →
    Sound host slot options around.clock (fun result => some result.record)
      (acquireLease host dir slot holder ttlSeconds options around file).1
      (acquireLease host dir slot holder ttlSeconds options around file).2 := by
  intro hsound
  have hthrows : (acquireLease isoHost (js "/leases") (js "job") (js "runner-a")
      (.ofNat 10000000000000) ⟨none⟩ (Surroundings.calm (.ofInt 1767225600000)) .absent).1 =
        .error .rangeError := by
    decide +kernel
  exact (hsound isoHost (js "/leases") (js "job") (js "runner-a") (.ofNat 10000000000000) ⟨none⟩
    (Surroundings.calm (.ofInt 1767225600000)) .absent isoHost_lawful (by decide +kernel) rfl
    (by decide +kernel)).returns _ hthrows

end OdinSentinel.Lease
