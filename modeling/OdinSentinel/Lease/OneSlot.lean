import OdinSentinel.Lease.Fencing

/-!
# One live slot of a pool per holder

Any-of calls that all name one list, together with renews and releases, on one
clock.  A call decides in its own pass that its holder has no live slot and
takes one only in its grant pass, slot by slot; what a sibling call of the same
holder is granted in between decides whether the holder ends up with two.
-/

namespace OdinSentinel.Lease

open JsText Host Fallible Transition

/-- The record a slot's file stores; `none` when the reader rejects it. -/
def storedRecord (host : HostRuntime) (slot : JsString) : LeaseFile → Option LeaseRecord
  | .absent => some (emptyRecord slot)
  | .notJson _ => none
  | .json value => isRecord host value slot

/-- The slot carries the holder with an unexpired lease. -/
def live (host : HostRuntime) (skew instant : JsNumber) (pool : Pool)
    (slot holder : JsString) : Bool :=
  match storedRecord host slot (pool.files slot) with
  | none => false
  | some record => decide (record.holder = some holder) && !isExpired host record instant skew

/-- The slot is free or its lease has expired. -/
def isOpen (host : HostRuntime) (skew instant : JsNumber) (pool : Pool)
    (slot : JsString) : Bool :=
  match storedRecord host slot (pool.files slot) with
  | none => false
  | some record => decide (record.holder = none) || isExpired host record instant skew

/-- The slot still names the holder, but its lease has expired. -/
def lapsed (host : HostRuntime) (skew instant : JsNumber) (pool : Pool)
    (slot holder : JsString) : Bool :=
  match storedRecord host slot (pool.files slot) with
  | none => false
  | some record => decide (record.holder = some holder) && isExpired host record instant skew

/-- Any-of calls on the list `slots` with one skew, renews and releases. -/
def onPool (slots : List JsString) (skew : JsNumber) : Operation → Bool
  | .acquire .. => false
  | .acquireAny _ named _ _ options _ => decide (named = slots) && decide (skewMs options = skew)
  | .visit .. => true
  | .renew .. => true
  | .release .. => true

/-- The clock a step reads. -/
def clockOf : Operation → Option JsNumber
  | .acquire _ _ _ _ around => some around.clock
  | .acquireAny .. => none
  | .visit _ around => some around.clock
  | .renew _ _ _ _ _ around => some around.clock
  | .release _ _ _ around => some around.clock

/-- The steps of a history read one clock that never goes back and is now at `now`. -/
def onCommonClock : List (Step Pool Operation) → JsNumber → Bool
  | [], _ => true
  | step :: earlier, now =>
      match clockOf step.label with
      | none => onCommonClock earlier now
      | some clock => clock.le now && onCommonClock earlier clock

/-! ## What goes wrong -/

variable (host : HostRuntime)

/-- The call that a step advances, when that call is in the given pass. -/
def visitIn (phase : Phase) (step : Step Pool Operation) :
    Option (Nat × AnyCall × Surroundings) :=
  match step.label with
  | .visit call around =>
      match step.before.calls call with
      | some visiting =>
          if visiting.phase = phase then some (call, visiting, around) else none
      | none => none
  | _ => none

/-- The call looks at the slot in its own pass. -/
def ownLook (call : Nat) (slot : JsString) (step : Step Pool Operation) : Bool :=
  match visitIn .own step with
  | some (number, visiting, _) => decide (number = call ∧ visiting.current = slot)
  | none => false

/-- The steps after the call's last own-pass look at the slot. -/
def sinceLook (call : Nat) (slot : JsString) (history : List (Step Pool Operation)) :
    List (Step Pool Operation) :=
  history.takeWhile (fun step => !ownLook call slot step)

/-- The call can be granted the slot it visits: it is a slot that the allow-list under the lock
names, both instants of the lease have a date, and nothing keeps the lease from the file. -/
def grantable (visiting : AnyCall) (around : Surroundings) : Bool :=
  around.letsWrite && slotPattern visiting.current &&
    (ensureSlotAllowed around.allowInside visiting.current).isOk &&
    (expiryOf host around.clock visiting.ttlSeconds).isOk && (iso host around.clock).isOk

/-- A grant pass of the holder meets the slot open and takes it. -/
def takes (skew : JsNumber) (slot holder : JsString) (step : Step Pool Operation) : Bool :=
  match visitIn .grant step with
  | some (_, visiting, around) =>
      decide (visiting.current = slot ∧ visiting.holder = holder) &&
        isOpen host skew around.clock step.before slot && grantable host visiting around
  | none => false

/-- A renew with a larger skew meets a lease of the holder that has lapsed for
the pool. -/
def revives (skew : JsNumber) (slot holder : JsString) (step : Step Pool Operation) : Bool :=
  match step.label with
  | .renew target presenter _ _ options around =>
      decide (target = slot ∧ presenter = holder) &&
        lapsed host skew around.clock step.before slot holder &&
        live host (skewMs options) around.clock step.before slot holder
  | _ => false

/-- A call of the holder is about to take an open slot although another slot of
the list, taken or revived for the holder since this call looked at it in its
own pass, is still live. -/
def overtaken (slots : List JsString) (skew : JsNumber) (holder : JsString)
    (earlier : List (Step Pool Operation)) (step : Step Pool Operation) : Bool :=
  match visitIn .grant step with
  | some (call, visiting, around) =>
      takes host skew visiting.current holder step &&
        slots.any (fun other => decide (other ≠ visiting.current) &&
          live host skew around.clock step.before other holder &&
          (sinceLook call other earlier).any (fun between =>
            takes host skew other holder between || revives host skew other holder between))
  | none => false

/-- A renew revives a lapsed slot of the holder while another slot of the list
is live. -/
def revivesBeside (slots : List JsString) (skew : JsNumber) (holder : JsString)
    (step : Step Pool Operation) : Bool :=
  match step.label with
  | .renew target _ _ _ _ around =>
      revives host skew target holder step &&
        slots.any (fun other => decide (other ≠ target) &&
          live host skew around.clock step.before other holder)
  | _ => false

/-- No step of a history is overtaken or revives a slot beside a live one. -/
def undisturbed (slots : List JsString) (skew : JsNumber) (holder : JsString) :
    List (Step Pool Operation) → Bool
  | [] => true
  | step :: earlier =>
      !overtaken host slots skew holder earlier step &&
        !revivesBeside host slots skew holder step &&
        undisturbed slots skew holder earlier

theorem visitIn_eq_some {phase : Phase} {step : Step Pool Operation} {call : Nat}
    {visiting : AnyCall} {around : Surroundings} :
    visitIn phase step = some (call, visiting, around) ↔
      step.label = .visit call around ∧ step.before.calls call = some visiting ∧
        visiting.phase = phase := by
  obtain ⟨before, label, after⟩ := step
  cases label with
  | visit number surroundings =>
      simp only [visitIn, Operation.visit.injEq]
      cases hcall : before.calls number with
      | none =>
          simp only [reduceCtorEq, false_iff]
          rintro ⟨⟨rfl, rfl⟩, hfound, -⟩
          rw [hcall] at hfound
          cases hfound
      | some found =>
          constructor
          · intro hsome
            by_cases hphase : found.phase = phase
            · simp only [hphase, if_true] at hsome
              cases hsome
              exact ⟨⟨rfl, rfl⟩, hcall, hphase⟩
            · simp [hphase] at hsome
          · rintro ⟨⟨rfl, rfl⟩, hfound, hphase⟩
            rw [hcall] at hfound
            cases hfound
            simp [hphase]
  | acquire | acquireAny | renew | release => simp [visitIn]

theorem ownLook_iff {call : Nat} {slot : JsString} {step : Step Pool Operation} :
    ownLook call slot step = true ↔
      ∃ around visiting, step.label = .visit call around ∧
        step.before.calls call = some visiting ∧ visiting.phase = .own ∧
        visiting.current = slot := by
  rw [ownLook]
  split
  · rename_i number visiting around hvisit
    obtain ⟨hlabel, hcall, hphase⟩ := visitIn_eq_some.mp hvisit
    rw [decide_eq_true_eq]
    constructor
    · rintro ⟨rfl, hcurrent⟩
      exact ⟨around, visiting, hlabel, hcall, hphase, hcurrent⟩
    · rintro ⟨other, found, hother, hfound, -, hcurrent⟩
      obtain ⟨rfl, rfl⟩ : number = call ∧ around = other := by simpa [hlabel] using hother
      rw [hcall] at hfound
      cases hfound
      exact ⟨rfl, hcurrent⟩
  · rename_i hnone
    simp only [Bool.false_eq_true, false_iff]
    rintro ⟨around, visiting, hlabel, hcall, hphase, -⟩
    have hsome := visitIn_eq_some.mpr ⟨hlabel, hcall, hphase⟩
    rw [hnone] at hsome
    cases hsome

theorem takes_iff {skew : JsNumber} {slot holder : JsString} {step : Step Pool Operation} :
    takes host skew slot holder step = true ↔
      ∃ call around visiting, step.label = .visit call around ∧
        step.before.calls call = some visiting ∧ visiting.phase = .grant ∧
        visiting.current = slot ∧ visiting.holder = holder ∧
        isOpen host skew around.clock step.before slot = true ∧
        grantable host visiting around = true := by
  rw [takes]
  split
  · rename_i number visiting around hvisit
    obtain ⟨hlabel, hcall, hphase⟩ := visitIn_eq_some.mp hvisit
    rw [Bool.and_eq_true, Bool.and_eq_true, decide_eq_true_eq]
    constructor
    · rintro ⟨⟨⟨hcurrent, hholder⟩, hopen⟩, hgrantable⟩
      exact ⟨number, around, visiting, hlabel, hcall, hphase, hcurrent, hholder, hopen,
        hgrantable⟩
    · rintro ⟨call, other, found, hother, hfound, -, hcurrent, hholder, hopen, hgrantable⟩
      obtain ⟨rfl, rfl⟩ : number = call ∧ around = other := by simpa [hlabel] using hother
      rw [hcall] at hfound
      cases hfound
      exact ⟨⟨⟨hcurrent, hholder⟩, hopen⟩, hgrantable⟩
  · rename_i hnone
    simp only [Bool.false_eq_true, false_iff]
    rintro ⟨call, around, visiting, hlabel, hcall, hphase, -⟩
    have hsome := visitIn_eq_some.mpr ⟨hlabel, hcall, hphase⟩
    rw [hnone] at hsome
    cases hsome

/-! ## Stored records and the clock -/

section Stored

variable {host : HostRuntime} {dir slot holder : JsString} {skew : JsNumber}

theorem readLease_stored {allow : AllowFile} {file : LeaseFile} {record : LeaseRecord}
    (hread : readLease host dir slot allow file = .ok record) :
    storedRecord host slot file = some record := by
  unfold readLease at hread
  split at hread
  · cases hread
  · obtain ⟨-, -, hread⟩ := do_eq_ok.mp hread
    split at hread
    · cases hread
      rfl
    · cases hread
    · split at hread
      · rename_i hrecord
        cases hread
        exact hrecord
      · cases hread

/-- What is read of a slot: the record that is stored, where the slot is named and allowed. -/
theorem readLease_ok_iff {allow : AllowFile} {file : LeaseFile} {record : LeaseRecord} :
    readLease host dir slot allow file = .ok record ↔
      slotPattern slot = true ∧ (ensureSlotAllowed allow slot).isOk = true ∧
        storedRecord host slot file = some record := by
  constructor
  · intro hread
    have hstored := readLease_stored hread
    unfold readLease at hread
    split at hread
    · cases hread
    · rename_i hpattern
      obtain ⟨⟨⟩, hallowed, -⟩ := do_eq_ok.mp hread
      exact ⟨by simpa using hpattern, by rw [hallowed]; rfl, hstored⟩
  · rintro ⟨hpattern, hallowed, hstored⟩
    unfold readLease
    rw [hpattern, if_neg (by decide)]
    cases hensured : ensureSlotAllowed allow slot with
    | error reason =>
        rw [hensured] at hallowed
        cases hallowed
    | ok allowed =>
        refine do_eq_ok.mpr ⟨allowed, rfl, ?_⟩
        cases file with
        | absent => exact congrArg Except.ok (Option.some.inj hstored)
        | notJson message => cases hstored
        | json value =>
            have hrecord : isRecord host value slot = some record := hstored
            simp only [hrecord]

theorem tenureOf_ofNullable {record : LeaseRecord} {tenure : Option Tenure}
    (htenure : tenureOf host (.ofNullable record.holder) (.ofNullable record.acquiredAt)
      (.ofNullable record.expiresAt) = some tenure) : tenure = record.tenure := by
  obtain ⟨_, _, stored⟩ := record
  cases stored with
  | none =>
      cases htenure
      rfl
  | some stored =>
      simp only [LeaseRecord.holder, LeaseRecord.acquiredAt, LeaseRecord.expiresAt,
        Option.map_some, JsValue.ofNullable, tenureOf] at htenure
      split at htenure <;> cases htenure
      rfl

/-- A written record that reads back at all reads back as itself. -/
theorem storedRecord_toJson {record stored : LeaseRecord}
    (hstored : storedRecord host slot (.json record.toJson) = some stored) :
    stored = record := by
  have hslot : record.toJson.field (js "slot") = .string record.slot := rfl
  have htoken : record.toJson.field (js "token") = .number (.ofNat record.token) := rfl
  have hholder : record.toJson.field (js "holder") = .ofNullable record.holder := rfl
  have hacquired : record.toJson.field (js "acquired_at") = .ofNullable record.acquiredAt := rfl
  have hexpires : record.toJson.field (js "expires_at") = .ofNullable record.expiresAt := rfl
  unfold storedRecord isRecord at hstored
  simp only [hslot, htoken, hholder, hacquired, hexpires, tokenOf_ofNat] at hstored
  split at hstored
  · rename_i hfields
    split at hstored
    · rename_i token tenure htokens htenure
      obtain rfl := tenureOf_ofNullable htenure
      cases htokens
      cases hstored
      have hname : record.slot = slot := Option.some.inj hfields.2
      rw [← hname]
    · cases hstored
  · cases hstored

theorem isExpired_mono {record : LeaseRecord} {earlier later : JsNumber}
    (hle : earlier.le later = true)
    (hexpired : isExpired host record earlier skew = true) :
    isExpired host record later skew = true := by
  rw [isExpired] at hexpired ⊢
  split
  · rename_i htenure
    simp [htenure] at hexpired
  · rename_i tenure htenure
    simp only [htenure] at hexpired
    split
    · rfl
    · rename_i expires hexpires
      simp only [hexpires] at hexpired
      exact JsNumber.le_of_le_of_le hexpired hle

theorem live_iff {instant : JsNumber} {pool : Pool} :
    live host skew instant pool slot holder = true ↔
      ∃ record, storedRecord host slot (pool.files slot) = some record ∧
        record.holder = some holder ∧ isExpired host record instant skew = false := by
  rw [live]
  split <;> simp [*]

/-- A lease that is live at an instant was live before it, under the same record. -/
theorem live_of_le {earlier later : JsNumber} {before after : Pool}
    (hle : earlier.le later = true) (hfile : after.files slot = before.files slot)
    (hlive : live host skew later after slot holder = true) :
    live host skew earlier before slot holder = true := by
  obtain ⟨record, hstored, hholder, hexpired⟩ := live_iff.mp hlive
  refine live_iff.mpr ⟨record, hfile ▸ hstored, hholder, ?_⟩
  by_contra hearlier
  rw [isExpired_mono hle (by simpa using hearlier)] at hexpired
  cases hexpired

end Stored

/-! ## One step -/

/-- What a step of the pool may leave in the file of one slot. -/
inductive Effect (host : HostRuntime) (pool : Pool) (slot : JsString) :
    Operation → LeaseFile → Prop
  | untouched (operation : Operation) : Effect host pool slot operation (pool.files slot)
  | taken {call : Nat} {around : Surroundings} {visiting : AnyCall} {record : LeaseRecord}
      (acquiredAt expiresAt : JsString) (hvisiting : pool.calls call = some visiting)
      (hphase : visiting.phase = .grant) (hcurrent : visiting.current = slot)
      (hstored : storedRecord host slot (pool.files slot) = some record)
      (hopen : record.holder = none ∨
        isExpired host record around.clock (skewMs visiting.options) = true)
      (hgrantable : grantable host visiting around = true) :
      Effect host pool slot (.visit call around)
        (.json (record.grant visiting.holder acquiredAt expiresAt).toJson)
  | renewed {holder : JsString} {token ttlSeconds : JsNumber} {options : LeaseOptions}
      {around : Surroundings} {record : LeaseRecord} {tenure : Tenure}
      (acquiredAt expiresAt : JsString)
      (hstored : storedRecord host slot (pool.files slot) = some record)
      (htenure : record.tenure = some tenure) (hholder : tenure.holder = holder)
      (hlive : isExpired host record around.clock (skewMs options) = false) :
      Effect host pool slot (.renew slot holder token ttlSeconds options around)
        (.json (record.refresh tenure acquiredAt expiresAt).toJson)
  | released {holder : JsString} {token : JsNumber} {around : Surroundings}
      (record : LeaseRecord) :
      Effect host pool slot (.release slot holder token around) (.json record.free.toJson)

section Steps

variable {host : HostRuntime} {dir slot holder : JsString} {skew : JsNumber}
variable {slots : List JsString}

/-- A checked call leaves the file alone, or its body wrote from the stored record. -/
theorem guarded_file {α : Type} (check : LeaseResult Unit) (around : Surroundings)
    (file : LeaseFile) (body : LeaseRecord → Except Thrown (Answer α)) :
    (guarded check file (withAllowedSlotLock host dir slot around file body)).2 = file ∨
    ∃ record result next, storedRecord host slot file = some record ∧
      body record = .ok (result, some next) ∧
      (guarded check file (withAllowedSlotLock host dir slot around file body)).2 =
        .json next.toJson := by
  unfold guarded withAllowedSlotLock
  split
  · exact .inl rfl
  · split
    · exact .inl rfl
    · rcases withSlotLock_file host dir slot around file body with
        hfile | ⟨record, result, next, hread, hbody, hfile⟩
      · exact .inl hfile
      · exact .inr ⟨record, result, next, readLease_stored hread, hbody, hfile⟩

/-- A grant that is written has both of its instants. -/
theorem grantBody_dates {ttlSeconds clock : JsNumber} {options : LeaseOptions}
    {record next : LeaseRecord} {result : LeaseResult SlotTry}
    (hbody : grantBody host holder ttlSeconds options clock record = .ok (result, some next)) :
    (expiryOf host clock ttlSeconds).isOk = true ∧ (iso host clock).isOk = true := by
  rw [grantBody] at hbody
  obtain ⟨expiresAt, hexpiry, hbody⟩ := do_eq_ok.mp hbody
  dsimp only at hbody
  split at hbody
  · obtain ⟨acquiredAt, hacquired, -⟩ := do_eq_ok.mp hbody
    rw [hexpiry, hacquired]
    exact ⟨rfl, rfl⟩
  · split at hbody <;> cases hbody

theorem visit_effect {pool : Pool} {call : Nat} {visiting : AnyCall}
    (around : Surroundings) (hvisiting : pool.calls call = some visiting) :
    Effect host pool visiting.current (.visit call around)
      (visiting.visit host dir around (pool.files visiting.current)).2 := by
  rw [AnyCall.visit_file]
  cases hwrites : around.letsWrite with
  | false =>
      rw [withSlotLock_faulty hwrites]
      exact Effect.untouched _
  | true =>
      rcases withSlotLock_file host dir visiting.current around (pool.files visiting.current)
        (anyBody host visiting.phase visiting.holder visiting.ttlSeconds visiting.options
          around.clock) with hfile | ⟨record, result, next, hread, hbody, hfile⟩
      · rw [hfile]
        exact Effect.untouched _
      · rw [hfile]
        cases hphase : visiting.phase with
        | own =>
            rw [hphase] at hbody
            cases (ownBody_cases hbody).1
        | grant =>
            rw [hphase] at hbody
            have hgrantable : grantable host visiting around = true := by
              obtain ⟨hexpiry, hacquired⟩ := grantBody_dates hbody
              obtain ⟨hpattern, hallowed, -⟩ := readLease_ok_iff.mp hread
              rw [grantable, hwrites, hpattern, hallowed, hexpiry, hacquired]
              rfl
            rcases grantBody_cases hbody with ⟨acquiredAt, expiresAt, hopen, hwrite, -⟩ |
              ⟨-, -, hwrite, -⟩ | ⟨-, -, -, hwrite, -⟩
            · cases hwrite
              exact Effect.taken acquiredAt expiresAt hvisiting hphase rfl
                (readLease_stored hread) hopen hgrantable
            · cases hwrite
            · cases hwrite

/-- Every step of a pool has one of the four effects on every slot. -/
theorem next_effect {operation : Operation} (pool : Pool)
    (hpool : onPool slots skew operation = true) (slot : JsString) :
    Effect host pool slot operation ((next host dir pool operation).files slot) := by
  by_cases htarget : targetOf pool operation = some slot
  · cases operation with
    | acquire => cases hpool
    | acquireAny => cases htarget
    | visit call around =>
        obtain ⟨visiting, hvisiting, rfl⟩ := Option.map_eq_some_iff.mp htarget
        simp only [next, hvisiting]
        simpa using visit_effect around hvisiting
    | renew target holder token ttlSeconds options around =>
        obtain rfl := Option.some.inj htarget
        rw [next, Pool.setFile_files_self, renewLease]
        rcases guarded_file _ around (pool.files target) _ with
          hfile | ⟨record, result, next, hstored, hbody, hfile⟩
        · rw [hfile]
          exact Effect.untouched _
        · obtain ⟨tenure, acquiredAt, expiresAt, htenure, hholder, -, hlive, rfl⟩ :=
            renewBody_write hbody
          rw [hfile]
          exact Effect.renewed acquiredAt expiresAt hstored htenure hholder hlive
    | release target holder token around =>
        obtain rfl := Option.some.inj htarget
        rw [next, Pool.setFile_files_self, releaseLease]
        rcases guarded_file _ around (pool.files target) _ with
          hfile | ⟨record, result, next, -, hbody, hfile⟩
        · rw [hfile]
          exact Effect.untouched _
        · obtain ⟨_, -, -, -, rfl⟩ := releaseBody_write hbody
          rw [hfile]
          exact Effect.released record
  · rw [next_files_of_ne host dir htarget]
    exact Effect.untouched _

/-- A slot that is live after a step was left alone, taken for its holder, or
renewed by its holder from a lease that was live or is revived. -/
theorem live_next {step : Step Pool Operation} {now : JsNumber}
    (hafter : step.after = next host dir step.before step.label)
    (hpool : onPool slots skew step.label = true)
    (hskew : ∀ call visiting, step.before.calls call = some visiting →
      skewMs visiting.options = skew)
    (hlive : live host skew now step.after slot holder = true) :
    step.after.files slot = step.before.files slot ∨
    takes host skew slot holder step = true ∨
    ∃ token ttlSeconds options around,
      step.label = .renew slot holder token ttlSeconds options around ∧
      (revives host skew slot holder step = true ∨
        live host skew around.clock step.before slot holder = true) := by
  have heffect : Effect host step.before slot step.label
      ((next host dir step.before step.label).files slot) := next_effect step.before hpool slot
  rw [← hafter] at heffect
  obtain ⟨written, hstored, hholder, -⟩ := live_iff.mp hlive
  generalize hfile : step.after.files slot = file at heffect hstored
  generalize hlabel : step.label = operation at heffect
  cases heffect with
  | untouched => exact .inl rfl
  | @taken call around visiting record acquiredAt expiresAt hvisiting hphase hcurrent hbefore
      hopen hgrantable =>
      refine .inr (.inl ?_)
      obtain rfl := storedRecord_toJson hstored
      have hname : visiting.holder = holder := Option.some.inj hholder
      rw [hskew _ _ hvisiting] at hopen
      simp only [takes, visitIn, hlabel, hvisiting, hphase, if_true, hcurrent, isOpen, hbefore,
        hgrantable, Bool.and_true]
      simpa [hname] using hopen
  | @renewed presenter token ttlSeconds options around record tenure acquiredAt expiresAt
      hbefore htenure hpresenter hunexpired =>
      obtain rfl := storedRecord_toJson hstored
      have hname : tenure.holder = holder := Option.some.inj hholder
      obtain rfl : presenter = holder := hpresenter.symm.trans hname
      refine .inr (.inr ⟨token, ttlSeconds, options, around, rfl, ?_⟩)
      have hrecord : record.holder = some presenter := by
        rw [LeaseRecord.holder, htenure, Option.map_some, hname]
      by_cases hlapsed : isExpired host record around.clock skew = true
      · left
        simp [revives, hlabel, lapsed, live, hbefore, hrecord, hlapsed, hunexpired]
      · right
        simp [live, hbefore, hrecord, hlapsed]
  | released =>
      obtain rfl := storedRecord_toJson hstored
      cases hholder

/-- A grant pass over an open slot writes the lease that it grants. -/
theorem grantBody_open {ttlSeconds clock : JsNumber} {options : LeaseOptions}
    {record : LeaseRecord}
    (hopen : record.holder = none ∨ isExpired host record clock (skewMs options) = true)
    (hexpiry : (expiryOf host clock ttlSeconds).isOk = true)
    (hacquired : (iso host clock).isOk = true) :
    ∃ acquiredAt expiresAt, grantBody host holder ttlSeconds options clock record =
      persist (record.grant holder acquiredAt expiresAt)
        (.granted (record.grant holder acquiredAt expiresAt) true record.holder.isSome) := by
  cases hexpires : expiryOf host clock ttlSeconds with
  | error thrown =>
      rw [hexpires] at hexpiry
      cases hexpiry
  | ok expiresAt =>
      cases hstart : iso host clock with
      | error thrown =>
          rw [hstart] at hacquired
          cases hacquired
      | ok acquiredAt =>
          refine ⟨acquiredAt, expiresAt, ?_⟩
          rw [grantBody]
          refine do_eq_ok.mpr ⟨expiresAt, hexpires, ?_⟩
          dsimp only
          rw [if_pos hopen]
          exact do_eq_ok.mpr ⟨acquiredAt, hstart, rfl⟩

/-- A slot that is taken stores a new lease of the holder. -/
theorem takes_written {step : Step Pool Operation}
    (hafter : step.after = next host dir step.before step.label)
    (hskew : ∀ call visiting, step.before.calls call = some visiting →
      skewMs visiting.options = skew)
    (htakes : takes host skew slot holder step = true) :
    ∃ record acquiredAt expiresAt, storedRecord host slot (step.before.files slot) = some record ∧
      step.after.files slot = .json (record.grant holder acquiredAt expiresAt).toJson := by
  obtain ⟨call, around, visiting, hlabel, hcall, hphase, rfl, rfl, hopen, hgrantable⟩ :=
    takes_iff host |>.mp htakes
  simp only [grantable, Bool.and_eq_true] at hgrantable
  obtain ⟨⟨⟨⟨hwrites, hpattern⟩, hallowed⟩, hexpiry⟩, hacquired⟩ := hgrantable
  cases hstored : storedRecord host visiting.current (step.before.files visiting.current) with
  | none =>
      rw [isOpen, hstored] at hopen
      cases hopen
  | some record =>
      have hfree : record.holder = none ∨
          isExpired host record around.clock (skewMs visiting.options) = true := by
        rw [hskew call visiting hcall]
        simpa [isOpen, hstored] using hopen
      obtain ⟨acquiredAt, expiresAt, hbody⟩ :=
        @grantBody_open host visiting.holder _ _ _ _ hfree hexpiry hacquired
      refine ⟨record, acquiredAt, expiresAt, rfl, ?_⟩
      have hfile : (next host dir step.before (.visit call around)).files visiting.current =
          (visiting.visit host dir around (step.before.files visiting.current)).2 := by
        simp only [next, hcall]
        simp
      rw [hafter, hlabel, hfile, AnyCall.visit_file, hphase]
      exact withSlotLock_persisted hwrites (readLease_ok_iff.mpr ⟨hpattern, hallowed, hstored⟩)
        hbody

/-- A step touches the file of one slot at most. -/
theorem touched_unique {step : Step Pool Operation}
    (hafter : step.after = next host dir step.before step.label) {first second : JsString}
    (hfirst : step.after.files first ≠ step.before.files first)
    (hsecond : step.after.files second ≠ step.before.files second) : first = second := by
  rw [hafter] at hfirst hsecond
  have hsame := (targetOf_of_ne host dir hfirst).symm.trans (targetOf_of_ne host dir hsecond)
  exact Option.some.inj hsame

end Steps

/-! ## Calls in progress -/

namespace AnyCall

/-- In the own pass the list is what was looked at, the slot to visit next, and
the rest. -/
def Placed (call : AnyCall) : Prop :=
  call.phase = .own → ∃ before, call.slots = before ++ call.current :: call.rest

/-- The own pass has been past the slot. -/
def Looked (call : AnyCall) (slot : JsString) : Prop :=
  match call.phase with
  | .own => ∃ before, call.slots = before ++ call.current :: call.rest ∧ slot ∈ before
  | .grant => slot ∈ call.slots

theorem start_placed (first : JsString) (others : List JsString) (holder : JsString)
    (ttlSeconds : JsNumber) (options : LeaseOptions) :
    (start first others holder ttlSeconds options).Placed := by
  intro _
  exact ⟨[], rfl⟩

theorem not_looked_start (first : JsString) (others : List JsString) (holder : JsString)
    (ttlSeconds : JsNumber) (options : LeaseOptions) (slot : JsString) :
    ¬(start first others holder ttlSeconds options).Looked slot := by
  rintro ⟨before, hslots, hmem⟩
  have hlength := congrArg List.length hslots
  cases before with
  | nil => cases hmem
  | cons head tail =>
      simp [slots, start] at hlength
      omega

variable {call after : AnyCall} {held : List HeldSlot}

/-- Moving on keeps the arguments and looks past at most the slot just visited. -/
theorem advance_visiting (hplaced : call.Placed)
    (hadvance : call.advance held = .visiting after) :
    after.slots = call.slots ∧ after.holder = call.holder ∧ after.options = call.options ∧
      after.Placed ∧
      ∀ slot, after.Looked slot → call.Looked slot ∨ (call.phase = .own ∧ slot = call.current) := by
  rw [advance] at hadvance
  split at hadvance
  · rename_i next rest hrest
    cases hadvance
    refine ⟨rfl, rfl, rfl, ?_, ?_⟩
    · intro hphase
      obtain ⟨before, hslots⟩ := hplaced hphase
      exact ⟨before ++ [call.current], by simpa [slots, hrest] using hslots⟩
    · intro slot hlooked
      cases hphase : call.phase with
      | grant => simpa [Looked, hphase, slots] using hlooked
      | own =>
          obtain ⟨before, hslots⟩ := hplaced hphase
          simp only [Looked, hphase] at hlooked
          obtain ⟨longer, hlonger, hmem⟩ := hlooked
          have hsplit : longer = before ++ [call.current] := by
            have heq : longer ++ next :: rest = (before ++ [call.current]) ++ next :: rest := by
              calc longer ++ next :: rest = call.slots := hlonger.symm
                _ = before ++ call.current :: next :: rest := by rw [hslots, hrest]
                _ = (before ++ [call.current]) ++ next :: rest := by simp
            exact List.append_cancel_right heq
          subst hsplit
          rcases List.mem_append.mp hmem with hbefore | hcurrent
          · left
            simp only [Looked, hphase]
            exact ⟨before, hslots, hbefore⟩
          · right
            exact ⟨rfl, List.mem_singleton.mp hcurrent⟩
  · rename_i hrest hphase
    cases hadvance
    refine ⟨rfl, rfl, rfl, ?_, ?_⟩
    · intro hgrant
      cases hgrant
    · intro slot hlooked
      obtain ⟨before, hslots⟩ := hplaced hphase
      have hmem : slot ∈ call.slots := hlooked
      rw [hslots, hrest] at hmem
      rcases List.mem_append.mp hmem with hbefore | hcurrent
      · left
        simp only [Looked, hphase]
        exact ⟨before, hslots, hbefore⟩
      · right
        exact ⟨hphase, List.mem_singleton.mp hcurrent⟩
  · cases hadvance

/-- A visit that leaves its call in progress met a held slot. -/
theorem visit_visiting {host : HostRuntime} {dir : JsString} {around : Surroundings}
    {file : LeaseFile} (hvisit : (call.visit host dir around file).1.call = some after) :
    ∃ held holder expiresAt, call.advance held = .visiting after ∧
      (withSlotLock host dir call.current around file
        (anyBody host call.phase call.holder call.ttlSeconds call.options around.clock)).1 =
        .ok (.ok (.held holder expiresAt)) := by
  rw [visit] at hvisit
  split at hvisit
  · cases hvisit
  · cases hvisit
  · cases hvisit
  · rename_i holder expiresAt _ hlock
    refine ⟨noteHeld call.held call.current holder expiresAt, holder, expiresAt, ?_,
      by rw [hlock]⟩
    cases hadvance : call.advance (noteHeld call.held call.current holder expiresAt) with
    | finished reply =>
        rw [hadvance] at hvisit
        cases hvisit
    | visiting next =>
        rw [hadvance] at hvisit
        cases hvisit
        rfl

end AnyCall

section Calls

variable {host : HostRuntime} {dir slot holder : JsString} {skew : JsNumber}
variable {slots : List JsString}

theorem acquireAnyLease_ok {ttlSeconds : JsNumber} {options : LeaseOptions}
    {allow : AllowFile} {started : AnyCall}
    (hstarted : acquireAnyLease host slots holder ttlSeconds options allow = .ok started) :
    ∃ first others, slots = first :: others ∧
      started = AnyCall.start first others holder ttlSeconds options := by
  unfold acquireAnyLease at hstarted
  split at hstarted
  · cases hstarted
  · rename_i first others
    obtain ⟨-, -, hstarted⟩ := do_eq_ok.mp hstarted
    obtain ⟨-, -, hstarted⟩ := do_eq_ok.mp hstarted
    obtain ⟨-, -, hstarted⟩ := do_eq_ok.mp hstarted
    obtain ⟨-, -, hstarted⟩ := do_eq_ok.mp hstarted
    exact ⟨first, others, rfl, (Except.ok.inj hstarted).symm⟩

/-- Where a call in progress after a step comes from. -/
theorem calls_next {step : Step Pool Operation}
    (hafter : step.after = next host dir step.before step.label)
    (hpool : onPool slots skew step.label = true) {call : Nat} {visiting : AnyCall}
    (hcall : step.after.calls call = some visiting) :
    (step.before.calls call = some visiting ∧ ∀ around, step.label ≠ .visit call around) ∨
    (∃ first others holder ttlSeconds options,
      visiting = AnyCall.start first others holder ttlSeconds options ∧
      visiting.slots = slots ∧ skewMs visiting.options = skew) ∨
    (∃ around before, step.label = .visit call around ∧
      step.before.calls call = some before ∧
      (before.visit host dir around (step.before.files before.current)).1.call =
        some visiting) := by
  rw [hafter] at hcall
  obtain ⟨before, label, after⟩ := step
  cases label with
  | acquire => cases hpool
  | renew => exact .inl ⟨hcall, by simp⟩
  | release => exact .inl ⟨hcall, by simp⟩
  | acquireAny number named holder ttlSeconds options allow =>
      simp only [next] at hcall
      split at hcall
      · exact .inl ⟨hcall, by simp⟩
      · split at hcall
        · exact .inl ⟨hcall, by simp⟩
        · rename_i started hstarted
          by_cases hnumber : call = number
          · subst hnumber
            rw [Pool.setCall_calls_self] at hcall
            cases hcall
            obtain ⟨first, others, hnamed, rfl⟩ := acquireAnyLease_ok hstarted
            simp only [onPool, Bool.and_eq_true, decide_eq_true_eq] at hpool
            refine .inr (.inl ⟨first, others, holder, ttlSeconds, options, rfl, ?_, hpool.2⟩)
            exact hnamed.symm.trans hpool.1
          · rw [Pool.setCall_calls_of_ne before _ hnumber] at hcall
            exact .inl ⟨hcall, by simp⟩
  | visit number around =>
      simp only [next] at hcall
      split at hcall
      · rename_i hnone
        refine .inl ⟨hcall, ?_⟩
        intro other heq
        cases heq
        rw [hnone] at hcall
        cases hcall
      · rename_i found hfound
        by_cases hnumber : call = number
        · subst hnumber
          rw [Pool.setCall_calls_self] at hcall
          exact .inr (.inr ⟨around, found, rfl, hfound, hcall⟩)
        · rw [Pool.setCall_calls_of_ne _ _ hnumber, Pool.setFile_calls] at hcall
          refine .inl ⟨hcall, ?_⟩
          intro other heq
          cases heq
          exact hnumber rfl

end Calls

/-! ## Whole histories -/

section Runs

variable {host : HostRuntime} {dir : JsString} {slots : List JsString} {skew : JsNumber}
variable {holder : JsString}

/-- What a history keeps: the calls in progress are well placed calls on the
list; a slot that such a call of the holder has looked at is live now only if it
was taken or revived since; and at most one slot of the list is live. -/
structure OneLive (host : HostRuntime) (slots : List JsString) (skew : JsNumber)
    (holder : JsString) (history : List (Step Pool Operation)) (final : Pool) : Prop where
  calls : ∀ call visiting, final.calls call = some visiting →
    visiting.slots = slots ∧ skewMs visiting.options = skew ∧ visiting.Placed
  seen : ∀ call visiting now slot, final.calls call = some visiting →
    visiting.holder = holder → onCommonClock history now = true → visiting.Looked slot →
    live host skew now final slot holder = true →
      (sinceLook call slot history).any (fun between =>
        takes host skew slot holder between || revives host skew slot holder between) = true
  single : ∀ now, onCommonClock history now = true →
    ∀ first ∈ slots, ∀ second ∈ slots, live host skew now final first holder = true →
      live host skew now final second holder = true → first = second

theorem onCommonClock_cons {step : Step Pool Operation}
    {history : List (Step Pool Operation)} {now : JsNumber}
    (hclock : onCommonClock (step :: history) now = true) :
    (clockOf step.label = none ∧ onCommonClock history now = true) ∨
    ∃ clock, clockOf step.label = some clock ∧ clock.le now = true ∧
      onCommonClock history clock = true := by
  rw [onCommonClock] at hclock
  split at hclock
  · rename_i hnone
    exact .inl ⟨hnone, hclock⟩
  · rename_i clock hsome
    rw [Bool.and_eq_true] at hclock
    exact .inr ⟨clock, hsome, hclock.1, hclock.2⟩

/-- A lease that is live after a step that left its file alone was live before
it, at an instant the earlier history reaches. -/
theorem live_before {step : Step Pool Operation} {history : List (Step Pool Operation)}
    {now : JsNumber} {slot : JsString} (hclock : onCommonClock (step :: history) now = true)
    (hfile : step.after.files slot = step.before.files slot)
    (hlive : live host skew now step.after slot holder = true) :
    ∃ instant, onCommonClock history instant = true ∧
      (∀ clock, clockOf step.label = some clock → instant = clock) ∧
      live host skew instant step.before slot holder = true := by
  rcases onCommonClock_cons hclock with ⟨hnone, hearlier⟩ | ⟨clock, hsome, hle, hearlier⟩
  · refine ⟨now, hearlier, by simp [hnone], ?_⟩
    obtain ⟨record, hstored, hrest⟩ := live_iff.mp hlive
    exact live_iff.mpr ⟨record, hfile ▸ hstored, hrest⟩
  · refine ⟨clock, hearlier, ?_, live_of_le hle hfile hlive⟩
    intro other hother
    rw [hsome] at hother
    exact Option.some.inj hother

/-- A call still in progress after its own-pass look found the slot not live. -/
theorem not_live_of_ownLook {step : Step Pool Operation} {around : Surroundings}
    {before visiting : AnyCall} (hphase : before.phase = .own)
    (hskew : skewMs before.options = skew)
    (hvisit : (before.visit host dir around (step.before.files before.current)).1.call =
      some visiting) :
    live host skew around.clock step.before before.current before.holder = false := by
  obtain ⟨held, other, expiresAt, -, hreply⟩ := AnyCall.visit_visiting hvisit
  obtain ⟨record, write, hread, hbody, -⟩ := withSlotLock_ok hreply
  rw [hphase] at hbody
  obtain ⟨-, ⟨-, -, hresult⟩ | ⟨hnot, -⟩⟩ := ownBody_cases hbody
  · cases hresult
  · rw [hskew] at hnot
    simpa [live, readLease_stored hread] using hnot

section Step

variable {history : List (Step Pool Operation)} {step : Step Pool Operation}

theorem OneLive.skews {final : Pool} (hlive : OneLive host slots skew holder history final) :
    ∀ call visiting, final.calls call = some visiting → skewMs visiting.options = skew :=
  fun call visiting hcall => (hlive.calls call visiting hcall).2.1

theorem OneLive.calls_step (hlive : OneLive host slots skew holder history step.before)
    (hafter : step.after = next host dir step.before step.label)
    (hpool : onPool slots skew step.label = true) :
    ∀ call visiting, step.after.calls call = some visiting →
      visiting.slots = slots ∧ skewMs visiting.options = skew ∧ visiting.Placed := by
  intro call visiting hcall
  rcases calls_next hafter hpool hcall with ⟨hbefore, -⟩ |
    ⟨first, others, holder, ttlSeconds, options, rfl, hslots, hskew⟩ |
    ⟨around, before, -, hbefore, hvisit⟩
  · exact hlive.calls call visiting hbefore
  · exact ⟨hslots, hskew, AnyCall.start_placed first others holder ttlSeconds options⟩
  · obtain ⟨hslots, hskew, hplaced⟩ := hlive.calls call before hbefore
    obtain ⟨held, _, _, hadvance, -⟩ := AnyCall.visit_visiting hvisit
    obtain ⟨hsame, -, hoptions, hafterPlaced, -⟩ := AnyCall.advance_visiting hplaced hadvance
    exact ⟨hsame.trans hslots, by rw [hoptions, hskew], hafterPlaced⟩

/-- What a call had seen before a step is still accounted for after it. -/
theorem OneLive.seen_before (hlive : OneLive host slots skew holder history step.before)
    (hafter : step.after = next host dir step.before step.label)
    (hpool : onPool slots skew step.label = true) {call : Nat} {before : AnyCall}
    {now : JsNumber} {slot : JsString} (hbefore : step.before.calls call = some before)
    (hholder : before.holder = holder) (hclock : onCommonClock (step :: history) now = true)
    (hlooked : before.Looked slot) (hlook : ownLook call slot step = false)
    (hnow : live host skew now step.after slot holder = true) :
    (sinceLook call slot (step :: history)).any (fun between =>
      takes host skew slot holder between || revives host skew slot holder between) = true := by
  have hsince : sinceLook call slot (step :: history) = step :: sinceLook call slot history := by
    simp [sinceLook, hlook]
  rw [hsince, List.any_cons, Bool.or_eq_true]
  rcases live_next hafter hpool hlive.skews hnow with hfile | htakes |
    ⟨token, ttlSeconds, options, around, hlabel, hrevives | hstill⟩
  · obtain ⟨instant, hearlier, -, hthen⟩ := live_before hclock hfile hnow
    exact .inr (hlive.seen call before instant slot hbefore hholder hearlier hlooked hthen)
  · exact .inl (by simp [htakes])
  · exact .inl (by simp [hrevives])
  · rcases onCommonClock_cons hclock with ⟨hnone, -⟩ | ⟨clock, hsome, -, hearlier⟩
    · simp [hlabel, clockOf] at hnone
    · obtain rfl : around.clock = clock := by simpa [hlabel, clockOf] using hsome
      exact .inr (hlive.seen call before _ slot hbefore hholder hearlier hlooked hstill)

theorem OneLive.seen_step (hlive : OneLive host slots skew holder history step.before)
    (hafter : step.after = next host dir step.before step.label)
    (hpool : onPool slots skew step.label = true) :
    ∀ call visiting now slot, step.after.calls call = some visiting →
      visiting.holder = holder → onCommonClock (step :: history) now = true →
      visiting.Looked slot → live host skew now step.after slot holder = true →
        (sinceLook call slot (step :: history)).any (fun between =>
          takes host skew slot holder between || revives host skew slot holder between) =
          true := by
  intro call visiting now slot hcall hholder hclock hlooked hnow
  rcases calls_next hafter hpool hcall with ⟨hbefore, hother⟩ |
    ⟨first, others, starter, ttlSeconds, options, rfl, -, -⟩ |
    ⟨around, before, hlabel, hbefore, hvisit⟩
  · -- The step belongs to somebody else.
    refine hlive.seen_before hafter hpool hbefore hholder hclock hlooked ?_ hnow
    by_contra hlook
    obtain ⟨around, _, hlabel, -⟩ := ownLook_iff.mp (by simpa using hlook)
    exact hother around hlabel
  · exact absurd hlooked (AnyCall.not_looked_start first others starter ttlSeconds options slot)
  · obtain ⟨-, hskew, hplaced⟩ := hlive.calls call before hbefore
    obtain ⟨held, _, _, hadvance, -⟩ := AnyCall.visit_visiting hvisit
    obtain ⟨-, hname, -, -, hpast⟩ := AnyCall.advance_visiting hplaced hadvance
    rw [hname] at hholder
    by_cases hown : before.phase = .own ∧ slot = before.current
    · -- This very step is the call's look at the slot, and it found it not live.
      obtain ⟨hphase, rfl⟩ := hown
      have hdead := not_live_of_ownLook hphase hskew hvisit
      rw [hholder] at hdead
      have hfile : step.after.files before.current = step.before.files before.current := by
        rcases live_next hafter hpool hlive.skews hnow with hfile | htakes | ⟨_, _, _, _, hrenew, -⟩
        · exact hfile
        · obtain ⟨_, _, found, hother, hfound, hgrant, -⟩ := takes_iff host |>.mp htakes
          rw [hlabel] at hother
          cases hother
          rw [hbefore] at hfound
          cases hfound
          rw [hphase] at hgrant
          cases hgrant
        · rw [hlabel] at hrenew
          cases hrenew
      obtain ⟨instant, -, hinstant, hthen⟩ := live_before hclock hfile hnow
      rw [hinstant around.clock (by simp [hlabel, clockOf]), hdead] at hthen
      cases hthen
    · refine hlive.seen_before hafter hpool hbefore hholder hclock ?_ ?_ hnow
      · exact (hpast slot hlooked).resolve_right hown
      · by_contra hlook
        obtain ⟨_, found, -, hfound, hphase, hcurrent⟩ := ownLook_iff.mp (by simpa using hlook)
        rw [hbefore] at hfound
        cases hfound
        exact hown ⟨hphase, hcurrent.symm⟩

/-- A step that makes a slot live does not do so beside another live one. -/
theorem OneLive.not_touched_beside
    (hlive : OneLive host slots skew holder history step.before)
    (hafter : step.after = next host dir step.before step.label)
    (hpool : onPool slots skew step.label = true)
    (hovertaken : overtaken host slots skew holder history step = false)
    (hrevives : revivesBeside host slots skew holder step = false)
    {now : JsNumber} (hclock : onCommonClock (step :: history) now = true)
    {first second : JsString} (hfirst : first ∈ slots) (hsecond : second ∈ slots)
    (hne : first ≠ second) (hlivefirst : live host skew now step.after first holder = true)
    (hlivesecond : live host skew now step.after second holder = true) :
    step.after.files first = step.before.files first := by
  by_contra htouched
  have hfile : step.after.files second = step.before.files second := by
    by_contra hother
    exact hne (touched_unique hafter htouched hother)
  obtain ⟨instant, hearlier, hinstant, hthen⟩ := live_before hclock hfile hlivesecond
  rcases live_next hafter hpool hlive.skews hlivefirst with hsame | htakes |
    ⟨token, ttlSeconds, options, around, hlabel, hrevive | hstill⟩
  · exact htouched hsame
  · -- The call of this grant pass looked at `second` before, so it is overtaken.
    obtain ⟨call, around, visiting, hlabel, hcall, hphase, hcurrent, hholder, -⟩ :=
      takes_iff host |>.mp htakes
    obtain ⟨hslots, -, -⟩ := hlive.calls call visiting hcall
    obtain rfl := hinstant around.clock (by simp [hlabel, clockOf])
    have hlooked : visiting.Looked second := by
      simpa [AnyCall.Looked, hphase, hslots] using hsecond
    have hsince := hlive.seen call visiting _ second hcall hholder hearlier hlooked hthen
    have hvisit := visitIn_eq_some.mpr ⟨hlabel, hcall, hphase⟩
    subst hcurrent
    have hbad : overtaken host slots skew holder history step = true := by
      simp only [overtaken, hvisit, htakes, Bool.true_and, List.any_eq_true]
      exact ⟨second, hsecond, by
        simpa [Ne.symm hne, hthen] using hsince⟩
    rw [hovertaken] at hbad
    cases hbad
  · obtain rfl := hinstant around.clock (by simp [hlabel, clockOf])
    have hbad : revivesBeside host slots skew holder step = true := by
      simp only [revivesBeside, hlabel, hrevive, Bool.true_and, List.any_eq_true]
      exact ⟨second, hsecond, by simp [Ne.symm hne, hthen]⟩
    rw [hrevives] at hbad
    cases hbad
  · obtain rfl := hinstant around.clock (by simp [hlabel, clockOf])
    exact hne (hlive.single _ hearlier first hfirst second hsecond hstill hthen)

theorem OneLive.single_step (hlive : OneLive host slots skew holder history step.before)
    (hafter : step.after = next host dir step.before step.label)
    (hpool : onPool slots skew step.label = true)
    (hovertaken : overtaken host slots skew holder history step = false)
    (hrevives : revivesBeside host slots skew holder step = false) :
    ∀ now, onCommonClock (step :: history) now = true →
      ∀ first ∈ slots, ∀ second ∈ slots, live host skew now step.after first holder = true →
        live host skew now step.after second holder = true → first = second := by
  intro now hclock first hfirst second hsecond hlivefirst hlivesecond
  by_contra hne
  have hfilefirst := hlive.not_touched_beside hafter hpool hovertaken hrevives hclock hfirst
    hsecond hne hlivefirst hlivesecond
  have hfilesecond := hlive.not_touched_beside hafter hpool hovertaken hrevives hclock hsecond
    hfirst (Ne.symm hne) hlivesecond hlivefirst
  rcases onCommonClock_cons hclock with ⟨-, hearlier⟩ | ⟨clock, -, hle, hearlier⟩
  · have hsame : ∀ slot, step.after.files slot = step.before.files slot →
        live host skew now step.after slot holder = true →
        live host skew now step.before slot holder = true := by
      intro slot hfile hslot
      obtain ⟨record, hstored, hrest⟩ := live_iff.mp hslot
      exact live_iff.mpr ⟨record, hfile ▸ hstored, hrest⟩
    exact hne (hlive.single now hearlier first hfirst second hsecond
      (hsame first hfilefirst hlivefirst) (hsame second hfilesecond hlivesecond))
  · exact hne (hlive.single clock hearlier first hfirst second hsecond
      (live_of_le hle hfilefirst hlivefirst) (live_of_le hle hfilesecond hlivesecond))

end Step

/-- No call has started, and the holder has no lease in the list. -/
def Unclaimed (slots : List JsString) (holder : JsString) (pool : Pool) : Prop :=
  (∀ call, pool.calls call = none) ∧ ∀ slot ∈ slots, (pool.register slot).holder ≠ some holder

theorem unclaimed_empty (slots : List JsString) (holder : JsString) :
    Unclaimed slots holder Pool.empty :=
  ⟨fun _ => rfl, fun _ _ hholder => by cases hholder⟩

theorem storedRecord_register {slot : JsString} {file : LeaseFile} {record : LeaseRecord}
    (hstored : storedRecord host slot file = some record) : file.register = record.register := by
  cases file with
  | absent =>
      cases hstored
      rfl
  | notJson => cases hstored
  | json value => exact isRecord_register hstored

theorem oneLive_start {start : Pool} (hstart : Unclaimed slots holder start) :
    OneLive host slots skew holder [] start := by
  refine ⟨?_, ?_, ?_⟩
  · intro call visiting hcall
    rw [hstart.1] at hcall
    cases hcall
  · intro call visiting now slot hcall
    rw [hstart.1] at hcall
    cases hcall
  · intro now _ first hfirst second _ hlive _
    obtain ⟨record, hstored, hholder, -⟩ := live_iff.mp hlive
    have hregister := storedRecord_register hstored
    exact absurd (by rw [Pool.register, hregister]; exact hholder) (hstart.2 first hfirst)

theorem oneLive_of_run {start : Pool} (hstart : Unclaimed slots holder start)
    {history : List (Step Pool Operation)} {final : Pool}
    (hrun : Run (next host dir) start history final)
    (hpool : ∀ step ∈ history, onPool slots skew step.label = true)
    (hundisturbed : undisturbed host slots skew holder history = true) :
    OneLive host slots skew holder history final := by
  induction hrun with
  | nil => exact oneLive_start hstart
  | @step earlier state label _ ih =>
      simp only [undisturbed, Bool.and_eq_true, Bool.not_eq_true'] at hundisturbed
      obtain ⟨⟨hovertaken, hrevives⟩, hearlier⟩ := hundisturbed
      have hlive := ih (fun step hmem => hpool step (List.mem_cons_of_mem _ hmem)) hearlier
      have hhead := hpool _ List.mem_cons_self
      exact ⟨hlive.calls_step rfl hhead, hlive.seen_step rfl hhead,
        hlive.single_step rfl hhead hovertaken hrevives⟩

/-- In every run on one clock in which no grant pass of the holder is overtaken
by a sibling call and no lapsed lease of the holder is revived beside a live one,
the holder never has two live slots of the list. -/
theorem one_live_slot {start : Pool} (hstart : Unclaimed slots holder start)
    {history : List (Step Pool Operation)} {final : Pool}
    (hrun : Run (next host dir) start history final)
    (hpool : ∀ step ∈ history, onPool slots skew step.label = true)
    (hundisturbed : undisturbed host slots skew holder history = true)
    {now : JsNumber} (hclock : onCommonClock history now = true)
    {first second : JsString} (hfirst : first ∈ slots) (hsecond : second ∈ slots)
    (hlivefirst : live host skew now final first holder = true)
    (hlivesecond : live host skew now final second holder = true) : first = second :=
  (oneLive_of_run hstart hrun hpool hundisturbed).single now hclock first hfirst second hsecond
    hlivefirst hlivesecond

end Runs

/-! ## Two runs -/

/-- Whatever the interleaving, a holder that starts without a lease in the list
never has two live slots of it. -/
def NeverTwoLive (host : HostRuntime) (dir : JsString) : Prop :=
  ∀ (slots : List JsString) (skew : JsNumber) (holder : JsString) (start final : Pool)
    (history : List (Step Pool Operation)) (now : JsNumber),
    Unclaimed slots holder start → Run (next host dir) start history final →
    (∀ step ∈ history, onPool slots skew step.label = true) →
    onCommonClock history now = true →
    ∀ first ∈ slots, ∀ second ∈ slots, live host skew now final first holder = true →
      live host skew now final second holder = true → first = second

def twoSlots : List JsString := [js "suite-1", js "suite-2"]

def dayStart : JsNumber := .ofInt 1767225600000

def defaultSkew : LeaseOptions := { skewMs := none }

/-- `count` visits of one call. -/
def visits (call count : Nat) : List Operation :=
  List.replicate count (.visit call (Surroundings.calm dayStart))

def startCall (call : Nat) (holder : JsString) : Operation :=
  .acquireAny call twoSlots holder (.ofNat 60) defaultSkew .absent

/-- Another runner holds the first slot while a call of `runner-a` passes it in
both passes; it releases the slot, a second call of `runner-a` is granted it, and
the first call goes on to take the second slot. -/
def overtakingRun : List Operation :=
  startCall 0 (js "runner-x") :: visits 0 3 ++ startCall 1 (js "runner-a") :: visits 1 3 ++
    .release (js "suite-1") (js "runner-x") (.ofNat 1) (Surroundings.calm dayStart) ::
    startCall 2 (js "runner-a") :: visits 2 3 ++ visits 1 1

theorem overtakingRun_two_live : ¬NeverTwoLive plainHost (js "/leases") := by
  intro hnever
  let outcome := play (next plainHost (js "/leases")) [] Pool.empty overtakingRun
  have hrun : Run (next plainHost (js "/leases")) Pool.empty outcome.1 outcome.2 :=
    Run.nil.play overtakingRun
  have hsame := hnever twoSlots (.ofNat 2000) (js "runner-a") Pool.empty outcome.2 outcome.1
    dayStart (unclaimed_empty _ _) hrun (by decide +kernel) (by decide +kernel)
    (js "suite-1") (by decide) (js "suite-2") (by decide) (by decide +kernel) (by decide +kernel)
  exact absurd hsame (by decide)

/-- The same two calls of `runner-a` where the last write fails: the first call meets the
second slot open, beside the one that the second call took, and is not granted it. -/
def settlingRun : List Operation :=
  startCall 0 (js "runner-x") :: visits 0 3 ++ startCall 1 (js "runner-a") :: visits 1 3 ++
    .release (js "suite-1") (js "runner-x") (.ofNat 1) (Surroundings.calm dayStart) ::
    startCall 2 (js "runner-a") :: visits 2 3 ++
    [.visit 1 { Surroundings.calm dayStart with writeFault := true }]

theorem one_live_slot_settlingRun :
    let outcome := play (next plainHost (js "/leases")) [] Pool.empty settlingRun
    live plainHost (.ofNat 2000) dayStart outcome.2 (js "suite-1") (js "runner-a") = true ∧
      ∀ second ∈ twoSlots,
        live plainHost (.ofNat 2000) dayStart outcome.2 second (js "runner-a") = true →
          js "suite-1" = second := by
  intro outcome
  have hlive : live plainHost (.ofNat 2000) dayStart outcome.2 (js "suite-1")
      (js "runner-a") = true := by decide +kernel
  have hrun : Run (next plainHost (js "/leases")) Pool.empty outcome.1 outcome.2 :=
    Run.nil.play settlingRun
  refine ⟨hlive, fun second hsecond hother => ?_⟩
  exact one_live_slot (unclaimed_empty _ _) hrun
    (by decide +kernel) (by decide +kernel) (by decide +kernel) (by decide) hsecond hlive hother

end OdinSentinel.Lease
