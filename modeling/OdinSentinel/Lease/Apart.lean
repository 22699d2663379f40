import OdinSentinel.Core.JsonRoundTrip
import OdinSentinel.Lease.Store

/-!
# Slots apart

The paths of two slots are different names in the lease directory, whatever the names of the
slots end in, so that an operation changes nothing at the record or the lock of a slot that
it does not name, and nothing at the allow-list.
-/

namespace OdinSentinel.Lease.Store

open JsText Host Dialogue FileTree PosixPath

/-! ## The names of a slot -/

def recordName (slot : JsString) : Segment := slot ++ leaseFileSuffix

def lockName (slot : JsString) : Segment := slot ++ leaseLockSuffix

def tempName (pid : Nat) (slot : JsString) : Segment :=
  slot ++ (leaseFileSuffix ++ (js "." ++ natText pid ++ js ".tmp"))

def slotNames (pid : Nat) (slot : JsString) : List Segment :=
  [recordName slot, lockName slot, tempName pid slot]

/-- A slot starts with a letter or a digit and holds no slash. -/
theorem slot_units {slot : JsString} (hslot : slotPattern slot = true) :
    slash ∉ slot ∧ ∃ first rest, slot = first :: rest ∧ first ≠ 46 := by
  cases slot with
  | nil => cases hslot
  | cons first rest =>
      simp only [slotPattern, Bool.and_eq_true, List.all_eq_true] at hslot
      obtain ⟨hfirst, hrest⟩ := hslot
      have hdot : first ≠ 46 := by
        rintro rfl
        exact absurd hfirst (by decide)
      refine ⟨?_, first, rest, rfl, hdot⟩
      intro hslash
      rcases List.mem_cons.mp hslash with rfl | hslash
      · exact absurd hfirst (by decide)
      · exact absurd (hrest slash hslash) (by decide)

theorem isName_slot {slot suffix : JsString} (hslot : slotPattern slot = true)
    (hsuffix : slash ∉ suffix) : IsName (slot ++ suffix) := by
  obtain ⟨hslash, first, rest, rfl, hdot⟩ := slot_units hslot
  refine ⟨List.cons_ne_nil _ _, ?_, ?_, ?_⟩
  · exact fun hhere => hdot (List.cons.inj hhere).1
  · exact fun hparent => hdot (List.cons.inj hparent).1
  · rw [List.mem_append]
    exact not_or.mpr ⟨hslash, hsuffix⟩

theorem slash_not_mem_natText (value : Nat) : slash ∉ natText value :=
  fun hslash => absurd (Json.isDigit_of_mem_natText value slash hslash) (by decide)

theorem slash_not_mem_temp (pid : Nat) :
    slash ∉ leaseFileSuffix ++ (js "." ++ natText pid ++ js ".tmp") := by
  have hdigits := slash_not_mem_natText pid
  simp only [List.mem_append, not_or]
  exact ⟨by decide, ⟨by decide, hdigits⟩, by decide⟩

variable {slot : JsString}

theorem place_record (process : Process) (dir : JsString) (hslot : slotPattern slot = true) :
    process.place (leasePath process.runtime dir slot) = recordName slot :: process.place dir :=
  locate_join process.cwd dir (isName_slot hslot (by decide))

theorem place_lock (process : Process) (dir : JsString) (hslot : slotPattern slot = true) :
    process.place (lockPath process.runtime dir slot) = lockName slot :: process.place dir :=
  locate_join process.cwd dir (isName_slot hslot (by decide))

theorem place_temp (process : Process) (dir : JsString) (hslot : slotPattern slot = true) :
    process.place (process.tempPath dir slot) =
      tempName process.pid slot :: process.place dir := by
  have hname : IsName (slot ++ leaseFileSuffix) := isName_slot hslot (by decide)
  have hlonger := isName_slot hslot (slash_not_mem_temp process.pid)
  rw [← List.append_assoc] at hlonger
  have hplace := locate_join_append process.cwd dir hname hlonger
  rw [tempName, ← List.append_assoc]
  rw [Process.tempPath, List.append_assoc, List.append_assoc, ← List.append_assoc (js ".")]
  exact hplace

theorem place_allow (process : Process) (dir : JsString) :
    process.place (process.allowPath dir) = slotsAllowFilename :: process.place dir :=
  locate_join process.cwd dir ⟨by decide, by decide, by decide, by decide⟩

/-! ## Different names -/

theorem ne_of_last {left right : JsString} {leftUnit rightUnit : UInt16}
    (hleft : left.getLast? = some leftUnit) (hright : right.getLast? = some rightUnit)
    (hunits : leftUnit ≠ rightUnit) : left ≠ right := by
  rintro rfl
  exact hunits (Option.some.inj (hleft.symm.trans hright))

theorem last_recordName (slot : JsString) : (recordName slot).getLast? = some 110 := by
  rw [recordName, List.getLast?_append_of_ne_nil _ (by decide)]
  decide

theorem last_lockName (slot : JsString) : (lockName slot).getLast? = some 107 := by
  rw [lockName, List.getLast?_append_of_ne_nil _ (by decide)]
  decide

theorem last_tempName (pid : Nat) (slot : JsString) : (tempName pid slot).getLast? = some 112 := by
  rw [tempName, ← List.append_assoc, ← List.append_assoc,
    List.getLast?_append_of_ne_nil _ (by decide)]
  decide

theorem last_allow : slotsAllowFilename.getLast? = some 119 := by decide

variable {first second : JsString} {firstPid secondPid : Nat}

theorem recordName_inj : recordName first = recordName second ↔ first = second :=
  List.append_left_inj _

theorem lockName_inj : lockName first = lockName second ↔ first = second :=
  List.append_left_inj _

/-- The text up to the last dot. -/
def upToDot (text : JsString) : JsString := (text.reverse.dropWhile (· != 46)).reverse

theorem upToDot_append (front : JsString) {digits : JsString} (hdigits : (46 : UInt16) ∉ digits) :
    upToDot (front ++ 46 :: digits) = front ++ [46] := by
  have hall : ∀ unit ∈ digits.reverse, (unit != 46) = true := by
    intro unit hunit
    rw [bne_iff_ne]
    rintro rfl
    exact hdigits (List.mem_reverse.mp hunit)
  rw [upToDot, List.reverse_append, List.reverse_cons, List.append_assoc,
    List.dropWhile_append_of_pos hall]
  simp

/-- The process id is what stands between the last two dots. -/
theorem tempName_inj (hsame : tempName firstPid first = tempName secondPid second) :
    first = second := by
  have hdot : ∀ pid : Nat, (46 : UInt16) ∉ natText pid := fun pid hdot =>
    absurd (Json.isDigit_of_mem_natText pid 46 hdot) (by decide)
  have hname : ∀ (pid : Nat) (slot : JsString), tempName pid slot =
      (slot ++ leaseFileSuffix) ++ 46 :: natText pid ++ js ".tmp" := by
    intro pid slot
    simp [tempName, js, utf16]
  rw [hname, hname, List.append_left_inj] at hsame
  have hfront := congrArg upToDot hsame
  rw [upToDot_append _ (hdot _), upToDot_append _ (hdot _), List.append_left_inj,
    List.append_left_inj] at hfront
  exact hfront

/-- No name of a slot is one of another slot. -/
theorem slotNames_disjoint (hne : first ≠ second) {name : Segment}
    (hname : name ∈ slotNames firstPid first) : name ∉ slotNames secondPid second := by
  have hrecord := last_recordName
  have hlock := last_lockName
  have htemp := last_tempName
  simp only [slotNames, List.mem_cons, List.not_mem_nil, or_false, not_or] at hname ⊢
  rcases hname with rfl | rfl | rfl
  · exact ⟨fun hsame => hne (recordName_inj.mp hsame),
      ne_of_last (hrecord _) (hlock _) (by decide), ne_of_last (hrecord _) (htemp _ _) (by decide)⟩
  · exact ⟨ne_of_last (hlock _) (hrecord _) (by decide), fun hsame => hne (lockName_inj.mp hsame),
      ne_of_last (hlock _) (htemp _ _) (by decide)⟩
  · exact ⟨ne_of_last (htemp _ _) (hrecord _) (by decide),
      ne_of_last (htemp _ _) (hlock _) (by decide), fun hsame => hne (tempName_inj hsame)⟩

theorem slotNames_nodup (pid : Nat) (slot : JsString) : (slotNames pid slot).Nodup := by
  have hrecord := last_recordName slot
  have hlock := last_lockName slot
  have htemp := last_tempName pid slot
  simp only [slotNames, List.nodup_cons, List.mem_cons, List.not_mem_nil, or_false, not_or,
    not_false_eq_true, List.nodup_nil, and_true]
  exact ⟨⟨ne_of_last hrecord hlock (by decide), ne_of_last hrecord htemp (by decide)⟩,
    ne_of_last hlock htemp (by decide)⟩

theorem allow_not_mem_slotNames (pid : Nat) (slot : JsString) :
    slotsAllowFilename ∉ slotNames pid slot := by
  simp only [slotNames, List.mem_cons, List.not_mem_nil, or_false, not_or]
  exact ⟨ne_of_last last_allow (last_recordName slot) (by decide),
    ne_of_last last_allow (last_lockName slot) (by decide),
    ne_of_last last_allow (last_tempName pid slot) (by decide)⟩

/-- The names of two slots and of the allow-list are pairwise different. -/
theorem names_nodup (hne : first ≠ second) (firstPid secondPid : Nat) :
    (slotNames firstPid first ++ slotNames secondPid second ++ [slotsAllowFilename]).Nodup := by
  rw [List.nodup_append', List.nodup_append']
  refine ⟨⟨slotNames_nodup _ _, slotNames_nodup _ _, fun name hname => slotNames_disjoint hne hname⟩,
    List.nodup_singleton _, ?_⟩
  intro name hname hallow
  rw [List.mem_singleton.mp hallow, List.mem_append] at hname
  rcases hname with hname | hname
  · exact allow_not_mem_slotNames _ _ hname
  · exact allow_not_mem_slotNames _ _ hname

/-! ## What an operation asks -/

/-- The place of a name of one of the slots. -/
def IsOwn (place : Place) (pid : Nat) (slots : List JsString) (own : Place) : Prop :=
  ∃ slot ∈ slots, slotPattern slot = true ∧ ∃ name ∈ slotNames pid slot, own = name :: place

/-- Reading anything, making the directory, and changing what the slots own in it. -/
def MayAsk (place : Place) (pid : Nat) (slots : List JsString) : Ask → Prop
  | .sys (.existsSync _) => True
  | .sys (.readFileSync _) => True
  | .sys (.mkdirRecursive made) => made = place
  | .sys (.mkdirSync made) => IsOwn place pid slots made
  | .sys (.writeFileSync written _) => IsOwn place pid slots written
  | .sys (.renameSync source target) => IsOwn place pid slots source ∧ IsOwn place pid slots target
  | .sys (.rmdirSync removed) => IsOwn place pid slots removed
  | .clock => True
  | .locking lockDir question => Registry.LockAsks question ∧ IsOwn place pid slots lockDir

/-- A question leaves alone what has another name in the directory. -/
theorem storeAnswers_untouched {place : Place} {pid : Nat} {slots : List JsString} {question : Ask}
    (hmay : MayAsk place pid slots question) {tree after : Tree} {answer : AskAnswer question}
    (hanswer : storeAnswers tree question answer after) {name : Segment}
    (hname : ∀ slot ∈ slots, slotPattern slot = true → name ∉ slotNames pid slot) {within : Place}
    (hwithin : name :: place <:+ within) : after within = tree within := by
  have hown : ∀ own, IsOwn place pid slots own → ¬own <:+ within := by
    rintro own ⟨slot, hslot, hpattern, other, hother, rfl⟩ hbelow
    have hsame : name :: place = other :: place :=
      (List.suffix_of_suffix_length_le hwithin hbelow (by simp)).eq_of_length (by simp)
    rw [← (List.cons.inj hsame).1] at hother
    exact hname slot hslot hpattern hother
  have hself : ∀ own, IsOwn place pid slots own → within ≠ own := by
    rintro own howned rfl
    exact hown within howned List.suffix_rfl
  cases question with
  | sys call =>
      apply answers_untouched hanswer
      cases call with
      | existsSync | readFileSync => exact id
      | mkdirRecursive made =>
          have hmade : made = place := hmay
          intro habove
          have hlong := (hwithin.trans habove).length_le
          rw [hmade, List.length_cons] at hlong
          omega
      | mkdirSync made => exact hself made hmay
      | writeFileSync written text => exact hself written hmay
      | renameSync source target =>
          exact not_or.mpr ⟨hown source hmay.1, hown target hmay.2⟩
      | rmdirSync removed => exact hself removed hmay
  | clock => exact congrFun hanswer within
  | locking lockDir question =>
      obtain ⟨hlock, howned⟩ := hmay
      cases hlock with
      | makeLock =>
          exact @answers_untouched Registry.FsError _ _ (.mkdirSync lockDir) _ hanswer within
            (hself lockDir howned)
      | now | wait | random => exact congrFun hanswer within

section Asked

variable {may : Ask → Prop} {α Value : Type} {good : Value → Prop}

theorem yields_ask {question : Ask} (hmay : may question) :
    Yields may (fun _ => True) (ask question) :=
  yields_request hmay

theorem yields_orThrow (answer : Except Fault Value) :
    Yields may (fun _ => True) (orThrow answer) := by
  cases answer with
  | ok value => exact yields_pure trivial
  | error fault => exact yields_throw

theorem yields_orThrown {computed : Except Thrown (Answer α)} {good : Answer α → Prop}
    (hgood : ∀ answer, computed = .ok answer → good answer) :
    Yields may good (orThrown computed) := by
  cases computed with
  | ok answer => exact yields_pure (hgood answer rfl)
  | error thrown => exact yields_throw

theorem yields_tryFinally {body : Talk Value} {final : Talk Unit} (hbody : Yields may good body)
    (hfinal : Yields may (fun _ => True) final) : Yields may good (tryFinally body final) := by
  rw [Yields, Attains, tryFinally]
  change Ensures _ may _ (body.run >>= fun outcome => final.run >>= _) ()
  rw [ensures_bind]
  apply Ensures.mono hbody
  intro outcome _ hgood
  rw [ensures_bind]
  apply Ensures.mono hfinal
  intro finished _ _
  cases finished with
  | ok done => exact hgood
  | error halt => rintro value ⟨⟩

theorem yields_adapt {Stop : Type} {program : Program Ask AskAnswer (Except Stop Value)}
    (hasks : Asks may program) (halt : Stop → Halt) :
    Yields may (fun _ => True) (ExceptT.adapt halt (ExceptT.mk program)) := by
  apply Asks.yields
  exact hasks.bind fun outcome => trivial

theorem yields_clocked {body : JsNumber → LeaseRecord → Except Thrown (Answer α)}
    (hclock : may .clock) {record : LeaseRecord} {good : Answer α → Prop}
    (hgood : ∀ clock answer, body clock record = .ok answer → good answer) :
    Yields may good (clocked body record) :=
  (yields_ask hclock).bind fun clock _ => yields_orThrown (hgood clock)

end Asked

/-- What is written is of the slot that was read. -/
def SameSlot {α : Type} (record : LeaseRecord) (answer : Answer α) : Prop :=
  ∀ next, answer.2 = some next → next.slot = record.slot

theorem sameSlot_acquire {host : HostRuntime} {holder : JsString} {ttlSeconds clock : JsNumber}
    {options : LeaseOptions} {record : LeaseRecord} {answer : Answer AcquireResult}
    (hbody : acquireBody host slot holder ttlSeconds options clock record = .ok answer) :
    SameSlot record answer := by
  obtain ⟨result, written⟩ := answer
  rintro next rfl
  rcases acquireBody_cases hbody with ⟨_, _, _, -, hwritten, -⟩ | ⟨_, _, _, -, -, hwritten, -⟩ |
    ⟨_, -, -, -, hwritten, -⟩
  · cases hwritten
    rfl
  · cases hwritten
    rfl
  · cases hwritten

theorem sameSlot_any {host : HostRuntime} {phase : Phase} {holder : JsString}
    {ttlSeconds clock : JsNumber} {options : LeaseOptions} {record : LeaseRecord}
    {answer : Answer SlotTry}
    (hbody : anyBody host phase holder ttlSeconds options clock record = .ok answer) :
    SameSlot record answer := by
  obtain ⟨result, written⟩ := answer
  rintro next rfl
  cases phase with
  | own => cases (ownBody_cases hbody).1
  | grant =>
      rcases grantBody_cases hbody with ⟨_, _, -, hwritten, -⟩ | ⟨-, -, hwritten, -⟩ |
        ⟨-, -, -, hwritten, -⟩
      · cases hwritten
        rfl
      · cases hwritten
      · cases hwritten

theorem sameSlot_renew {host : HostRuntime} {holder : JsString} {token ttlSeconds clock : JsNumber}
    {options : LeaseOptions} {record : LeaseRecord} {answer : Answer LeaseRecord}
    (hbody : renewBody host slot holder token ttlSeconds options clock record = .ok answer) :
    SameSlot record answer := by
  obtain ⟨result, written⟩ := answer
  rintro next rfl
  obtain ⟨_, _, _, -, -, -, -, rfl⟩ := renewBody_write hbody
  rfl

theorem sameSlot_release {host : HostRuntime} {holder : JsString} {token : JsNumber}
    {record : LeaseRecord} {answer : Answer LeaseRecord}
    (hbody : releaseBody host slot holder token record = .ok answer) : SameSlot record answer := by
  obtain ⟨result, written⟩ := answer
  rintro next rfl
  obtain ⟨_, -, -, -, rfl⟩ := releaseBody_write hbody
  rfl

section Operations

variable (process : Process) (dir : JsString) (options : StoreOptions) (fuel : Nat)
variable (slots : List JsString)

/-- What an operation on some slots of a directory may ask. -/
abbrev mayAsk : Ask → Prop := MayAsk (process.place dir) process.pid slots

theorem allowFile_yields : Yields (mayAsk process dir slots) (fun _ => True)
    (allowFile process dir) := by
  apply (yields_ask (by exact trivial)).bind
  intro found _
  split
  · exact yields_pure trivial
  · apply (yields_ask (by exact trivial)).bind
    intro answer _
    cases answer <;> exact yields_pure trivial

theorem recordFile_yields (slot : JsString) : Yields (mayAsk process dir slots) (fun _ => True)
    (recordFile process dir slot) := by
  apply (yields_ask (by exact trivial)).bind
  intro found _
  split
  · exact yields_pure trivial
  · apply (yields_ask (by exact trivial)).bind
    intro answer _
    cases answer with
    | error fault => exact yields_pure trivial
    | ok text =>
        dsimp only
        split <;> exact yields_pure trivial

theorem leaseFiles_yields (slot : JsString) : Yields (mayAsk process dir slots) (fun _ => True)
    (leaseFiles process dir slot) := by
  rw [leaseFiles]
  split
  · exact yields_pure trivial
  · apply (allowFile_yields process dir slots).bind
    intro allow _
    split
    · exact yields_pure trivial
    · exact (recordFile_yields process dir slots slot).bind fun file _ => yields_pure trivial

theorem readLease_yields (slot : JsString) : Yields (mayAsk process dir slots)
    (fun reply => ∀ record, reply = .ok record → record.slot = slot)
    (readLease process dir slot) := by
  apply (leaseFiles_yields process dir slots slot).bind
  rintro ⟨allow, file⟩ -
  apply yields_pure
  exact fun record hread => storedRecord_slot (readLease_stored hread)

variable {slots} (hslot : slot ∈ slots) (hpattern : slotPattern slot = true)

include hslot hpattern

theorem isOwn_name {pid : Nat} {place : Place} {name : Segment} (hname : name ∈ slotNames pid slot) :
    IsOwn place pid slots (name :: place) :=
  ⟨slot, hslot, hpattern, name, hname, rfl⟩

theorem writeLease_yields {record : LeaseRecord} (hrecord : record.slot = slot) :
    Yields (mayAsk process dir slots) (fun _ => True) (writeLease process dir record) := by
  have htemp : IsOwn (process.place dir) process.pid slots
      (process.place (process.tempPath dir record.slot)) := by
    rw [hrecord, place_temp process dir hpattern]
    exact isOwn_name hslot hpattern (by simp [slotNames])
  have hfinal : IsOwn (process.place dir) process.pid slots
      (process.place (leasePath process.runtime dir record.slot)) := by
    rw [hrecord, place_record process dir hpattern]
    exact isOwn_name hslot hpattern (by simp [slotNames])
  apply (yields_ask (by exact htemp)).bind
  intro written _
  apply (yields_orThrow written).bind
  intro _ _
  apply (yields_ask (by exact ⟨htemp, hfinal⟩)).bind
  exact fun renamed _ => yields_orThrow renamed

theorem lockPath_own : IsOwn (process.place dir) process.pid slots
    (process.place (lockPath process.runtime dir slot)) := by
  rw [place_lock process dir hpattern]
  exact isOwn_name hslot hpattern (by simp [slotNames])

theorem acquireLock_yields : Yields (mayAsk process dir slots) (fun _ => True)
    (acquireLock options fuel (process.place (lockPath process.runtime dir slot))) := by
  have hown := lockPath_own process dir hslot hpattern
  have hlock := Registry.acquireRegistryLockBy_asks Registry.sleepSync_asks
    { maxLockAttempts := none, lockRetryMs := none, lockBudgetMs := options.lockBudgetMs } fuel
  apply yields_adapt
  apply hlock.translate
  exact fun question hquestion => ⟨⟨hquestion, hown⟩, fun _ _ _ => trivial⟩

theorem withSlotLock_yields {α : Type} {body : LeaseRecord → Talk (Answer α)}
    (hbody : ∀ record, Yields (mayAsk process dir slots) (SameSlot record) (body record)) :
    Yields (mayAsk process dir slots) (fun _ => True)
      (withSlotLock process dir options fuel slot body) := by
  have hown := lockPath_own process dir hslot hpattern
  apply (yields_ask (by exact rfl)).bind
  intro made _
  cases made with
  | error fault => exact yields_pure trivial
  | ok made =>
      apply (acquireLock_yields process dir options fuel hslot hpattern).bind
      intro acquisition _
      split
      · exact yields_pure trivial
      · apply yields_tryFinally
        · apply (readLease_yields process dir slots slot).bind
          intro reply hreply
          cases reply with
          | error reason => exact yields_pure trivial
          | ok record =>
              apply (hbody record).bind
              rintro ⟨result, written⟩ hwritten
              cases written with
              | none => exact yields_pure trivial
              | some next =>
                  have hnext := (hwritten next rfl).trans (hreply record rfl)
                  apply (writeLease_yields process dir hslot hpattern hnext).bind
                  exact fun _ _ => yields_pure trivial
        · apply (yields_ask (by exact hown)).bind
          exact fun removed _ => yields_orThrow removed

theorem withAllowedSlotLock_yields {α : Type} {body : LeaseRecord → Talk (Answer α)}
    (hbody : ∀ record, Yields (mayAsk process dir slots) (SameSlot record) (body record)) :
    Yields (mayAsk process dir slots) (fun _ => True)
      (withAllowedSlotLock process dir options fuel slot body) := by
  apply (allowFile_yields process dir slots).bind
  intro allow _
  split
  · exact yields_pure trivial
  · exact withSlotLock_yields process dir options fuel hslot hpattern hbody

omit hslot hpattern

theorem guarded_yields {α : Type} {check : LeaseResult Unit} {call : Talk (LeaseResult α)}
    (hcall : check = .ok () → Yields (mayAsk process dir slots) (fun _ => True) call) :
    Yields (mayAsk process dir slots) (fun _ => True) (guarded check call) := by
  cases check with
  | error reason => exact yields_pure trivial
  | ok passed => exact hcall rfl

theorem checkSlot_ok (hcheck : checkSlot slot = .ok ()) : slotPattern slot = true := by
  rw [checkSlot] at hcheck
  split at hcheck
  · cases hcheck
  · rename_i hpattern
    simpa using hpattern

theorem acquireLease_yields (holder : JsString) (ttlSeconds : JsNumber) :
    Yields (mayAsk process dir [slot]) (fun _ => True)
      (acquireLease process dir options fuel slot holder ttlSeconds) := by
  apply guarded_yields
  intro hcheck
  obtain ⟨_, hslot, -⟩ := Fallible.do_eq_ok.mp hcheck
  apply withAllowedSlotLock_yields process dir options fuel (List.mem_singleton_self slot)
    (checkSlot_ok hslot)
  exact fun record => yields_clocked trivial fun clock answer => sameSlot_acquire

theorem renewLease_yields (holder : JsString) (token ttlSeconds : JsNumber) :
    Yields (mayAsk process dir [slot]) (fun _ => True)
      (renewLease process dir options fuel slot holder token ttlSeconds) := by
  apply guarded_yields
  intro hcheck
  obtain ⟨_, hslot, -⟩ := Fallible.do_eq_ok.mp hcheck
  apply withAllowedSlotLock_yields process dir options fuel (List.mem_singleton_self slot)
    (checkSlot_ok hslot)
  exact fun record => yields_clocked trivial fun clock answer => sameSlot_renew

theorem releaseLease_yields (holder : JsString) (token : JsNumber) :
    Yields (mayAsk process dir [slot]) (fun _ => True)
      (releaseLease process dir options fuel slot holder token) := by
  apply guarded_yields
  intro hcheck
  apply withAllowedSlotLock_yields process dir options fuel (List.mem_singleton_self slot)
    (checkSlot_ok hcheck)
  exact fun record => yields_orThrown fun answer => sameSlot_release

theorem tryEach_yields (phase : Phase) (holder : JsString) (ttlSeconds : JsNumber)
    {visited : List JsString} (hvisited : ∀ slot ∈ visited, slot ∈ slots ∧ slotPattern slot = true)
    (held : List HeldSlot) :
    Yields (mayAsk process dir slots) (fun _ => True)
      (tryEach process dir options fuel phase holder ttlSeconds visited held) := by
  induction visited generalizing held with
  | nil => exact yields_pure trivial
  | cons slot rest ih =>
      obtain ⟨⟨hslot, hpattern⟩, hrest⟩ := List.forall_mem_cons.mp hvisited
      rw [tryEach]
      apply (withSlotLock_yields process dir options fuel hslot hpattern fun record =>
        yields_clocked (by exact trivial) fun clock answer => sameSlot_any).bind
      intro reply _
      rcases reply with reason | attempt
      · exact yields_pure trivial
      · cases attempt with
        | granted record acquired tookOver => exact yields_pure trivial
        | held other expiresAt => exact ih hrest _

theorem checkSlots_ok {slots : List JsString} (hcheck : checkSlots slots = .ok ()) :
    ∀ slot ∈ slots, slotPattern slot = true := by
  rw [checkSlots] at hcheck
  split at hcheck
  · cases hcheck
  · rename_i hall
    simpa using hall

theorem acquireAnyLease_yields (slots : List JsString) (holder : JsString)
    (ttlSeconds : JsNumber) :
    Yields (mayAsk process dir slots) (fun _ => True)
      (acquireAnyLease process dir options fuel slots holder ttlSeconds) := by
  apply guarded_yields
  intro hcheck
  have hslots : checkSlots slots = .ok () := by
    split at hcheck
    · cases hcheck
    · obtain ⟨_, hslots, -⟩ := Fallible.do_eq_ok.mp hcheck
      exact hslots
  have hvisited : ∀ slot ∈ slots, slot ∈ slots ∧ slotPattern slot = true :=
    fun slot hslot => ⟨hslot, checkSlots_ok hslots slot hslot⟩
  apply (allowFile_yields process dir slots).bind
  intro allow _
  split
  · exact yields_pure trivial
  · apply (tryEach_yields process dir options fuel .own holder ttlSeconds hvisited []).bind
    intro own _
    cases own with
    | error reply => exact yields_pure trivial
    | ok held =>
        apply (tryEach_yields process dir options fuel .grant holder ttlSeconds hvisited held).bind
        intro grant _
        cases grant <;> exact yields_pure trivial

theorem checkLease_yields (holder : JsString) (token : JsNumber) :
    Yields (mayAsk process dir slots) (fun _ => True)
      (checkLease process dir options slot holder token) := by
  apply (allowFile_yields process dir slots).bind
  intro allow _
  split
  · exact yields_pure trivial
  · apply (readLease_yields process dir slots slot).bind
    intro reply _
    cases reply with
    | error reason => exact yields_pure trivial
    | ok record =>
        dsimp only
        split
        · exact yields_pure trivial
        · apply (yields_ask (by exact trivial)).bind
          intro clock _
          split <;> exact yields_pure trivial

theorem leaseStatus_yields :
    Yields (mayAsk process dir slots) (fun _ => True) (leaseStatus process dir options slot) := by
  apply (allowFile_yields process dir slots).bind
  intro allow _
  split
  · exact yields_pure trivial
  · apply (readLease_yields process dir slots slot).bind
    intro reply _
    cases reply with
    | error reason => exact yields_pure trivial
    | ok record =>
        apply (yields_ask (by exact trivial)).bind
        exact fun clock _ => yields_pure trivial

theorem fenceAction_yields (token : JsNumber) :
    Yields (mayAsk process dir slots) (fun _ => True) (fenceAction process dir slot token) := by
  apply (allowFile_yields process dir slots).bind
  intro allow _
  split
  · exact yields_pure trivial
  · apply (leaseFiles_yields process dir slots slot).bind
    rintro ⟨inside, file⟩ -
    exact yields_pure trivial

end Operations

/-- Every operation asks about its own slots only. -/
theorem Call.talk_asks (call : Call) :
    Asks (MayAsk call.place call.process.pid call.operation.slots) call.talk.run := by
  obtain ⟨process, dir, options, fuel, operation⟩ := call
  have hmap : ∀ {Value : Type} {slots : List JsString} {talk : Talk Value} (reply : Value → Reply),
      Yields (mayAsk process dir slots) (fun _ => True) talk →
        Asks (mayAsk process dir slots) (reply <$> talk).run := by
    intro Value slots talk reply htalk
    exact htalk.asks.bind fun outcome => by cases outcome <;> trivial
  cases operation with
  | acquire => exact hmap _ (acquireLease_yields process dir options fuel _ _)
  | acquireAny => exact hmap _ (acquireAnyLease_yields process dir options fuel _ _ _)
  | renew => exact hmap _ (renewLease_yields process dir options fuel _ _ _)
  | release => exact hmap _ (releaseLease_yields process dir options fuel _ _)
  | check => exact hmap _ (checkLease_yields process dir options _ _)
  | status => exact hmap _ (leaseStatus_yields process dir options)
  | fence => exact hmap _ (fenceAction_yields process dir _)

/-! ## Whole runs -/

/-- The paths that a process uses for a slot. -/
def Process.slotPaths (process : Process) (dir slot : JsString) : List JsString :=
  [leasePath process.runtime dir slot, lockPath process.runtime dir slot,
    process.tempPath dir slot]

theorem places_eq (process : Process) (dir : JsString) (hslot : slotPattern slot = true) :
    (process.slotPaths dir slot).map process.place =
      (slotNames process.pid slot).map (· :: process.place dir) := by
  simp only [Process.slotPaths, slotNames, List.map_cons, List.map_nil,
    place_record process dir hslot, place_lock process dir hslot, place_temp process dir hslot]

/-- Two trees hold the same at a place and in it. -/
def SameAt (place : Place) (before after : Tree) : Prop :=
  ∀ within, place <:+ within → after within = before within

section Runs

variable {Caller : Type} [DecidableEq Caller] {calls : Caller → Call} {place : Place} {tree : Tree}

/-- The calls of several processes, before their first question. -/
def callsOn (calls : Caller → Call) (tree : Tree) :
    System Caller Tree Ask AskAnswer (Except Halt Reply) :=
  { world := tree, program := fun caller => (calls caller).talk.run }

variable {history : History Caller Ask AskAnswer}
variable {system : System Caller Tree Ask AskAnswer (Except Halt Reply)}

/-- In a run of any calls a step asks about the slots of its own call. -/
theorem step_mayAsk (hrun : Interleaved storeAnswers (callsOn calls tree) history system)
    {caller : Caller} {question : Ask}
    {next : AskAnswer question → Program Ask AskAnswer (Except Halt Reply)}
    (hprogram : system.program caller = .ask question next) :
    MayAsk (calls caller).place (calls caller).process.pid (calls caller).operation.slots
      question := by
  have hfollows := hrun.follows (fun caller => (calls caller).talk_asks.follows_may) caller
  rw [hprogram] at hfollows
  exact hfollows.1

/-- A name of the directory that none of the callers' slots has is left alone. -/
theorem run_sameAt (hrun : Interleaved storeAnswers (callsOn calls tree) history system)
    (hplace : ∀ caller, (calls caller).place = place) {name : Segment}
    (hname : ∀ caller, ∀ slot ∈ (calls caller).operation.slots, slotPattern slot = true →
      name ∉ slotNames (calls caller).process.pid slot) :
    SameAt (name :: place) tree system.world := by
  intro within hwithin
  induction hrun with
  | nil => rfl
  | @step history system caller question next answer after hbefore hprogram hanswer ih =>
      have hmay := step_mayAsk hbefore hprogram
      rw [hplace caller] at hmay
      exact (storeAnswers_untouched hmay hanswer (hname caller) hwithin).trans ih

end Runs

/-- Two slots of one directory have different places for their records, locks and temporary
files, directly inside it and beside the allow-list.  So, whoever else is at work, a step of
an operation changes the record and the lock only of slots that the operation names, no step
changes the allow-list, and neither do whole runs. -/
theorem slots_apart {first second : JsString} (hfirst : slotPattern first = true)
    (hsecond : slotPattern second = true) (hne : first ≠ second) {process other : Process}
    {dir otherDir : JsString} (hdir : other.place otherDir = process.place dir) :
    let places := (process.slotPaths dir first).map process.place ++
      (other.slotPaths otherDir second).map other.place ++ [process.place (process.allowPath dir)]
    let record := process.place (leasePath process.runtime dir first)
    let lock := process.place (lockPath process.runtime dir first)
    let allow := process.place (process.allowPath dir)
    places.Nodup ∧ (∀ place ∈ places, ∃ name, place = name :: process.place dir) ∧
      ∀ (Caller : Type) [DecidableEq Caller] (calls : Caller → Call) (tree : Tree)
        (history : History Caller Ask AskAnswer)
        (system : System Caller Tree Ask AskAnswer (Except Halt Reply)),
        (∀ caller, (calls caller).place = process.place dir) →
          Interleaved storeAnswers (callsOn calls tree) history system →
          (∀ caller question next (answer : AskAnswer question) after,
            system.program caller = .ask question next →
            storeAnswers system.world question answer after →
              (first ∉ (calls caller).operation.slots →
                SameAt record system.world after ∧ SameAt lock system.world after) ∧
              SameAt allow system.world after) ∧
          ((∀ caller, first ∉ (calls caller).operation.slots) →
            SameAt record tree system.world ∧ SameAt lock tree system.world) ∧
          SameAt allow tree system.world := by
  have hrecord := place_record process dir hfirst
  have hlock := place_lock process dir hfirst
  have hallow := place_allow process dir
  have hfirstPlaces := places_eq process dir hfirst
  have hsecondPlaces := places_eq other otherDir hsecond
  dsimp only
  rw [hrecord, hlock, hallow, hfirstPlaces, hsecondPlaces, hdir]
  have hplaces : (slotNames process.pid first).map (· :: process.place dir) ++
      (slotNames other.pid second).map (· :: process.place dir) ++
        [slotsAllowFilename :: process.place dir] =
      (slotNames process.pid first ++ slotNames other.pid second ++ [slotsAllowFilename]).map
        (· :: process.place dir) := by
    simp
  -- The names of a slot that an operation does not name are none of its names.
  have hforeign : ∀ (pid : Nat) (slots : List JsString), first ∉ slots →
      ∀ name ∈ slotNames process.pid first, ∀ slot ∈ slots, slotPattern slot = true →
        name ∉ slotNames pid slot := by
    intro pid slots hnot name hname slot hslot _
    have hother : first ≠ slot := by
      rintro rfl
      exact hnot hslot
    exact slotNames_disjoint hother hname
  have hrecordName : recordName first ∈ slotNames process.pid first := by simp [slotNames]
  have hlockName : lockName first ∈ slotNames process.pid first := by simp [slotNames]
  refine ⟨?_, ?_, ?_⟩
  · rw [hplaces]
    exact (names_nodup hne _ _).map fun name other hsame => (List.cons.inj hsame).1
  · rw [hplaces]
    intro place hmem
    obtain ⟨name, -, rfl⟩ := List.mem_map.mp hmem
    exact ⟨name, rfl⟩
  · intro Caller _ calls tree history system hplace hrun
    refine ⟨?_, ?_, ?_⟩
    · intro caller question next answer after hprogram hanswer
      have hmay := step_mayAsk hrun hprogram
      rw [hplace caller] at hmay
      refine ⟨fun hnot => ⟨?_, ?_⟩, ?_⟩
      · exact fun within => storeAnswers_untouched hmay hanswer (hforeign _ _ hnot _ hrecordName)
      · exact fun within => storeAnswers_untouched hmay hanswer (hforeign _ _ hnot _ hlockName)
      · exact fun within => storeAnswers_untouched hmay hanswer
          fun slot _ _ => allow_not_mem_slotNames _ slot
    · intro hnot
      exact ⟨run_sameAt hrun hplace fun caller => hforeign _ _ (hnot caller) _ hrecordName,
        run_sameAt hrun hplace fun caller => hforeign _ _ (hnot caller) _ hlockName⟩
    · exact run_sameAt hrun hplace fun caller slot _ _ => allow_not_mem_slotNames _ slot

/-- A process in the root directory. -/
def rootProcess (pid : Nat) : Process :=
  { host := plainHost, jsonFault := fun _ => [], pid, cwd := [] }

/-- An acquire of a slot whose name goes on where that of another one ends. -/
def nestedCall : Call :=
  { process := rootProcess 8
    dir := js "./leases"
    options := { skewMs := none, lockBudgetMs := none }
    fuel := 1
    operation := .acquire (js "sweep.lease.json") (js "worker") (.ofNat 60) }

theorem slots_apart_nested :
    (((rootProcess 7).slotPaths (js "leases") (js "sweep")).map (rootProcess 7).place ++
      ((rootProcess 8).slotPaths (js "./leases") (js "sweep.lease.json")).map
        (rootProcess 8).place ++
      [(rootProcess 7).place ((rootProcess 7).allowPath (js "leases"))]).Nodup ∧
    ∀ (tree : Tree) (history : History Unit Ask AskAnswer)
      (system : System Unit Tree Ask AskAnswer (Except Halt Reply)),
      Interleaved storeAnswers (callsOn (fun _ => nestedCall) tree) history system →
        SameAt ((rootProcess 7).place
          (leasePath (rootProcess 7).runtime (js "leases") (js "sweep"))) tree system.world := by
  have hapart := @slots_apart (js "sweep") (js "sweep.lease.json") (by decide) (by decide)
    (by decide) (rootProcess 7) (rootProcess 8) (js "leases") (js "./leases") (by decide)
  refine ⟨hapart.1, fun tree history system hrun => ?_⟩
  obtain ⟨-, hrecord, -⟩ := hapart.2.2 Unit (fun _ => nestedCall) tree history system
    (fun _ => by decide) hrun
  exact (hrecord fun _ => by decide).1

end OdinSentinel.Lease.Store
