import OdinSentinel.Lease.Contention

/-!
# One section under a slot's lock

What a call does behind the lock of a slot is one read-modify-write of the slot's record,
whatever the other calls do meanwhile.
-/

namespace OdinSentinel.Lease.Store

open JsText Host Dialogue FileTree PosixPath

theorem run_ask_bind {Value : Type} (question : Ask) (next : AskAnswer question → Talk Value) :
    (ask question >>= next).run = .ask question fun answer => (next answer).run := rfl

section Reading

variable (process : Process) (dir slot : JsString) (reads : JsNumber → Prop)

/-- How a slot's part answers the call that holds the slot's lock. -/
abbrev behindLock : Answers SlotPart Ask AskAnswer :=
  (slotGuards (process.place dir) reads).within slot

/-- What a call may ask without an effect on a slot. -/
abbrev mayRead : Ask → Prop := mayAsk process dir []

variable {process dir slot reads}

theorem behindLock_kept {part after : SlotPart} {question : Ask} {answer : AskAnswer question}
    (hmay : mayRead process dir question)
    (hanswer : behindLock process dir slot reads part question answer after) : after = part := by
  obtain ⟨before, later, hanswer, rfl, rfl⟩ := hanswer
  exact (slotGuards (process.place dir) reads).unchanged hanswer (spares_of_mayAsk_nil hmay slot).2

/-- The file as it stands, or a read that failed. -/
def Found (part : SlotPart) (file : LeaseFile) : Prop :=
  file = fileOf part.record ∨ ∃ message, file = .notJson message

variable (process dir)

theorem recordFile_attains (hpattern : slotPattern slot = true) (part : SlotPart) :
    Attains (behindLock process dir slot reads) (mayRead process dir)
      (fun outcome after => after = part ∧ ∀ file, outcome = .ok file → Found part file)
      (recordFile process dir slot) part := by
  have hplace := place_record process dir hpattern
  rw [recordFile, hplace]
  apply attains_request_bind.mpr
  refine ⟨trivial, fun found after hanswer => ?_⟩
  obtain rfl := behindLock_kept (by exact trivial) hanswer
  obtain ⟨before, later, ⟨-, hhonest, -⟩, hpart, -⟩ := hanswer
  cases found with
  | false =>
      have habsent : after.record = none := by
        rw [← hpart]
        exact hhonest rfl
      refine ⟨rfl, ?_⟩
      rintro _ ⟨⟩
      refine .inl ?_
      rw [habsent]
      rfl
  | true =>
      apply attains_request_bind.mpr
      refine ⟨trivial, fun answer next hanswer => ?_⟩
      obtain rfl := behindLock_kept (by exact trivial) hanswer
      obtain ⟨before, later, ⟨hread, -, -⟩, hpart, -⟩ := hanswer
      cases answer with
      | error fault =>
          refine ⟨rfl, ?_⟩
          rintro _ ⟨⟩
          exact .inr ⟨_, rfl⟩
      | ok text =>
          have hrecord : next.record = some (.file text) := by
            rw [← hpart]
            exact hread.1 text rfl
          dsimp only
          split
          · rename_i value hparse
            refine ⟨rfl, ?_⟩
            rintro _ ⟨⟩
            refine .inl ?_
            rw [hrecord, fileOf, hparse]
          · refine ⟨rfl, ?_⟩
            rintro _ ⟨⟩
            exact .inr ⟨_, rfl⟩

/-- What the reader of a slot returns comes from the slot's file, unless a read failed. -/
theorem readLease_attains (hpattern : slotPattern slot = true) (part : SlotPart) :
    Attains (behindLock process dir slot reads) (mayRead process dir)
      (fun outcome after => after = part ∧ ∀ reply, outcome = .ok reply →
        ∃ allow file, reply = Lease.readLease process.runtime dir slot allow file ∧
          (ensureSlotAllowed allow slot = .ok () → Found part file))
      (readLease process dir slot) part := by
  have hfiles : Attains (behindLock process dir slot reads) (mayRead process dir)
      (fun outcome after => after = part ∧ ∀ files, outcome = .ok files →
        (ensureSlotAllowed files.1 slot = .ok () → Found part files.2))
      (leaseFiles process dir slot) part := by
    rw [leaseFiles, if_neg (by simp [hpattern])]
    apply attains_bind.mpr
    refine Ensures.mono ((allowFile_yields process dir []).attains
      fun _ _ _ => behindLock_kept) fun outcome after hallow => ?_
    obtain ⟨rfl, -⟩ := hallow
    cases outcome with
    | error halt => exact ⟨rfl, by rintro _ ⟨⟩⟩
    | ok allow =>
        change Attains _ _ _ _ _
        dsimp only
        split
        · rename_i reason hrefused
          refine ⟨rfl, ?_⟩
          rintro _ ⟨⟩ hallowed
          cases hrefused.symm.trans hallowed
        · apply attains_bind.mpr
          refine Ensures.mono (recordFile_attains process dir hpattern after)
            fun outcome last hfound => ?_
          obtain ⟨rfl, hfound⟩ := hfound
          cases outcome with
          | error halt => exact ⟨rfl, by rintro _ ⟨⟩⟩
          | ok file =>
              refine ⟨rfl, ?_⟩
              rintro _ ⟨⟩ _
              exact hfound file rfl
  apply attains_bind.mpr
  refine Ensures.mono hfiles fun outcome after hfound => ?_
  obtain ⟨rfl, hfound⟩ := hfound
  cases outcome with
  | error halt => exact ⟨rfl, by rintro _ ⟨⟩⟩
  | ok files =>
      obtain ⟨allow, file⟩ := files
      refine ⟨rfl, ?_⟩
      rintro _ ⟨⟩
      exact ⟨allow, file, rfl, hfound _ rfl⟩

end Reading

/-! ## Writing -/

section Writing

variable {place : Place} {pid : Nat} {slot : JsString} {tree after : Tree}

theorem record_of_write {text : JsString} {answer : Except Fault Unit}
    (hanswer : storeAnswers tree (.sys (.writeFileSync (tempName pid slot :: place) text)) answer
      after) :
    (slotPart place after slot).record = (slotPart place tree slot).record := by
  have hne : recordName slot ≠ tempName pid slot :=
    ne_of_last (last_recordName slot) (last_tempName pid slot) (by decide)
  apply storeAnswers_unreached hanswer
  exact fun hsame => hne (List.cons.inj hsame).1

theorem temp_of_write {text : JsString}
    (hanswer : storeAnswers tree (.sys (.writeFileSync (tempName pid slot :: place) text)) (.ok ())
      after) :
    (slotPart place after slot).temp pid = some (.file text) := by
  have hwritten : after = tree.put (tempName pid slot :: place) (some (.file text)) := hanswer
  rw [hwritten]
  exact Function.update_self _ _ _

theorem record_of_rename
    (hanswer : storeAnswers tree (.sys (.renameSync (tempName pid slot :: place)
      (recordName slot :: place))) (.ok ()) after) :
    (slotPart place after slot).record = (slotPart place tree slot).temp pid := by
  have hmoved : after = tree.move (tempName pid slot :: place) (recordName slot :: place) :=
    hanswer.2
  rw [hmoved]
  change (if recordName slot :: place <:+ recordName slot :: place then _ else _) = _
  rw [if_pos List.suffix_rfl, Nat.sub_self, List.take_zero, List.nil_append]
  rfl

end Writing

/-! ## The section -/

/-- Nothing fails, and the allow-list was read twice. -/
def Surroundings.between (before inside : AllowFile) (clock : JsNumber) : Surroundings :=
  { Surroundings.calm clock with allowBefore := before, allowInside := inside }

theorem withSlotLock_between {α : Type} {host : HostRuntime} {dir slot : JsString}
    {before inside : AllowFile} {clock : JsNumber} {file : LeaseFile} {record : LeaseRecord}
    {body : LeaseRecord → Except Thrown (Answer α)} {result : LeaseResult α}
    {written : Option LeaseRecord}
    (hread : Lease.readLease host dir slot inside file = .ok record)
    (hbody : body record = .ok (result, written)) :
    Lease.withSlotLock host dir slot (Surroundings.between before inside clock) file body =
      (.ok result, (written.map fun next => LeaseFile.json next.toJson).getD file) := by
  simp only [Lease.withSlotLock, Surroundings.between, Surroundings.calm, hread, hbody]
  cases written <;> rfl

/-- A clock that the caller was told, or none where the file stays as it is. -/
def ClockOf (told : JsNumber → Prop) (clock : JsNumber) (file after : LeaseFile) : Prop :=
  told clock ∨ clock = .nan ∧ after = file

/-- What a call's moves allow at one slot: to leave the file as it is, and to do the locked
body of the record's operation, after which the call has come to `next`. -/
structure Admits {α Own : Type} (process : Process) (dir slot : JsString) (told : JsNumber → Prop)
    (bodyAt : JsNumber → LeaseRecord → Except Thrown (Answer α)) (allow : AllowFile)
    (moves : Moves Own JsString SlotPart) (own : Own)
    (next : Except Thrown (LeaseResult α) → Own) : Prop where
  stay : ∀ own part after, fileOf after.record = fileOf part.record → moves own slot part own after
  step : ∀ around part after reply, around.allowBefore = allow →
    ClockOf told around.clock (fileOf part.record) (fileOf after.record) →
    Lease.withSlotLock process.runtime dir slot around (fileOf part.record) (bodyAt around.clock) =
      (reply, fileOf after.record) →
    moves own slot part (next reply) after

/-- A talk that computes a body of the record's operation at some clock. -/
structure Computes {α : Type} (process : Process) (dir : JsString) (reads told : JsNumber → Prop)
    (bodyAt : JsNumber → LeaseRecord → Except Thrown (Answer α))
    (body : LeaseRecord → Talk (Answer α)) : Prop where
  comes : ∀ slot record part, Attains (behindLock process dir slot reads)
    (mayRead process dir) (fun outcome after => after = part ∧ ∀ answer, outcome = .ok answer →
      ∃ clock, told clock ∧ bodyAt clock record = .ok answer) (body record) part
  sameSlot : ∀ clock record answer, bodyAt clock record = .ok answer → SameSlot record answer
  respects : ∀ clock, Respects Fencing.Move (bodyAt clock)

/-- The refusal of a record that cannot be read as one. -/
def Corrupt {α : Type} (reply : LeaseResult α) : Prop :=
  ∃ reason, reply = .error reason ∧ reason.code = .lease_corrupt

/-- The reply is that of the call's one step, or it found no record to work on. -/
def Landed {α Own : Type} (own : Own) (next : Except Thrown (LeaseResult α) → Own) (now : Own)
    (reply : LeaseResult α) : Prop :=
  now = next (.ok reply) ∨ now = own ∧ Corrupt reply

theorem token_le_of_move {Holder : Type*} {before after : Fencing.Register Holder}
    (hmove : Fencing.Move before after) : after.token ≤ before.token + 1 := by
  cases hmove with
  | stay => exact Nat.le_succ _
  | grant => exact Nat.le_refl _
  | release => exact Nat.le_succ _

section Section

variable {α Own : Type} {process : Process} {dir slot : JsString}
variable {reads told : JsNumber → Prop}
variable {bodyAt : JsNumber → LeaseRecord → Except Thrown (Answer α)}
variable {body : LeaseRecord → Talk (Answer α)} {allow : AllowFile}
variable {moves : Moves Own JsString SlotPart} {own : Own}
variable {next : Except Thrown (LeaseResult α) → Own} {part : SlotPart}

omit process dir slot in
theorem not_below {place : Place} {name other : Segment} (hne : name ≠ other) :
    ¬(name :: place <:+ other :: place) :=
  fun hbelow => hne (List.cons.inj (hbelow.eq_of_length (by simp))).1

/-- Whatever one may ask about the slot spares the others. -/
theorem spares_others {question : Ask} (hmay : mayAsk process dir [slot] question)
    (other : JsString) (hother : other ≠ slot) :
    (slotGuards (process.place dir) reads).Spares question other :=
  spares_of_mayAsk hmay fun hmem => hother (List.mem_singleton.mp hmem)

theorem spares_all {question : Ask} (hmay : mayRead process dir question) (other : JsString) :
    (slotGuards (process.place dir) reads).Spares question other :=
  spares_of_mayAsk_nil hmay other

theorem isOwn_self (hpattern : slotPattern slot = true) {name : Segment}
    (hname : name ∈ slotNames process.pid slot) :
    IsOwn (process.place dir) process.pid [slot] (name :: process.place dir) :=
  isOwn_name (List.mem_singleton_self slot) hpattern hname

/-- The write lands with the rename, as the step that the body is. -/
theorem refines_writeLease (hpattern : slotPattern slot = true)
    (hadmits : Admits process dir slot told bodyAt allow moves own next)
    (hcomputes : Computes process dir reads told bodyAt body) {inside : AllowFile}
    {record written : LeaseRecord}
    {clock : JsNumber} (htold : told clock) {result : LeaseResult α}
    (hread : Lease.readLease process.runtime dir slot inside (fileOf part.record) = .ok record)
    (hbody : bodyAt clock record = .ok (result, some written)) :
    (slotGuards (process.place dir) reads).Refines moves
      (fun holding now outcome => (∃ part, holding = some (slot, part)) ∧
        (outcome = .ok () → now = next (.ok result)))
      (writeLease process dir written).run (some (slot, part)) own := by
  have hslot : written.slot = slot := by
    rw [hcomputes.sameSlot clock record _ hbody written rfl]
    exact storedRecord_slot (readLease_stored hread)
  have htemp : process.place (process.tempPath dir written.slot) =
      tempName process.pid slot :: process.place dir := by
    rw [hslot, place_temp process dir hpattern]
  have hrecord : process.place (leasePath process.runtime dir written.slot) =
      recordName slot :: process.place dir := by
    rw [hslot, place_record process dir hpattern]
  have howned : ∀ name ∈ slotNames process.pid slot,
      IsOwn (process.place dir) process.pid [slot] (name :: process.place dir) :=
    fun name hname => isOwn_self hpattern hname
  rw [writeLease, htemp, hrecord]
  apply Rested.of_now
  refine ⟨spares_others (howned _ (by simp [slotNames])),
    fun before answer after hanswer hpart => ?_⟩
  have hsame : fileOf ((slotGuards (process.place dir) reads).part after slot).record =
      fileOf part.record := by
    rw [← hpart]
    exact congrArg fileOf (record_of_write hanswer.1)
  refine ⟨own, hadmits.stay own part _ hsame, .inr ⟨?_, .of_now ?_⟩⟩
  · intro hfrees
    exact ne_of_last (last_lockName slot) (last_tempName process.pid slot) (by decide)
      (List.cons.inj hfrees).1
  cases answer with
  | error fault => exact ⟨⟨_, rfl⟩, by rintro ⟨⟩⟩
  | ok made =>
      refine ⟨spares_others ⟨howned _ (by simp [slotNames]), howned _ (by simp [slotNames])⟩,
        fun middle answer last hrenamed hmiddle => ?_⟩
      have hkeeps : ¬(slotGuards (process.place dir) reads).frees
          (.sys (.renameSync (tempName process.pid slot :: process.place dir)
            (recordName slot :: process.place dir))) slot :=
        not_or.mpr ⟨not_below (ne_of_last (last_tempName process.pid slot) (last_lockName slot)
          (by decide)), not_below (ne_of_last (last_recordName slot) (last_lockName slot) (by decide))⟩
      cases answer with
      | error fault =>
          have hkept : (slotGuards (process.place dir) reads).part last slot =
              (slotGuards (process.place dir) reads).part after slot := by
            rw [show last = middle from hrenamed.1, hmiddle]
          refine ⟨own, hadmits.stay own _ _ (by rw [hkept]), .inr ⟨hkeeps, .of_now ?_⟩⟩
          exact ⟨⟨_, rfl⟩, by rintro ⟨⟩⟩
      | ok moved =>
          have hroom : written.token < 2 ^ 53 := by
            have hroom := hrenamed.2.2 slot
            have hfile : fileOf (middle (recordName slot :: process.place dir)) =
                fileOf part.record := by
              rw [← hsame, ← hmiddle]
              rfl
            rw [hfile, readLease_register hread] at hroom
            have hle := token_le_of_move (hcomputes.respects clock record result written hbody)
            exact Nat.lt_of_le_of_lt hle hroom
          have hlanded : ((slotGuards (process.place dir) reads).part last slot).record =
              some (.file (recordText process.runtime written)) := by
            refine (record_of_rename hrenamed.1).trans ?_
            have htext := temp_of_write hanswer.1
            exact (congrArg (SlotPart.temp · process.pid) hmiddle).trans htext
          refine ⟨_, hadmits.step (Surroundings.between allow inside clock) _ _ (.ok result) rfl
            (.inl htold) ?_,
            .inr ⟨hkeeps, .of_now ⟨⟨_, rfl⟩, fun _ => rfl⟩⟩⟩
          rw [hsame, hlanded, fileOf_recordText _ hroom]
          exact withSlotLock_between hread hbody

/-- The lock is freed at the end, and with it all that was known of the slot. -/
theorem refines_tryFinally (hpattern : slotPattern slot = true)
    (hadmits : Admits process dir slot told bodyAt allow moves own next)
    {inner : Talk (LeaseResult α)}
    (hinner : (slotGuards (process.place dir) reads).Refines moves
      (fun holding now outcome => (∃ part, holding = some (slot, part)) ∧
        ∀ reply, outcome = .ok reply → Landed own next now reply)
      inner.run (some (slot, part)) own) :
    (slotGuards (process.place dir) reads).Refines moves
      (fun holding now outcome => ∀ reply, outcome = .ok reply →
        holding = none ∧ Landed own next now reply)
      (tryFinally inner
        (do orThrow (← ask (.sys (.rmdirSync (lockName slot :: process.place dir)))))).run
      (some (slot, part)) own := by
  apply Guards.Refines.bind hinner
  rintro _ now outcome ⟨⟨part, rfl⟩, hlanded⟩
  apply Rested.of_now
  have hown : IsOwn (process.place dir) process.pid [slot] (lockName slot :: process.place dir) :=
    isOwn_self hpattern (by simp [slotNames])
  refine ⟨spares_others hown, fun before answer after hanswer hpart => ?_⟩
  have hkept : (slotGuards (process.place dir) reads).part after slot = part := by
    rw [← hpart]
    apply (slotGuards (process.place dir) reads).unchanged hanswer
    refine not_or.mpr ⟨fun hsame => ?_, not_exists.mpr fun pid hsame => ?_⟩
    · exact ne_of_last (last_recordName slot) (last_lockName slot) (by decide)
        (List.cons.inj hsame).1
    · exact ne_of_last (last_tempName pid slot) (last_lockName slot) (by decide)
        (List.cons.inj hsame).1
  rw [hkept]
  refine ⟨now, hadmits.stay now part part rfl, .inl (.of_now ?_)⟩
  cases answer with
  | error fault => rintro _ ⟨⟩
  | ok freed =>
      rintro reply rfl
      exact ⟨rfl, hlanded reply rfl⟩

/-- A reply that comes without a write is one the record's operation gives. -/
theorem idles_of_reply (hadmits : Admits process dir slot told bodyAt allow moves own next)
    {around : Surroundings} {reply : LeaseResult α} (hallow : around.allowBefore = allow)
    (htold : told around.clock ∨ around.clock = .nan)
    (hreply : Lease.withSlotLock process.runtime dir slot around (fileOf part.record)
      (bodyAt around.clock) = (.ok reply, fileOf part.record)) :
    Idles moves (some (slot, part)) own (next (.ok reply)) :=
  hadmits.step around part part (.ok reply) hallow
    (htold.imp_right fun hclock => ⟨hclock, rfl⟩) hreply

theorem withSlotLock_refused {host : HostRuntime} {before inside : AllowFile} {clock : JsNumber}
    {file : LeaseFile} {reason : LeaseRefusal}
    {body : LeaseRecord → Except Thrown (Answer α)}
    (hread : Lease.readLease host dir slot inside file = .error reason) :
    Lease.withSlotLock host dir slot (Surroundings.between before inside clock) file body =
      (.ok (.error reason), file) := by
  simp only [Lease.withSlotLock, Surroundings.between, Surroundings.calm, hread]

/-- A slot that is allowed is refused only for its record. -/
theorem corrupt_of_readLease {host : HostRuntime} {inside : AllowFile} {file : LeaseFile}
    {reason : LeaseRefusal} (hpattern : slotPattern slot = true)
    (hallowed : ensureSlotAllowed inside slot = .ok ())
    (hread : Lease.readLease host dir slot inside file = .error reason) :
    reason.code = .lease_corrupt := by
  unfold Lease.readLease at hread
  rw [if_neg (by simp [hpattern]), hallowed] at hread
  simp only [bind, Except.bind] at hread
  cases file with
  | absent => cases hread
  | notJson message =>
      cases hread
      rfl
  | json value =>
      dsimp only at hread
      split at hread
      · cases hread
      · cases hread
        rfl

theorem readLease_not_allowed {host : HostRuntime} {inside : AllowFile} {reason : LeaseRefusal}
    (hpattern : slotPattern slot = true)
    (hrefused : ensureSlotAllowed inside slot = .error reason) (file : LeaseFile) :
    Lease.readLease host dir slot inside file = .error reason := by
  unfold Lease.readLease
  rw [if_neg (by simp [hpattern]), hrefused]
  rfl

theorem readLease_found {host : HostRuntime} {inside : AllowFile} {file : LeaseFile}
    {record : LeaseRecord} (hpattern : slotPattern slot = true)
    (hread : Lease.readLease host dir slot inside file = .ok record)
    (hfound : ensureSlotAllowed inside slot = .ok () → Found part file) :
    Lease.readLease host dir slot inside (fileOf part.record) = .ok record := by
  cases hallowed : ensureSlotAllowed inside slot with
  | error reason =>
      rw [readLease_not_allowed hpattern hallowed] at hread
      cases hread
  | ok allowed =>
      rcases hfound hallowed with rfl | ⟨message, rfl⟩
      · exact hread
      · have hcorrupt : ∃ reason, Lease.readLease host dir slot inside (.notJson message) =
            .error reason := by
          unfold Lease.readLease
          rw [if_neg (by simp [hpattern]), hallowed]
          exact ⟨_, rfl⟩
        obtain ⟨reason, hcorrupt⟩ := hcorrupt
        rw [hcorrupt] at hread
        cases hread

/-- What only looks leaves the part and the call's own state as they are. -/
theorem refines_quietly {Value : Type} {talk : Talk Value} {good : Except Halt Value → Prop}
    (hadmits : Admits process dir slot told bodyAt allow moves own next)
    (htalk : Attains (behindLock process dir slot reads) (mayRead process dir)
      (fun outcome after => after = part ∧ good outcome) talk part) :
    (slotGuards (process.place dir) reads).Refines moves
      (fun holding now outcome => holding = some (slot, part) ∧ now = own ∧ good outcome)
      talk.run (some (slot, part)) own := by
  have hrefines := Guards.Refines.of_ensures htalk
    (fun question hmay => ⟨(spares_all hmay slot).1, fun other _ => spares_all hmay other⟩)
    (fun part question answer after hmay hanswer => by
      rw [behindLock_kept hmay hanswer]
      exact hadmits.stay own part part rfl)
  apply hrefines.mono
  rintro _ _ outcome ⟨_, rfl, rfl, rfl, hgood⟩
  exact ⟨rfl, rfl, hgood⟩

/-- A call that cannot read its record is refused, and has left it as it is. -/
theorem refines_refused (hpattern : slotPattern slot = true)
    (hadmits : Admits process dir slot told bodyAt allow moves own next) {inside : AllowFile}
    {file : LeaseFile} {reason : LeaseRefusal}
    (hread : Lease.readLease process.runtime dir slot inside file = .error reason) :
    (slotGuards (process.place dir) reads).Refines moves
      (fun holding now outcome => (∃ part, holding = some (slot, part)) ∧
        ∀ reply, outcome = .ok reply → Landed own next now reply)
      (pure (.error reason) : Talk (LeaseResult α)).run (some (slot, part)) own := by
  cases hallowed : ensureSlotAllowed inside slot with
  | error refused =>
      have hhere : ∀ file, Lease.readLease process.runtime dir slot inside file = .error refused :=
        readLease_not_allowed hpattern hallowed
      obtain rfl : refused = reason := Except.error.inj ((hhere file).symm.trans hread)
      have hreply : Lease.withSlotLock process.runtime dir slot
          (Surroundings.between allow inside .nan) (fileOf part.record) (bodyAt .nan) =
            (.ok (.error refused), fileOf part.record) := withSlotLock_refused (hhere _)
      refine .idle (idles_of_reply hadmits rfl (.inr rfl) hreply) (.of_now ⟨⟨part, rfl⟩, ?_⟩)
      rintro _ ⟨⟩
      exact .inl rfl
  | ok allowed =>
      refine .of_now ⟨⟨part, rfl⟩, ?_⟩
      rintro _ ⟨⟩
      exact .inr ⟨rfl, reason, rfl, corrupt_of_readLease hpattern hallowed hread⟩

/-- Behind its lock a call does the body of the record's operation, or finds no record. -/
theorem refines_withSlotLock (options : StoreOptions) (fuel : Nat)
    (hpattern : slotPattern slot = true)
    (hadmits : Admits process dir slot told bodyAt allow moves own next)
    (hcomputes : Computes process dir reads told bodyAt body) :
    (slotGuards (process.place dir) reads).Refines moves
      (fun holding now outcome => ∀ reply, outcome = .ok reply →
        holding = none ∧ Landed own next now reply)
      (withSlotLock process dir options fuel slot body).run none own := by
  have hstay : ∀ part, moves own slot part own part := fun part => hadmits.stay own part part rfl
  rw [withSlotLock, place_lock process dir hpattern]
  apply Rested.of_now
  refine ⟨spares_all (by exact rfl), fun before made after _ => .inr ?_⟩
  cases made with
  | error fault =>
      refine .idle ⟨slot, fun part => hadmits.step
        { Surroundings.calm .nan with allowBefore := allow, dirFault := some fault.message }
        part part (.ok _) rfl (.inr ⟨rfl, rfl⟩) rfl⟩ (.of_now ?_)
      rintro _ ⟨⟩
      exact ⟨rfl, .inl rfl⟩
  | ok made =>
      apply (refines_acquireLock (process.place dir) reads slot options fuel hstay).andThen
      · rintro holding _ acquisition ⟨rfl, hacquired⟩
        obtain ⟨hgot, hmissed⟩ := hacquired acquisition rfl
        cases hlocked : acquisition.locked with
        | false =>
            rw [hmissed hlocked]
            refine .idle ⟨slot, fun part => hadmits.step
              { Surroundings.calm .nan with
                allowBefore := allow
                lockFault := some (acquisition.attempts, .ofInt acquisition.elapsedMs) }
              part part (.ok _) rfl (.inr ⟨rfl, rfl⟩) rfl⟩ (.of_now ?_)
            rintro _ ⟨⟩
            exact ⟨rfl, .inl rfl⟩
        | true =>
            obtain ⟨part, rfl⟩ := hgot hlocked
            apply refines_tryFinally hpattern hadmits
            apply (refines_quietly hadmits (readLease_attains process dir hpattern part)).andThen
            · rintro _ _ reply ⟨rfl, rfl, hreply⟩
              obtain ⟨inside, file, hreply, hfound⟩ := hreply reply rfl
              cases reply with
              | error reason => exact refines_refused hpattern hadmits hreply.symm
              | ok record =>
                  have hread := readLease_found hpattern hreply.symm hfound
                  apply (refines_quietly hadmits
                    (hcomputes.comes slot record part)).andThen
                  · rintro _ _ ⟨result, written⟩ ⟨rfl, rfl, hbody⟩
                    obtain ⟨clock, htold, hbody⟩ := hbody _ rfl
                    cases written with
                    | none =>
                        refine .idle (idles_of_reply hadmits rfl (.inl htold)
                          (withSlotLock_between hread hbody)) (.of_now ⟨⟨part, rfl⟩, ?_⟩)
                        rintro _ ⟨⟩
                        exact .inl rfl
                    | some written =>
                        apply (refines_writeLease hpattern hadmits hcomputes htold hread hbody).andThen
                        · rintro holding now _ ⟨hheld, hlanded⟩
                          refine .of_now ⟨hheld, ?_⟩
                          rintro _ ⟨⟩
                          exact .inl (hlanded rfl)
                        · rintro holding now halt ⟨hheld, -⟩
                          exact ⟨hheld, by rintro _ ⟨⟩⟩
                  · rintro _ now halt ⟨rfl, -, -⟩
                    exact ⟨⟨part, rfl⟩, by rintro _ ⟨⟩⟩
            · rintro _ now halt ⟨rfl, -, -⟩
              exact ⟨⟨part, rfl⟩, by rintro _ ⟨⟩⟩
      · rintro holding _ halt ⟨rfl, -⟩ _ ⟨⟩

end Section

end OdinSentinel.Lease.Store
