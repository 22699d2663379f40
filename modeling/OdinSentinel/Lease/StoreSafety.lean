import OdinSentinel.Lease.Atomicity
import OdinSentinel.Lease.StoreRefinement

/-!
# Fencing and exclusion in a directory

What a pool promises of its records holds of the record files of a directory and of the
replies of the calls on it, however the calls interleave.
-/

namespace OdinSentinel.Lease.Store

open JsText Host Fallible Dialogue Transition FileTree PosixPath Relation

/-! ## What a reply reports -/

/-- The record that a reply reports. -/
def Reply.reported : Reply → Option LeaseRecord
  | .acquire (.ok result) => some result.record
  | .acquireAny (.ok result) => some result.record
  | .record (.ok found) => some found
  | _ => none

theorem reported_of_refusal {reply : Reply} {reason : LeaseRefusal}
    (hrefusal : reply.refusal = some reason) : reply.reported = none := by
  cases reply with
  | acquire outcome => cases outcome <;> first | rfl | cases hrefusal
  | acquireAny outcome => cases outcome <;> first | rfl | cases hrefusal
  | record outcome => cases outcome <;> first | rfl | cases hrefusal
  | check outcome => rfl
  | status outcome => rfl
  | fence outcome => rfl

section Bodies

variable {α : Type} {host : HostRuntime} {dir slot holder : JsString}
variable {token ttlSeconds clock : JsNumber} {options : LeaseOptions}

/-- What an answer reports is the record that its slot is left with. -/
structure Reports (reports : α → LeaseRecord → Prop)
    (body : LeaseRecord → Except Thrown (Answer α)) : Prop where
  left : ∀ record value written reported, body record = .ok (.ok value, written) →
    reports value reported → reported = written.getD record
  sameSlot : ∀ record answer, body record = .ok answer → SameSlot record answer

theorem acquireBody_reports : Reports (fun result record => record = result.record)
    (acquireBody host slot holder ttlSeconds options clock) where
  left := by
    rintro record value written _ hbody rfl
    rw [(acquireBody_granted hbody).1]
    rfl
  sameSlot := fun _ _ => sameSlot_acquire

theorem anyBody_reports {phase : Phase} :
    Reports (fun attempt record => ∃ acquired tookOver, attempt = .granted record acquired tookOver)
      (anyBody host phase holder ttlSeconds options clock) where
  left := by
    rintro record _ written reported hbody ⟨acquired, tookOver, rfl⟩
    exact (anyBody_granted hbody).1
  sameSlot := fun _ _ => sameSlot_any

theorem renewBody_reports : Reports (fun result record => record = result)
    (renewBody host slot holder token ttlSeconds options clock) where
  left := by
    rintro record value written _ hbody rfl
    rw [renewBody] at hbody
    split at hbody
    · cases hbody
    · split at hbody
      · cases hbody
      · obtain ⟨_, -, hbody⟩ := do_eq_ok.mp hbody
        obtain ⟨_, -, hbody⟩ := do_eq_ok.mp hbody
        cases hbody
        rfl
  sameSlot := fun _ _ => sameSlot_renew

theorem releaseBody_reports : Reports (fun result record => record = result)
    (releaseBody host slot holder token) where
  left := by
    rintro record value written _ hbody rfl
    rw [releaseBody] at hbody
    split at hbody
    · cases hbody
    · cases hbody
      rfl
  sameSlot := fun _ _ => sameSlot_release

variable {reports : α → LeaseRecord → Prop} {body : LeaseRecord → Except Thrown (Answer α)}
variable {around : Surroundings} {file : LeaseFile} {value : α} {reported : LeaseRecord}

theorem withSlotLock_reports (hbody : Reports reports body)
    (hreply : (Lease.withSlotLock host dir slot around file body).1 = .ok (.ok value))
    (hreports : reports value reported) :
    reported.slot = slot ∧
      (Lease.withSlotLock host dir slot around file body).2.register = reported.register := by
  obtain ⟨record, written, hread, hvalue, hfile⟩ := withSlotLock_ok hreply
  have hslot := storedRecord_slot (readLease_stored hread)
  rw [hfile, hbody.left record value written reported hvalue hreports]
  cases written with
  | none => exact ⟨hslot, readLease_register hread⟩
  | some next =>
      exact ⟨(hbody.sameSlot record _ hvalue next rfl).trans hslot, register_toJson next⟩

theorem guarded_reports (hbody : Reports reports body) {check : LeaseResult Unit}
    (hreply : (Lease.guarded check file
      (Lease.withAllowedSlotLock host dir slot around file body)).1 = .ok (.ok value))
    (hreports : reports value reported) :
    reported.slot = slot ∧ (Lease.guarded check file
      (Lease.withAllowedSlotLock host dir slot around file body)).2.register =
        reported.register := by
  have hcall := guarded_ok hreply
  rw [hcall] at hreply ⊢
  exact withSlotLock_reports hbody hreply hreports

end Bodies

theorem map_eq_ok {Stop Value Next : Type} {outcome : Except Stop Value} {make : Value → Next}
    {result : Next} (hmap : outcome.map make = .ok result) :
    ∃ value, outcome = .ok value ∧ result = make value := by
  cases outcome with
  | error stop => cases hmap
  | ok value => exact ⟨value, rfl, (Except.ok.inj hmap).symm⟩

/-- The register behind a step is that of the record that its reply reports. -/
theorem register_of_reply {host : HostRuntime} {dir : JsString} {pool : Pool}
    {operation : Lease.Operation} {reply : Reply} {record : LeaseRecord}
    (hreply : replyOf host dir pool operation = some (.ok reply))
    (hreported : reply.reported = some record) :
    (next host dir pool operation).register record.slot = record.register := by
  cases operation with
  | acquire slot holder ttlSeconds options around =>
      obtain ⟨outcome, houtcome, rfl⟩ := map_eq_ok (Option.some.inj hreply)
      cases outcome with
      | error reason => cases hreported
      | ok result =>
          cases hreported
          obtain ⟨rfl, hregister⟩ := guarded_reports acquireBody_reports houtcome rfl
          rw [next, Pool.register, Pool.setFile_files_self]
          exact hregister
  | acquireAny call slots holder ttlSeconds options allow =>
      rw [replyOf] at hreply
      split at hreply
      · cases hreply
      · split at hreply
        · cases hreply
          cases hreported
        · cases hreply
  | visit call around =>
      rw [replyOf] at hreply
      split at hreply
      · cases hreply
      · rename_i visiting hvisiting
        split at hreply
        · rename_i outcome hfinished
          obtain ⟨outcome, rfl, rfl⟩ := map_eq_ok (Option.some.inj hreply)
          cases outcome with
          | error reason => cases hreported
          | ok result =>
              cases hreported
              have hlock := (AnyCall.visit_granted hfinished).2
              obtain ⟨hslot, hregister⟩ :=
                withSlotLock_reports anyBody_reports hlock ⟨_, _, rfl⟩
              simp only [next, hvisiting, Pool.register, Pool.setCall_files]
              rw [hslot, Pool.setFile_files_self, AnyCall.visit_file]
              exact hregister
        · cases hreply
  | renew slot holder token ttlSeconds options around =>
      obtain ⟨outcome, houtcome, rfl⟩ := map_eq_ok (Option.some.inj hreply)
      cases outcome with
      | error reason => cases hreported
      | ok result =>
          cases hreported
          obtain ⟨rfl, hregister⟩ := guarded_reports renewBody_reports houtcome rfl
          rw [next, Pool.register, Pool.setFile_files_self]
          exact hregister
  | release slot holder token around =>
      obtain ⟨outcome, houtcome, rfl⟩ := map_eq_ok (Option.some.inj hreply)
      cases outcome with
      | error reason => cases hreported
      | ok result =>
          cases hreported
          obtain ⟨rfl, hregister⟩ := guarded_reports releaseBody_reports houtcome rfl
          rw [next, Pool.register, Pool.setFile_files_self]
          exact hregister

/-! ## Fencing -/

section Served

variable {calls : Nat → Call} {reads : JsNumber → Prop} {place : Place} {tree : Tree}
variable {turns : List (Step Served Turn)} {served : Served}

/-- The registers that a slot goes through, newest first. -/
def registers (turns : List (Step Served Turn)) (served : Served) (slot : JsString) :
    List (Fencing.Register JsString) :=
  (visited turns served).map fun served => served.pool.register slot

theorem served_trace (hempty : ∀ slot, tree (recordName slot :: place) = none)
    (hrun : Run (serve calls) (Served.start place tree) turns served) (slot : JsString) :
    Fencing.Trace (registers turns served slot) := by
  induction hrun with
  | nil =>
      have hstart : (Served.start place tree).pool.register slot = Fencing.unheld :=
        congrArg (fun node => (fileOf node).register) (hempty slot)
      rw [registers, visited, List.map_cons, hstart]
      exact .start
  | step turn _ ih => exact ih.move (next_move _ _ slot)

/-- The register of a record that was reported is one of its slot's. -/
theorem reported_register
    (hrun : Run (serve calls) (Served.start place tree) turns served) {number : Nat}
    {reply : Reply} {record : LeaseRecord} (hreply : served.replies number = some (.ok reply))
    (hreported : reply.reported = some record) :
    record.register ∈ registers turns served record.slot := by
  induction hrun with
  | nil => cases hreply
  | @step turns served turn _ ih =>
      by_cases hnumber : number = turn.caller
      · subst hnumber
        simp only [serve, Function.update_self] at hreply
        rw [registers, visited, List.map_cons, ← register_of_reply hreply hreported]
        exact List.mem_cons_self
      · simp only [serve, Function.update_of_ne hnumber] at hreply
        exact List.mem_cons_of_mem _ (ih hreply)

end Served

section Directory

variable {calls : Nat → Call} {reads : JsNumber → Prop} {place : Place} {tree : Tree}
variable {history : History Nat Ask AskAnswer}
variable {system : System Nat Tree Ask AskAnswer (Except Halt Reply)}

/-- A call that has finished reported a record. -/
def Reported (calls : Nat → Call) (system : System Nat Tree Ask AskAnswer (Except Halt Reply))
    (number : Nat) (record : LeaseRecord) : Prop :=
  (calls number).operation.writes = true ∧ ∃ reply,
    system.program number = .done (.ok reply) ∧ reply.reported = some record

/-- The token and holder that stand in a directory for a slot. -/
def standing (place : Place) (tree : Tree) (slot : JsString) : Fencing.Register JsString :=
  (fileOf (tree (recordName slot :: place))).register

theorem reported_mem (hplace : ∀ number, (calls number).place = place)
    (hrun : Interleaved (soundAnswers place reads) (callsOn calls tree) history system) :
    ∃ turns served, Run (serve calls) (Served.start place tree) turns served ∧
      (∀ slot, served.pool.register slot = standing place system.world slot) ∧
      ∀ number record, Reported calls system number record →
        record.register ∈ registers turns served record.slot := by
  obtain ⟨turns, served, haccounts, hfiles, hreplies⟩ := store_refines_pool hplace hrun
  refine ⟨turns.flatten, served, haccounts.run, ?_, ?_⟩
  · exact fun slot => congrArg LeaseFile.register (hfiles slot)
  · rintro number record ⟨hwrites, reply, hdone, hreported⟩
    rcases hreplies number reply hwrites hdone with hreply | ⟨-, reason, hrefusal, -⟩
    · exact reported_register haccounts.run hreply hreported
    · rw [reported_of_refusal hrefusal] at hreported
      cases hreported

/-- In a directory that starts without records, two reports of one slot under one token
name one holder.  No report has a token above the slot's own, and whoever holds the slot
under the token of a report is its holder. -/
theorem store_tokens_fence (hplace : ∀ number, (calls number).place = place)
    (hempty : ∀ slot, tree (recordName slot :: place) = none)
    (hrun : Interleaved (soundAnswers place reads) (callsOn calls tree) history system) :
    (∀ first second one other, Reported calls system first one →
      Reported calls system second other → one.slot = other.slot → one.token = other.token →
        ∀ holder rival, one.holder = some holder → other.holder = some rival → holder = rival) ∧
    ∀ number record, Reported calls system number record →
      record.token ≤ (standing place system.world record.slot).token ∧
      ∀ holder rival, record.holder = some holder →
        1 ≤ record.token ∧
          (standing place system.world record.slot = ⟨record.token, some rival⟩ →
            holder = rival) := by
  obtain ⟨turns, served, hserved, hstanding, hreported⟩ := reported_mem hplace hrun
  have htrace := fun slot => served_trace hempty hserved slot
  have hone : ∀ slot token holder rival,
      (⟨token, some holder⟩ : Fencing.Register JsString) ∈ registers turns served slot →
      (⟨token, some rival⟩ : Fencing.Register JsString) ∈ registers turns served slot →
        1 ≤ token ∧ holder = rival := by
    intro slot token holder rival hholder hrival
    have hlow : 1 ≤ token := by
      by_contra hzero
      obtain rfl : token = 0 := by omega
      exact (htrace slot).holder_unique.2 holder hholder
    exact ⟨hlow, ((htrace slot).holder_unique.1 token hlow
      ((htrace slot).token_le _ hholder)).unique hholder hrival⟩
  have hheld : ∀ {number record holder}, Reported calls system number record →
      record.holder = some holder →
        (⟨record.token, some holder⟩ : Fencing.Register JsString) ∈
          registers turns served record.slot := by
    intro number record holder hreport hholder
    rw [← hholder]
    exact hreported number record hreport
  refine ⟨?_, ?_⟩
  · intro first second one other hfirst hsecond hslot htoken holder rival hholder hrival
    have hother := hheld hsecond hrival
    rw [← hslot, ← htoken] at hother
    exact (hone one.slot one.token holder rival (hheld hfirst hholder) hother).2
  · intro number record hreport
    rw [← hstanding]
    refine ⟨(htrace record.slot).token_le _ (hreported number record hreport), ?_⟩
    intro holder rival hholder
    have hhere := hheld hreport hholder
    refine ⟨(hone record.slot record.token holder holder hhere hhere).1, fun hnow => ?_⟩
    refine (hone record.slot record.token holder rival hhere ?_).2
    rw [← hnow]
    exact List.mem_cons_self

/-! ## Exclusion -/

/-- The holder that a call acts for. -/
def Operation.holder : Operation → Option JsString
  | .acquire _ holder _ => some holder
  | .acquireAny _ holder _ => some holder
  | .renew _ holder _ _ => some holder
  | .release _ holder _ => some holder
  | .check _ holder _ => some holder
  | .status _ => none
  | .fence _ _ => none

/-- A call in progress acts for the holder of its call, with its options. -/
def Stage.Of (call : Call) : Stage → Prop
  | .visiting current => call.operation.holder = some current.holder ∧
      current.options = call.options.toLeaseOptions
  | _ => True

theorem advance_of {call : Call} {current : AnyCall} (held : List HeldSlot)
    (hof : Stage.Of call (.visiting current)) :
    Stage.Of call (.ofProgress (current.advance held)) := by
  unfold AnyCall.advance
  split
  · exact hof
  · exact hof
  · trivial

theorem acts_of {call : Call} {stage after : Stage} {slot : JsString} {file next : LeaseFile}
    (hacts : Acts call reads stage slot file after next) (hof : stage.Of call) : after.Of call := by
  cases hacts with
  | stay => exact hof
  | acquire | renew | release | refuse => trivial
  | start hoperation allow hstep =>
      obtain ⟨first, others, -, rfl⟩ := acquireAnyLease_ok hstep
      refine ⟨?_, rfl⟩
      rw [hoperation]
      rfl
  | visit current around hclock hstep =>
      rw [visit_eq] at hstep
      cases hstep
      generalize (Lease.withSlotLock _ _ _ _ _ _).1 = reply
      rcases reply with thrown | reason | attempt
      · trivial
      · trivial
      · cases attempt with
        | granted => trivial
        | held other expiresAt => exact advance_of _ hof

/-- Every caller's stage is one of its own call. -/
def OwnStages (calls : Nat → Call) (outline : Outline Nat JsString SlotPart Stage) : Prop :=
  ∀ number, (outline.own number).Of (calls number)

variable {caller : Nat} {first outline after : Outline Nat JsString SlotPart Stage}

theorem movesTo_of (hmove : MovesTo (fun number => storeMoves (calls number) reads) caller outline
    after) (hown : OwnStages calls outline) : OwnStages calls after := by
  cases hmove with
  | move hacts =>
      intro number
      by_cases hnumber : number = caller
      · subst hnumber
        rw [Outline.moved_own_self]
        exact acts_of hacts (hown number)
      · rw [Outline.moved_own_of_ne _ hnumber]
        exact hown number

theorem mirrors_of (hmirrors : Mirrors (fun number => storeMoves (calls number) reads) first
    history outline) (hown : OwnStages calls first) : OwnStages calls outline := by
  induction hmirrors with
  | nil => exact hown
  | step exchange _ hmoves ih =>
      induction hmoves with
      | refl => exact ih
      | tail _ hmove hbefore => exact movesTo_of hmove hbefore

/-- A call may write over a record that is free, that is its holder's own, or whose lease has
run out at a reading of the clock, the call's skew allowed for. -/
def MayOverwrite (call : Call) (reads : JsNumber → Prop) (record : LeaseRecord) : Prop :=
  ∀ tenure, record.tenure = some tenure → call.operation.holder = some tenure.holder ∨
    ∃ clock, reads clock ∧ isExpired call.process.runtime record clock
      (skewMs call.options.toLeaseOptions) = true

/-- The outline as a pool with its replies. -/
def Served.ofOutline (outline : Outline Nat JsString SlotPart Stage) : Served where
  pool :=
    { files := fun slot => fileOf (outline.parts slot).record
      calls := fun number => (outline.own number).call }
  replies := fun number => (outline.own number).reply

theorem visiting_of_call {stage : Stage} {current : AnyCall} (hcall : stage.call = some current) :
    stage = .visiting current := by
  cases stage with
  | visiting call => rw [Option.some.inj hcall]
  | pending | decided => cases hcall

theorem mayOverwrite_of_entitled {served : Served} {operation : Lease.Operation}
    {record : LeaseRecord} {next : Pool}
    (hisOf : Turn.IsOf ⟨caller, operation⟩ (calls caller))
    (hcall : ∀ current, served.pool.calls caller = some current →
      Stage.Of (calls caller) (.visiting current))
    (htimely : OnTime reads served.pool next operation) (hchanged : next.files ≠ served.pool.files)
    (hentitled : Entitled (calls caller).process.runtime served.pool operation record) :
    MayOverwrite (calls caller) reads record := by
  intro tenure htenure
  have hread : ∀ clock, clockSeen operation = some clock → reads clock :=
    fun clock hseen => (htimely clock hseen).resolve_right hchanged
  rcases hentitled tenure htenure with hcaller | ⟨clock, skew, hclock, hskew, hexpired⟩
  · left
    cases operation with
    | acquire slot holder ttlSeconds options around =>
        rw [hisOf.1]
        exact hcaller
    | acquireAny number slots holder ttlSeconds options allow =>
        rw [hisOf.2.1]
        exact hcaller
    | visit number around =>
        obtain rfl : number = caller := hisOf
        obtain ⟨current, hcurrent, hholder⟩ := Option.map_eq_some_iff.mp hcaller
        rw [(hcall current hcurrent).1, hholder]
    | renew slot holder token ttlSeconds options around =>
        rw [hisOf.1]
        exact hcaller
    | release slot holder token around =>
        rw [show (calls caller).operation = _ from hisOf]
        exact hcaller
  · right
    refine ⟨clock, ?_⟩
    cases operation with
    | acquire slot holder ttlSeconds options around =>
        cases hskew
        rw [← hisOf.2]
        exact ⟨hread clock hclock, hexpired⟩
    | acquireAny => cases hskew
    | visit number around =>
        obtain rfl : number = caller := hisOf
        obtain ⟨current, hcurrent, rfl⟩ := Option.map_eq_some_iff.mp hskew
        rw [← (hcall current hcurrent).2]
        exact ⟨hread clock hclock, hexpired⟩
    | renew slot holder token ttlSeconds options around =>
        cases hskew
        rw [← hisOf.2]
        exact ⟨hread clock hclock, hexpired⟩
    | release => cases hskew

/-- A record that a move changes is one that its caller may write over. -/
theorem movesTo_entitled (hown : OwnStages calls outline)
    (hmove : MovesTo (fun number => storeMoves (calls number) reads) caller outline after)
    {slot : JsString}
    (hchanged : fileOf (after.parts slot).record ≠ fileOf (outline.parts slot).record) :
    ∃ record, storedRecord (calls caller).process.runtime slot (fileOf (outline.parts slot).record) =
      some record ∧ MayOverwrite (calls caller) reads record := by
  cases hmove with
  | @move target stage part hacts =>
      have hturn := @turn_of_acts calls reads caller (Served.ofOutline outline) _ _ _ _ hacts rfl
      rcases hturn with ⟨-, hfile⟩ | ⟨operation, hisOf, -, htimely, hserve⟩
      · by_cases hslot : slot = target
        · subst hslot
          rw [Outline.moved_parts_self] at hchanged
          exact absurd hfile hchanged
        · rw [Outline.moved_parts_of_ne _ _ hslot] at hchanged
          exact absurd rfl hchanged
      · have hwritten : (next (calls caller).process.runtime (calls caller).dir
            (Served.ofOutline outline).pool operation).files slot ≠
              (Served.ofOutline outline).pool.files slot := by
          have hpool := congrArg (fun served => served.pool.files slot) hserve
          rw [show (next _ _ _ operation).files slot = _ from hpool]
          by_cases hslot : slot = target
          · subst hslot
            simpa [Served.ofOutline] using hchanged
          · rw [Outline.moved_parts_of_ne _ _ hslot] at hchanged
            exact absurd rfl hchanged
        obtain ⟨record, hstored, hentitled⟩ := entitled_of_written hwritten
        refine ⟨record, hstored, mayOverwrite_of_entitled hisOf ?_ htimely ?_ hentitled⟩
        · intro current hcurrent
          rw [← visiting_of_call hcurrent]
          exact hown caller
        · exact fun hsame => hwritten (congrFun hsame slot)

theorem moves_entitled (hown : OwnStages calls outline)
    (hmoves : ReflTransGen (MovesTo (fun number => storeMoves (calls number) reads) caller)
      outline after) {slot : JsString}
    (hchanged : fileOf (after.parts slot).record ≠ fileOf (outline.parts slot).record) :
    ∃ record, storedRecord (calls caller).process.runtime slot (fileOf (outline.parts slot).record) =
      some record ∧ MayOverwrite (calls caller) reads record := by
  induction hmoves using ReflTransGen.head_induction_on with
  | refl => exact absurd rfl hchanged
  | @head before middle hmove _ ih =>
      -- The first move that changes the file finds it as it was.
      by_cases hsame : fileOf (middle.parts slot).record = fileOf (before.parts slot).record
      · rw [← hsame] at hchanged ⊢
        exact ih (movesTo_of hmove hown) hchanged
      · exact movesTo_entitled hown hmove hsame

/-- In every interleaving, what stands for a slot is written over only by a call that may:
of the holder that stands there, or when no lease of another runs at a reading of the clock. -/
theorem store_excludes (hplace : ∀ number, (calls number).place = place)
    (hrun : Interleaved (soundAnswers place reads) (callsOn calls tree) history system)
    {question : Ask} {rest : AskAnswer question → Program Ask AskAnswer (Except Halt Reply)}
    (hprogram : system.program caller = .ask question rest) {answer : AskAnswer question}
    {later : Tree} (hanswer : soundAnswers place reads system.world question answer later)
    {slot : JsString} (hchanged : fileOf (later (recordName slot :: place)) ≠
      fileOf (system.world (recordName slot :: place))) :
    ∃ record, storedRecord (calls caller).process.runtime slot
        (fileOf (system.world (recordName slot :: place))) = some record ∧
      MayOverwrite (calls caller) reads record := by
  have hready : ∀ number, (slotGuards place reads).Ready (storeMoves (calls number) reads)
      (Finished (calls number)) ((callsOn calls tree).program number) none .pending :=
    fun number => hplace number ▸ (calls number).ready reads
  obtain ⟨outline, holding, hmirrors, hguarding⟩ := hrun.mirrors (Guarding.start hready)
  obtain ⟨last, _, hmoves, hlast⟩ := hguarding.step hprogram hanswer
  have hown : OwnStages calls outline := mirrors_of hmirrors fun _ => trivial
  have hparts : ∀ slot, fileOf (outline.parts slot).record =
      fileOf (system.world (recordName slot :: place)) := by
    intro slot
    rw [hguarding.parts]
    rfl
  rw [← hparts]
  apply moves_entitled hown hmoves
  rw [hlast.parts, hparts]
  exact hchanged

end Directory

/-! ## The run of two calls -/

theorem store_tokens_fence_nested : ∃ system : System Nat Tree Ask AskAnswer (Except Halt Reply),
    Reported (fun _ => nestedCall) system 0 nestedRecord ∧
      1 ≤ (standing leasesPlace system.world nestedSlot).token := by
  have hplace : nestedCall.place = leasesPlace := by decide
  obtain ⟨history, system, hrun, hdone⟩ := @nested_run (· = .ofNat 0) rfl
  have hreported : Reported (fun _ => nestedCall) system 0 nestedRecord :=
    ⟨rfl, nestedReply, hdone, rfl⟩
  obtain ⟨-, hfence⟩ := store_tokens_fence (fun _ => hplace) (fun _ => rfl) hrun
  exact ⟨system, hreported, (hfence 0 nestedRecord hreported).1⟩

theorem store_excludes_nested :
    ∃ record, storedRecord nestedCall.process.runtime nestedSlot (fileOf (nestedWritten nestedPath)) =
      some record ∧ MayOverwrite nestedCall (· = .ofNat 0) record := by
  have hplace : nestedCall.place = leasesPlace := by decide
  obtain ⟨history, system, moved, freed, hrun, hworld, hmoved, -⟩ :=
    @nested_writes (· = .ofNat 0) rfl
  have hanswer := nested_renames (· = .ofNat 0)
  rw [← hworld] at hanswer ⊢
  refine store_excludes (fun _ => hplace) hrun hmoved hanswer ?_
  change fileOf (nestedMoved nestedPath) ≠ fileOf (system.world nestedPath)
  rw [hworld, nestedMoved_path, nestedText, fileOf_recordText _ (by decide),
    show nestedWritten nestedPath = none from nestedWritten_none nestedSlot]
  rintro ⟨⟩

end OdinSentinel.Lease.Store
