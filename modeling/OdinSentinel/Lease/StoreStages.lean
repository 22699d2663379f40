import OdinSentinel.Lease.LockedSection

/-!
# The stages of a call

How far a call has come, and the steps of the record's operations that lead it on.  Every
call of the store goes through these stages only, and replies what its stage says.
-/

namespace OdinSentinel.Lease.Store

open JsText Host Fallible Dialogue FileTree PosixPath

/-! ## Stages -/

inductive Stage
  | pending
  | visiting (call : AnyCall)
  | decided (reply : Except Thrown Reply)

def Stage.ofProgress : Progress → Stage
  | .finished reply => .decided (reply.map .acquireAny)
  | .visiting call => .visiting call

/-- What a call does with the reply of the locked body of a visit. -/
def proceed (call : AnyCall) : Except Thrown (LeaseResult SlotTry) → Progress
  | .error thrown => .finished (.error thrown)
  | .ok (.error reason) => .finished (.ok (.error reason))
  | .ok (.ok (.granted record acquired tookOver)) =>
      .finished (.ok (.ok { slot := call.current, record, acquired, tookOver, held := call.held }))
  | .ok (.ok (.held holder expiresAt)) =>
      call.advance (noteHeld call.held call.current holder expiresAt)

theorem visit_eq (host : HostRuntime) (dir : JsString) (call : AnyCall) (around : Surroundings)
    (file : LeaseFile) :
    call.visit host dir around file =
      (proceed call (Lease.withSlotLock host dir call.current around file
        (anyBody host call.phase call.holder call.ttlSeconds call.options around.clock)).1,
       (Lease.withSlotLock host dir call.current around file
        (anyBody host call.phase call.holder call.ttlSeconds call.options around.clock)).2) := by
  rw [AnyCall.visit]
  split <;> simp [proceed, *]

/-- The steps of a call on the file of a slot. -/
inductive Acts (call : Call) (reads : JsNumber → Prop) :
    Stage → JsString → LeaseFile → Stage → LeaseFile → Prop
  | stay (stage : Stage) (slot : JsString) (file : LeaseFile) :
      Acts call reads stage slot file stage file
  | acquire {slot holder : JsString} {ttlSeconds : JsNumber}
      (hcall : call.operation = .acquire slot holder ttlSeconds) (around : Surroundings)
      {file after : LeaseFile} {reply : Except Thrown (LeaseResult AcquireResult)}
      (hclock : ClockOf reads around.clock file after)
      (hstep : Lease.acquireLease call.process.runtime call.dir slot holder ttlSeconds
        call.options.toLeaseOptions around file = (reply, after)) :
      Acts call reads .pending slot file (.decided (reply.map .acquire)) after
  | renew {slot holder : JsString} {token ttlSeconds : JsNumber}
      (hcall : call.operation = .renew slot holder token ttlSeconds) (around : Surroundings)
      {file after : LeaseFile} {reply : Except Thrown (LeaseResult LeaseRecord)}
      (hclock : ClockOf reads around.clock file after)
      (hstep : Lease.renewLease call.process.runtime call.dir slot holder token ttlSeconds
        call.options.toLeaseOptions around file = (reply, after)) :
      Acts call reads .pending slot file (.decided (reply.map .record)) after
  | release {slot holder : JsString} {token : JsNumber}
      (hcall : call.operation = .release slot holder token) (around : Surroundings)
      {file after : LeaseFile} {reply : Except Thrown (LeaseResult LeaseRecord)}
      (hstep : Lease.releaseLease call.process.runtime call.dir slot holder token around file =
        (reply, after)) :
      Acts call reads .pending slot file (.decided (reply.map .record)) after
  | start {slots : List JsString} {holder : JsString} {ttlSeconds : JsNumber}
      (hcall : call.operation = .acquireAny slots holder ttlSeconds) (allow : AllowFile)
      {started : AnyCall}
      (hstep : Lease.acquireAnyLease call.process.runtime slots holder ttlSeconds
        call.options.toLeaseOptions allow = .ok started) (slot : JsString) (file : LeaseFile) :
      Acts call reads .pending slot file (.visiting started) file
  | refuse {slots : List JsString} {holder : JsString} {ttlSeconds : JsNumber}
      (hcall : call.operation = .acquireAny slots holder ttlSeconds) (allow : AllowFile)
      {reason : LeaseRefusal}
      (hstep : Lease.acquireAnyLease call.process.runtime slots holder ttlSeconds
        call.options.toLeaseOptions allow = .error reason) (slot : JsString) (file : LeaseFile) :
      Acts call reads .pending slot file (.decided (.ok (.acquireAny (.error reason)))) file
  | visit (visiting : AnyCall) (around : Surroundings) {file after : LeaseFile}
      {progress : Progress} (hclock : ClockOf reads around.clock file after)
      (hstep : visiting.visit call.process.runtime call.dir around file = (progress, after)) :
      Acts call reads (.visiting visiting) visiting.current file (.ofProgress progress) after

/-- The steps of a call on the part of a slot. -/
def storeMoves (call : Call) (reads : JsNumber → Prop) : Moves Stage JsString SlotPart :=
  fun stage slot part next after =>
    Acts call reads stage slot (fileOf part.record) next (fileOf after.record)

theorem storeMoves_stay {call : Call} {reads : JsNumber → Prop} (stage : Stage) {slot : JsString}
    {part after : SlotPart} (hsame : fileOf after.record = fileOf part.record) :
    storeMoves call reads stage slot part stage after := by
  rw [storeMoves, hsame]
  exact .stay stage slot _

/-! ## Replies -/

def Reply.refusal : Reply → Option LeaseRefusal
  | .acquire (.error reason) => some reason
  | .acquireAny (.error reason) => some reason
  | .record (.error reason) => some reason
  | .check (.error reason) => some reason
  | .status (.error reason) => some reason
  | .fence (.error reason) => some reason
  | _ => none

/-- Whether an operation can write. -/
def Operation.writes : Operation → Bool
  | .acquire _ _ _ => true
  | .acquireAny _ _ _ => true
  | .renew _ _ _ _ => true
  | .release _ _ _ => true
  | .check _ _ _ => false
  | .status _ => false
  | .fence _ _ => false

/-- What the arguments of a call are refused for before it asks anything. -/
def Call.check (call : Call) : LeaseResult Unit :=
  match call.operation with
  | .acquire slot holder ttlSeconds => do
      checkSlot slot
      checkHolder holder
      checkTtl call.process.runtime ttlSeconds
  | .acquireAny slots holder ttlSeconds =>
      if slots = [] then Lease.refusal .invalid_slot (js "at least one slot id is required")
      else do
        checkSlots slots
        checkHolder holder
        checkTtl call.process.runtime ttlSeconds
  | .renew slot _ _ ttlSeconds => do
      checkSlot slot
      checkTtl call.process.runtime ttlSeconds
  | .release slot _ _ => checkSlot slot
  | .check _ _ _ => .ok ()
  | .status _ => .ok ()
  | .fence _ _ => .ok ()

/-- The reply is that of the call's steps, or refuses the arguments or an unreadable record
and the call has made no step that decides it. -/
def Answered (call : Call) (stage : Stage) (reply : Reply) : Prop :=
  stage = .decided (.ok reply) ∨
    (∀ decision, stage ≠ .decided decision) ∧ ∃ reason, reply.refusal = some reason ∧
      (call.check = .error reason ∨ reason.code = .lease_corrupt)

/-- What a call has come to when it ends. -/
def Finished (call : Call) (_ : Holding JsString SlotPart) (stage : Stage)
    (outcome : Except Halt Reply) : Prop :=
  call.operation.writes = true → ∀ reply, outcome = .ok reply → Answered call stage reply

/-! ## The calls on one slot -/

section Single

variable {α : Type} {call : Call} {reads told : JsNumber → Prop} {slot : JsString}
variable {check : LeaseResult Unit}
variable {body : LeaseRecord → Talk (Answer α)}
variable {bodyAt : JsNumber → LeaseRecord → Except Thrown (Answer α)}
variable {make : LeaseResult α → Reply}

theorem admits_single {allow : AllowFile}
    (hacts : ∀ around file reply after, ClockOf told around.clock file after →
      Lease.withAllowedSlotLock call.process.runtime call.dir slot around file (bodyAt around.clock) = (reply, after) →
        Acts call reads .pending slot file (.decided (reply.map make)) after)
    (hallowed : ensureSlotAllowed allow slot = .ok ()) :
    Admits call.process call.dir slot told bodyAt allow (storeMoves call reads) .pending
      fun reply => .decided (reply.map make) where
  stay stage part after := storeMoves_stay stage
  step around part after reply hallow htold hstep := by
    apply hacts around _ _ _ htold
    rw [Lease.withAllowedSlotLock, hallow, hallowed]
    exact hstep

theorem run_map {Value Next : Type} (make : Value → Next) (talk : Talk Value) :
    (make <$> talk).run = talk.run.bind fun outcome => .done (outcome.map make) := by
  change talk.run.bind _ = _
  congr 1
  funext outcome
  cases outcome <;> rfl

/-- A call that looks at the allow-list first. -/
theorem ready_allowFile {Value : Type} {next : AllowFile → Talk Value}
    {post : Holding JsString SlotPart → Stage → Except Halt Value → Prop}
    (hnext : ∀ allow, (slotGuards call.place reads).Refines (storeMoves call reads) post
      (next allow).run none .pending)
    (hstop : ∀ halt, post none .pending (.error halt)) :
    (slotGuards call.place reads).Ready (storeMoves call reads) post
      (allowFile call.process call.dir >>= next).run none .pending := by
  apply Guards.Ready.bind_ask
  refine (Guards.Ready.of_asides (allowFile_yields call.process call.dir [])
    fun question hmay => spares_all hmay).mono ?_
  rintro _ _ outcome ⟨rfl, rfl, -⟩
  cases outcome with
  | error halt => exact .of_now (hstop halt)
  | ok allow => exact hnext allow

/-- A call on one slot replies what its one step on the slot's file replies. -/
theorem ready_single (hcheck : call.check = check)
    (hpattern : check = .ok () → slotPattern slot = true)
    (hcomputes : Computes call.process call.dir reads told bodyAt body)
    (hrefusal : ∀ reason, (make (.error reason)).refusal = some reason)
    (hacts : check = .ok () → ∀ around file reply after, ClockOf told around.clock file after →
      Lease.withAllowedSlotLock call.process.runtime call.dir slot around file
        (bodyAt around.clock) = (reply, after) →
          Acts call reads .pending slot file (.decided (reply.map make)) after) :
    (slotGuards call.place reads).Ready (storeMoves call reads) (Finished call)
      (make <$> guarded check
        (withAllowedSlotLock call.process call.dir call.options call.fuel slot body)).run
      none .pending := by
  cases check with
  | error reason =>
      rintro _ _ ⟨⟩
      exact .inr ⟨by rintro _ ⟨⟩, reason, hrefusal reason, .inl hcheck⟩
  | ok passed =>
      rw [run_map]
      apply Guards.Ready.map
      apply ready_allowFile
      · intro allow
        split
        · rename_i reason hrefused
          have hstep : ∀ file, Lease.withAllowedSlotLock call.process.runtime call.dir slot
              (Surroundings.between allow .absent .nan) file (bodyAt .nan) =
                (.ok (.error reason), file) := by
            intro file
            rw [Lease.withAllowedSlotLock, Surroundings.between, hrefused]
          refine .idle ⟨slot, fun part => hacts rfl (Surroundings.between allow .absent .nan) _ _ _
            (.inr ⟨rfl, rfl⟩) (hstep _)⟩ (.of_now ?_)
          rintro _ _ ⟨⟩
          exact .inl rfl
        · rename_i hallowed
          refine (refines_withSlotLock call.options call.fuel (hpattern rfl)
            (admits_single (hacts rfl) hallowed) hcomputes).mono ?_
          intro holding now outcome hlanded _ reply hreply
          cases outcome with
          | error halt => cases hreply
          | ok value =>
              cases hreply
              rcases (hlanded value rfl).2 with rfl | ⟨rfl, reason, rfl, hcorrupt⟩
              · exact .inl rfl
              · exact .inr ⟨by rintro _ ⟨⟩, reason, hrefusal reason, .inr hcorrupt⟩
      · rintro halt _ _ ⟨⟩

/-- Any computation of an answer at the clock that the call asks for. -/
theorem computes_clocked {process : Process} {dir : JsString}
    (hsame : ∀ clock record answer, bodyAt clock record = .ok answer → SameSlot record answer)
    (hmoves : ∀ clock, Respects Fencing.Move (bodyAt clock)) :
    Computes process dir reads reads bodyAt (clocked bodyAt) where
  comes slot record part := by
    apply attains_request_bind.mpr
    refine ⟨trivial, fun clock after hanswer => ?_⟩
    obtain rfl := behindLock_kept (by exact trivial) hanswer
    obtain ⟨before, later, ⟨-, htold, -⟩, -, -⟩ := hanswer
    have hcomes : Yields (mayRead process dir)
        (fun answer => ∃ clock, reads clock ∧ bodyAt clock record = .ok answer)
        (orThrown (bodyAt clock record)) :=
      yields_orThrown fun answer hanswer => ⟨clock, htold, hanswer⟩
    exact hcomes.attains fun _ _ _ => behindLock_kept
  sameSlot := hsame
  respects := hmoves

end Single

/-! ## Acquire, renew, release -/

section Calls

variable {call : Call} {reads : JsNumber → Prop} {slot holder : JsString}
variable {token ttlSeconds : JsNumber}

theorem guarded_ok_eq {α : Type} (check : LeaseResult Unit) (hcheck : check = .ok ())
    (file : LeaseFile) (result : Except Thrown (LeaseResult α) × LeaseFile) :
    Lease.guarded check file result = result := by
  rw [hcheck]
  rfl

theorem ready_acquire (hcall : call.operation = .acquire slot holder ttlSeconds) :
    (slotGuards call.place reads).Ready (storeMoves call reads) (Finished call)
      (Reply.acquire <$> acquireLease call.process call.dir call.options call.fuel slot holder
        ttlSeconds).run none .pending := by
  apply ready_single
  · rw [Call.check, hcall]
  · intro hcheck
    obtain ⟨_, hslot, -⟩ := do_eq_ok.mp hcheck
    exact checkSlot_ok hslot
  · exact computes_clocked (fun _ _ _ => sameSlot_acquire)
      fun clock => acquireBody_moves
  · exact fun reason => rfl
  · intro hcheck around file reply after hclock hstep
    apply Acts.acquire hcall around hclock
    rw [Lease.acquireLease, guarded_ok_eq _ hcheck]
    exact hstep

theorem ready_renew (hcall : call.operation = .renew slot holder token ttlSeconds) :
    (slotGuards call.place reads).Ready (storeMoves call reads) (Finished call)
      (Reply.record <$> renewLease call.process call.dir call.options call.fuel slot holder token
        ttlSeconds).run none .pending := by
  apply ready_single
  · rw [Call.check, hcall]
  · intro hcheck
    obtain ⟨_, hslot, -⟩ := do_eq_ok.mp hcheck
    exact checkSlot_ok hslot
  · exact computes_clocked (fun _ _ _ => sameSlot_renew) fun clock => renewBody_moves
  · exact fun reason => rfl
  · intro hcheck around file reply after hclock hstep
    apply Acts.renew hcall around hclock
    rw [Lease.renewLease, guarded_ok_eq _ hcheck]
    exact hstep

theorem ready_release (hcall : call.operation = .release slot holder token) :
    (slotGuards call.place reads).Ready (storeMoves call reads) (Finished call)
      (Reply.record <$> releaseLease call.process call.dir call.options call.fuel slot holder
        token).run none .pending := by
  have hcomputes : Computes call.process call.dir reads (· = .nan)
      (fun _ => releaseBody call.process.runtime slot holder token)
      (fun record => orThrown (releaseBody call.process.runtime slot holder token record)) :=
    { comes := fun _ record _ => (yields_orThrown fun answer hanswer =>
        ⟨.nan, rfl, hanswer⟩).attains fun _ _ _ => behindLock_kept
      sameSlot := fun _ _ _ => sameSlot_release
      respects := fun _ => releaseBody_moves }
  refine ready_single ?_ checkSlot_ok hcomputes (fun reason => rfl) ?_
  · rw [Call.check, hcall]
  · intro hcheck around file reply after hclock hstep
    apply Acts.release hcall around
    rw [Lease.releaseLease, guarded_ok_eq _ hcheck]
    exact hstep

end Calls

/-! ## Acquire any -/

section AnyOf

variable {call : Call} {reads : JsNumber → Prop} {visiting : AnyCall} {allow : AllowFile}

theorem admits_visit :
    Admits call.process call.dir visiting.current reads
      (fun clock => anyBody call.process.runtime visiting.phase visiting.holder
        visiting.ttlSeconds visiting.options clock) allow (storeMoves call reads) (.visiting visiting)
      fun reply => .ofProgress (proceed visiting reply) where
  stay stage part after := storeMoves_stay stage
  step around part after reply _ htold hstep := by
    apply Acts.visit visiting around htold
    rw [visit_eq, hstep]

theorem computes_visit (process : Process) (dir : JsString) (visiting : AnyCall) :
    Computes process dir reads reads
      (fun clock => anyBody process.runtime visiting.phase visiting.holder visiting.ttlSeconds
        visiting.options clock)
      (clocked (anyBody process.runtime visiting.phase visiting.holder visiting.ttlSeconds
        visiting.options)) :=
  computes_clocked (fun _ _ _ => sameSlot_any) fun _ => anyBody_moves

/-- What a pass over the slots comes to: a reply that is decided, or the call at its end. -/
def Passed (call : Call) (visiting : AnyCall) (holding : Holding JsString SlotPart) (stage : Stage)
    (outcome : Except Halt (Except (LeaseResult AcquireAnyResult) (List HeldSlot))) : Prop :=
  (∀ reply, outcome = .ok (.error reply) → Answered call stage (.acquireAny reply)) ∧
    ∀ held, outcome = .ok (.ok held) →
      holding = none ∧ stage = .ofProgress ({ visiting with rest := [] }.advance held)

theorem passed_error {holding : Holding JsString SlotPart} {stage : Stage} (halt : Halt) :
    Passed call visiting holding stage (.error halt) :=
  ⟨by rintro _ ⟨⟩, by rintro _ ⟨⟩⟩

/-- The end of a pass does not depend on the slots it went over. -/
theorem advance_end (visiting : AnyCall) (current : JsString) (before held : List HeldSlot) :
    ({ visiting with current, rest := [], held := before } : AnyCall).advance held =
      ({ visiting with rest := [] } : AnyCall).advance held := by
  unfold AnyCall.advance
  cases visiting.phase <;> rfl

/-- A visit ends the call, or goes on with the slot noted. -/
theorem refines_visit (rest : List JsString)
    (hoptions : visiting.options = call.options.toLeaseOptions)
    (hpattern : slotPattern visiting.current = true)
    (hnext : ∀ other expiresAt,
      (slotGuards call.place reads).Refines (storeMoves call reads) (Passed call visiting)
        (tryEach call.process call.dir call.options call.fuel visiting.phase visiting.holder
          visiting.ttlSeconds rest
          (noteHeld visiting.held visiting.current other expiresAt)).run none
        (.ofProgress (visiting.advance
          (noteHeld visiting.held visiting.current other expiresAt)))) :
    (slotGuards call.place reads).Refines (storeMoves call reads) (Passed call visiting)
      (tryEach call.process call.dir call.options call.fuel visiting.phase visiting.holder
        visiting.ttlSeconds (visiting.current :: rest) visiting.held).run none
      (.visiting visiting) := by
  rw [tryEach, ← hoptions]
  apply (refines_withSlotLock call.options call.fuel hpattern
    (@admits_visit call reads visiting .absent) (computes_visit call.process call.dir visiting)).andThen
  · intro holding now reply hlanded
    obtain ⟨rfl, hstage⟩ := hlanded reply rfl
    cases reply with
    | error reason =>
        refine .of_now ⟨?_, by rintro _ ⟨⟩⟩
        rintro _ ⟨⟩
        rcases hstage with rfl | ⟨rfl, _, ⟨⟩, hcorrupt⟩
        · exact .inl rfl
        · exact .inr ⟨by rintro _ ⟨⟩, reason, rfl, .inr hcorrupt⟩
    | ok attempt =>
        obtain rfl : now = .ofProgress (proceed visiting (.ok (.ok attempt))) := by
          rcases hstage with hnow | ⟨-, _, ⟨⟩, -⟩
          exact hnow
        cases attempt with
        | granted record acquired tookOver =>
            refine .of_now ⟨?_, by rintro _ ⟨⟩⟩
            rintro _ ⟨⟩
            exact .inl rfl
        | held other expiresAt => exact hnext other expiresAt
  · exact fun holding now halt _ => passed_error halt

/-- A pass visits one slot after another, each in a step of its own. -/
theorem refines_tryEach (rest : List JsString) (visiting : AnyCall) (hrest : visiting.rest = rest)
    (hoptions : visiting.options = call.options.toLeaseOptions)
    (hpatterns : ∀ slot ∈ visiting.current :: rest, slotPattern slot = true) :
    (slotGuards call.place reads).Refines (storeMoves call reads) (Passed call visiting)
      (tryEach call.process call.dir call.options call.fuel visiting.phase visiting.holder
        visiting.ttlSeconds (visiting.current :: rest) visiting.held).run none
      (.visiting visiting) := by
  induction rest generalizing visiting with
  | nil =>
      apply refines_visit [] hoptions (hpatterns _ List.mem_cons_self)
      intro other expiresAt
      have hhere : ({ visiting with rest := [] } : AnyCall) = visiting := by rw [← hrest]
      refine .of_now ⟨by rintro _ ⟨⟩, ?_⟩
      rintro _ ⟨⟩
      exact ⟨rfl, by rw [hhere]⟩
  | cons slot rest ih =>
      apply refines_visit (slot :: rest) hoptions (hpatterns _ List.mem_cons_self)
      intro other expiresAt
      have hadvance : visiting.advance (noteHeld visiting.held visiting.current other expiresAt) =
          .visiting { visiting with
            current := slot
            rest
            held := noteHeld visiting.held visiting.current other expiresAt } := by
        rw [AnyCall.advance, hrest]
      rw [hadvance]
      have hmore := ih
        { visiting with
          current := slot
          rest
          held := noteHeld visiting.held visiting.current other expiresAt }
        rfl hoptions fun other hother => hpatterns other (List.mem_cons_of_mem _ hother)
      refine hmore.mono fun holding stage outcome hpassed => ⟨hpassed.1, fun held houtcome => ?_⟩
      obtain ⟨hfree, rfl⟩ := hpassed.2 held houtcome
      exact ⟨hfree, congrArg Stage.ofProgress (advance_end visiting _ _ held)⟩

theorem acquireAny_start {host : HostRuntime} {first : JsString} {others : List JsString}
    {holder : JsString} {ttlSeconds : JsNumber} {options : LeaseOptions}
    (hcheck : (do
      checkSlots (first :: others)
      checkHolder holder
      checkTtl host ttlSeconds : LeaseResult Unit) = .ok ()) :
    Lease.acquireAnyLease host (first :: others) holder ttlSeconds options allow =
      (ensureSlotsAllowed allow (first :: others)).map fun _ =>
        AnyCall.start first others holder ttlSeconds options := by
  obtain ⟨_, hslots, hcheck⟩ := do_eq_ok.mp hcheck
  obtain ⟨_, hholder, httl⟩ := do_eq_ok.mp hcheck
  rw [Lease.acquireAnyLease, hslots, hholder, httl]
  cases ensureSlotsAllowed allow (first :: others) <;> rfl

theorem ready_acquireAny {slots : List JsString} {holder : JsString} {ttlSeconds : JsNumber}
    (hcall : call.operation = .acquireAny slots holder ttlSeconds) :
    (slotGuards call.place reads).Ready (storeMoves call reads) (Finished call)
      (Reply.acquireAny <$> acquireAnyLease call.process call.dir call.options call.fuel slots
        holder ttlSeconds).run none .pending := by
  generalize hcheck : call.check = check
  have hargs := hcheck
  rw [Call.check, hcall] at hargs
  dsimp only at hargs
  rw [acquireAnyLease, hargs]
  cases check with
  | error reason =>
      rintro _ _ ⟨⟩
      exact .inr ⟨by rintro _ ⟨⟩, reason, rfl, .inl hcheck⟩
  | ok passed =>
      obtain ⟨first, others, rfl⟩ : ∃ first others, slots = first :: others := by
        cases slots with
        | nil => cases hargs
        | cons first others => exact ⟨first, others, rfl⟩
      rw [if_neg (List.cons_ne_nil _ _)] at hargs
      obtain ⟨_, hslots, -⟩ := do_eq_ok.mp hargs
      have hpatterns := checkSlots_ok hslots
      rw [run_map]
      apply Guards.Ready.map
      apply ready_allowFile
      · intro allow
        have hstart := @acquireAny_start allow call.process.runtime first others holder ttlSeconds
          call.options.toLeaseOptions hargs
        split
        · rename_i reason hrefused
          rw [hrefused] at hstart
          refine .idle ⟨first, fun part => .refuse hcall allow hstart first _⟩ (.of_now ?_)
          rintro _ _ ⟨⟩
          exact .inl rfl
        · rename_i hallowed
          rw [hallowed] at hstart
          refine .idle ⟨first, fun part => .start hcall allow hstart first _⟩ ?_
          apply (refines_tryEach others
            (AnyCall.start first others holder ttlSeconds call.options.toLeaseOptions) rfl rfl
            hpatterns).andThen
          · intro holding stage own hpassed
            cases own with
            | error reply =>
                apply Rested.of_now
                rintro _ _ ⟨⟩
                exact hpassed.1 reply rfl
            | ok held =>
                obtain ⟨rfl, rfl⟩ := hpassed.2 held rfl
                apply (refines_tryEach others
                  { AnyCall.start first others holder ttlSeconds call.options.toLeaseOptions with
                    phase := .grant
                    held } rfl rfl hpatterns).andThen
                · intro holding stage grant hpassed
                  cases grant with
                  | error reply =>
                      apply Rested.of_now
                      rintro _ _ ⟨⟩
                      exact hpassed.1 reply rfl
                  | ok held =>
                      obtain ⟨rfl, rfl⟩ := hpassed.2 held rfl
                      apply Rested.of_now
                      rintro _ _ ⟨⟩
                      exact .inl rfl
                · rintro holding stage halt _ _ _ ⟨⟩
          · rintro holding stage halt _ _ _ ⟨⟩
      · rintro halt _ _ ⟨⟩

end AnyOf

/-! ## Every call -/

section Reads

variable {call : Call} {reads : JsNumber → Prop} {Value : Type} {talk : Talk Value}
variable {make : Value → Reply}

/-- A call that only looks makes no step. -/
theorem ready_reading (hreads : call.operation.writes = false)
    (htalk : Yields (mayRead call.process call.dir) (fun _ => True) talk) :
    (slotGuards call.place reads).Ready (storeMoves call reads) (Finished call) (make <$> talk).run
      none .pending := by
  rw [run_map]
  apply Guards.Ready.map
  refine (Guards.Ready.of_asides htalk fun question hmay => spares_all hmay).mono ?_
  intro holding stage outcome _ hwrites
  rw [hreads] at hwrites
  cases hwrites

end Reads

/-- Every call goes through its stages, and replies what its last one says. -/
theorem Call.ready (call : Call) (reads : JsNumber → Prop) :
    (slotGuards call.place reads).Ready (storeMoves call reads) (Finished call) call.talk.run none
      .pending := by
  obtain ⟨process, dir, options, fuel, operation⟩ := call
  cases operation with
  | acquire slot holder ttlSeconds => exact ready_acquire rfl
  | acquireAny slots holder ttlSeconds => exact ready_acquireAny rfl
  | renew slot holder token ttlSeconds => exact ready_renew rfl
  | release slot holder token => exact ready_release rfl
  | check slot holder token =>
      exact ready_reading rfl (checkLease_yields process dir options holder token)
  | status slot => exact ready_reading rfl (leaseStatus_yields process dir options)
  | fence slot token => exact ready_reading rfl (fenceAction_yields process dir token)

end OdinSentinel.Lease.Store
