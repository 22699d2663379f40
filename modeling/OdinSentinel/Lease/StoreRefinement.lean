import OdinSentinel.Lease.Pool
import OdinSentinel.Lease.StoreStages

/-!
# The store refines the pool

Calls of any number of processes on one directory, in any interleaving of their system
calls, do to the record files what the steps of a pool do, and reply what these steps do.
-/

namespace OdinSentinel.Lease.Store

open JsText Host Dialogue Transition FileTree PosixPath

/-! ## The pool of a directory -/

/-- A pool, and the replies that its steps have decided. -/
structure Served where
  pool : Pool
  replies : Nat → Option (Except Thrown Reply)

/-- A step of the pool on behalf of a call. -/
structure Turn where
  caller : Nat
  operation : Lease.Operation

/-- The reply that a step decides. -/
def replyOf (host : HostRuntime) (dir : JsString) (pool : Pool) :
    Lease.Operation → Option (Except Thrown Reply)
  | .acquire slot holder ttlSeconds options around =>
      some ((Lease.acquireLease host dir slot holder ttlSeconds options around
        (pool.files slot)).1.map .acquire)
  | .acquireAny call slots holder ttlSeconds options allow =>
      match pool.calls call with
      | some _ => none
      | none =>
          match Lease.acquireAnyLease host slots holder ttlSeconds options allow with
          | .error reason => some (.ok (.acquireAny (.error reason)))
          | .ok _ => none
  | .visit call around =>
      match pool.calls call with
      | none => none
      | some visiting =>
          match (visiting.visit host dir around (pool.files visiting.current)).1 with
          | .finished reply => some (reply.map .acquireAny)
          | .visiting _ => none
  | .renew slot holder token ttlSeconds options around =>
      some ((Lease.renewLease host dir slot holder token ttlSeconds options around
        (pool.files slot)).1.map .record)
  | .release slot holder token around =>
      some ((Lease.releaseLease host dir slot holder token around (pool.files slot)).1.map .record)

/-- The pool after a turn, and what it decided for the caller. -/
def serve (calls : Nat → Call) (served : Served) (turn : Turn) : Served :=
  let host := (calls turn.caller).process.runtime
  let dir := (calls turn.caller).dir
  { pool := next host dir served.pool turn.operation
    replies := Function.update served.replies turn.caller
      (replyOf host dir served.pool turn.operation) }

/-- The record files of a directory, before any call. -/
def Served.start (place : Place) (tree : Tree) : Served where
  pool := { files := fun slot => fileOf (tree (recordName slot :: place)), calls := fun _ => none }
  replies := fun _ => none

/-- A step that a call asks for, or a visit of its own. -/
def Turn.IsOf (turn : Turn) (call : Call) : Prop :=
  match turn.operation with
  | .acquire slot holder ttlSeconds options _ =>
      call.operation = .acquire slot holder ttlSeconds ∧ options = call.options.toLeaseOptions
  | .acquireAny number slots holder ttlSeconds options _ =>
      number = turn.caller ∧ call.operation = .acquireAny slots holder ttlSeconds ∧
        options = call.options.toLeaseOptions
  | .visit number _ => number = turn.caller
  | .renew slot holder token ttlSeconds options _ =>
      call.operation = .renew slot holder token ttlSeconds ∧
        options = call.options.toLeaseOptions
  | .release slot holder token _ => call.operation = .release slot holder token

/-- The clock that a step looks at; a release looks at none. -/
def clockSeen : Lease.Operation → Option JsNumber
  | .acquire _ _ _ _ around => some around.clock
  | .acquireAny _ _ _ _ _ _ => none
  | .visit _ around => some around.clock
  | .renew _ _ _ _ _ around => some around.clock
  | .release _ _ _ _ => none

/-- A turn by a reading of the clock, or one that changes no file. -/
def OnTime (reads : JsNumber → Prop) (before after : Pool) (operation : Lease.Operation) : Prop :=
  ∀ clock, clockSeen operation = some clock → reads clock ∨ after.files = before.files

/-! ## One step -/

def Stage.call : Stage → Option AnyCall
  | .visiting call => some call
  | _ => none

def Stage.reply : Stage → Option (Except Thrown Reply)
  | .decided reply => some reply
  | _ => none

theorem setCall_same {pool : Pool} {number : Nat} {call : Option AnyCall}
    (hcall : pool.calls number = call) : pool.setCall number call = pool := by
  rw [Pool.setCall, ← hcall, Function.update_eq_self]

theorem setFile_same (pool : Pool) (slot : JsString) :
    pool.setFile slot (pool.files slot) = pool := by
  rw [Pool.setFile, Function.update_eq_self]

theorem onTime_of_unclocked {reads : JsNumber → Prop} {before after : Pool}
    {operation : Lease.Operation} (hnone : clockSeen operation = none) :
    OnTime reads before after operation :=
  fun _ hclock => absurd (hnone.symm.trans hclock) (Option.some_ne_none _).symm

/-- A turn whose clock was not read changes no file. -/
theorem onTime_of_clock {calls : Nat → Call} {reads : JsNumber → Prop} {number : Nat}
    {served : Served} {operation : Lease.Operation} {clock : JsNumber} {slot : JsString}
    {file : LeaseFile} {call : Option AnyCall} {replies : Nat → Option (Except Thrown Reply)}
    (hseen : clockSeen operation = some clock)
    (hclock : ClockOf reads clock (served.pool.files slot) file)
    (hserve : serve calls served ⟨number, operation⟩ =
      { pool := (served.pool.setFile slot file).setCall number call, replies }) :
    OnTime reads served.pool (serve calls served ⟨number, operation⟩).pool operation := by
  intro other hother
  obtain rfl := Option.some.inj (hseen.symm.trans hother)
  refine hclock.imp_right fun hsame => ?_
  rw [hserve, hsame.2, setFile_same]
  rfl

/-- A step of a stage is nothing, or a turn of the pool. -/
theorem turn_of_acts {calls : Nat → Call} {reads : JsNumber → Prop} {number : Nat}
    {served : Served} {stage after : Stage} {slot : JsString} {file : LeaseFile}
    (hacts : Acts (calls number) reads stage slot (served.pool.files slot) after file)
    (hcall : served.pool.calls number = stage.call) :
    after = stage ∧ file = served.pool.files slot ∨
      ∃ operation, Turn.IsOf ⟨number, operation⟩ (calls number) ∧ stage.reply = none ∧
        OnTime reads served.pool (serve calls served ⟨number, operation⟩).pool operation ∧
        serve calls served ⟨number, operation⟩ =
          { pool := (served.pool.setFile slot file).setCall number after.call
            replies := Function.update served.replies number after.reply } := by
  cases hacts with
  | stay => exact .inl ⟨rfl, rfl⟩
  | @acquire _ holder ttlSeconds hoperation around _ _ reply hclock hstep =>
      refine .inr ⟨.acquire slot holder ttlSeconds (calls number).options.toLeaseOptions around,
        ⟨hoperation, rfl⟩, rfl, ?_⟩
      refine (fun hserve => ⟨onTime_of_clock rfl hclock hserve, hserve⟩) ?_
      simp only [serve, next, replyOf, hstep, Stage.call, Stage.reply]
      rw [setCall_same (by exact hcall)]
  | @renew _ holder token ttlSeconds hoperation around _ _ reply hclock hstep =>
      refine .inr ⟨.renew slot holder token ttlSeconds (calls number).options.toLeaseOptions around,
        ⟨hoperation, rfl⟩, rfl, ?_⟩
      refine (fun hserve => ⟨onTime_of_clock rfl hclock hserve, hserve⟩) ?_
      simp only [serve, next, replyOf, hstep, Stage.call, Stage.reply]
      rw [setCall_same (by exact hcall)]
  | @release _ holder token hoperation around _ _ reply hstep =>
      refine .inr ⟨.release slot holder token around, hoperation, rfl, onTime_of_unclocked rfl, ?_⟩
      simp only [serve, next, replyOf, hstep, Stage.call, Stage.reply]
      rw [setCall_same (by exact hcall)]
  | @start slots holder ttlSeconds hoperation allow started hstep =>
      refine .inr ⟨.acquireAny number slots holder ttlSeconds
        (calls number).options.toLeaseOptions allow, ⟨rfl, hoperation, rfl⟩, rfl,
        onTime_of_unclocked rfl, ?_⟩
      have hfree : served.pool.calls number = none := hcall
      simp only [serve, next, replyOf, hfree, hstep, Stage.call, Stage.reply]
      rw [setFile_same]
  | @refuse slots holder ttlSeconds hoperation allow reason hstep =>
      refine .inr ⟨.acquireAny number slots holder ttlSeconds
        (calls number).options.toLeaseOptions allow, ⟨rfl, hoperation, rfl⟩, rfl,
        onTime_of_unclocked rfl, ?_⟩
      have hfree : served.pool.calls number = none := hcall
      simp only [serve, next, replyOf, hfree, hstep, Stage.call, Stage.reply]
      rw [setFile_same, setCall_same hfree]
  | @visit visiting around _ _ progress hclock hstep =>
      refine .inr ⟨.visit number around, rfl, rfl, ?_⟩
      refine (fun hserve => ⟨onTime_of_clock rfl hclock hserve, hserve⟩) ?_
      have hvisiting : served.pool.calls number = some visiting := hcall
      simp only [serve, next, replyOf, hvisiting, hstep]
      cases progress <;> rfl

/-! ## Runs -/

/-- The served pool has the files of the outline's parts and the stages of its callers. -/
structure Shows (outline : Outline Nat JsString SlotPart Stage) (served : Served) : Prop where
  files : ∀ slot, served.pool.files slot = fileOf (outline.parts slot).record
  calls : ∀ number, served.pool.calls number = (outline.own number).call
  replies : ∀ number, served.replies number = (outline.own number).reply

/-- A turn that a caller takes for its own call, before it has a reply. -/
structure TakenBy (calls : Nat → Call) (reads : JsNumber → Prop) (caller : Nat)
    (step : Step Served Turn) : Prop where
  taken : step.label.caller = caller
  isOf : step.label.IsOf (calls caller)
  onTime : OnTime reads step.before.pool step.after.pool step.label.operation
  unanswered : step.before.replies caller = none

/-- The turns of one caller behind a history of turns, in a run from `start`. -/
structure Extends (calls : Nat → Call) (reads : JsNumber → Prop) (start : Served) (caller : Nat)
    (history turns : List (Step Served Turn)) (served : Served) : Prop where
  run : Run (serve calls) start (turns ++ history) served
  turns : ∀ step ∈ turns, TakenBy calls reads caller step

variable {calls : Nat → Call} {reads : JsNumber → Prop} {start served : Served}
variable {history turns : List (Step Served Turn)}
variable {caller : Nat} {outline after : Outline Nat JsString SlotPart Stage}

/-- A move of a caller is at most one turn of the pool. -/
theorem extends_of_move
    (hextends : Extends calls reads start caller history turns served)
    (hshows : Shows outline served)
    (hmove : MovesTo (fun number => storeMoves (calls number) reads) caller outline after) :
    ∃ turns served, Extends calls reads start caller history turns served ∧ Shows after served := by
  cases hmove with
  | @move slot stage part hacts =>
      have hhere : Acts (calls caller) reads (outline.own caller) slot (served.pool.files slot) stage
          (fileOf part.record) := by
        rw [hshows.files]
        exact hacts
      rcases turn_of_acts hhere (hshows.calls caller) with ⟨rfl, hfile⟩ |
        ⟨operation, hown, hopen, htimely, hserve⟩
      · refine ⟨turns, served, hextends, ?_, ?_, ?_⟩
        · intro other
          by_cases hother : other = slot
          · subst hother
            rw [Outline.moved_parts_self, hfile]
          · rw [Outline.moved_parts_of_ne _ _ hother, hshows.files]
        · intro number
          rw [Outline.moved, Function.update_eq_self, hshows.calls]
        · intro number
          rw [Outline.moved, Function.update_eq_self, hshows.replies]
      · have hrun := hextends.run.step ⟨caller, operation⟩
        rw [← List.cons_append] at hrun
        refine ⟨_, _, ⟨hrun, ?_⟩, ?_⟩
        · refine List.forall_mem_cons.mpr ⟨⟨rfl, hown, htimely, ?_⟩, hextends.turns⟩
          rw [hshows.replies]
          exact hopen
        · rw [hserve]
          refine ⟨?_, ?_, ?_⟩
          · intro other
            by_cases hother : other = slot
            · subst hother
              simp
            · simp [hother, hshows.files]
          · intro number
            by_cases hnumber : number = caller
            · subst hnumber
              simp
            · simp [hnumber, hshows.calls]
          · intro number
            by_cases hnumber : number = caller
            · subst hnumber
              simp
            · simp [hnumber, hshows.replies]

/-- The moves of a caller in one step are turns of the pool. -/
theorem extends_of_moves
    (hmoves : Relation.ReflTransGen (MovesTo (fun number => storeMoves (calls number) reads) caller)
      outline after)
    (hrun : Run (serve calls) start history served) (hshows : Shows outline served) :
    ∃ turns served, Extends calls reads start caller history turns served ∧ Shows after served := by
  induction hmoves with
  | refl => exact ⟨[], served, ⟨hrun, by rintro _ ⟨⟩⟩, hshows⟩
  | tail _ hmove ih =>
      obtain ⟨turns, served, hextends, hshows⟩ := ih
      exact extends_of_move hextends hshows hmove

/-- Every exchange of a history stands for some turns of the pool, taken by the caller that
asked. -/
structure Accounts (calls : Nat → Call) (reads : JsNumber → Prop) (start : Served)
    (history : History Nat Ask AskAnswer) (turns : List (List (Step Served Turn)))
    (served : Served) : Prop where
  run : Run (serve calls) start turns.flatten served
  turns : List.Forall₂ (fun turns entry => ∀ step ∈ turns, TakenBy calls reads entry.1 step)
    turns history

theorem accounts_of_mirrors {history : History Nat Ask AskAnswer}
    {first : Outline Nat JsString SlotPart Stage}
    (hmirrors : Mirrors (fun number => storeMoves (calls number) reads) first history outline)
    (hshows : Shows first start) :
    ∃ turns served, Accounts calls reads start history turns served ∧ Shows outline served := by
  induction hmirrors with
  | nil => exact ⟨[], start, ⟨.nil, .nil⟩, hshows⟩
  | step exchange _ hmoves ih =>
      obtain ⟨turns, served, haccounts, hshows⟩ := ih
      obtain ⟨last, served, hextends, hshows⟩ := extends_of_moves hmoves haccounts.run hshows
      refine ⟨last :: turns, served, ⟨?_, .cons hextends.turns haccounts.turns⟩, hshows⟩
      rw [List.flatten_cons]
      exact hextends.run

/-- What a finished call replied is what the pool decided for it.  Only a refusal of its
arguments, and of a record that cannot be read, come without a turn. -/
def RepliesAs (call : Call) (decided : Option (Except Thrown Reply)) (reply : Reply) : Prop :=
  decided = some (.ok reply) ∨ decided = none ∧ ∃ reason, reply.refusal = some reason ∧
    (call.check = .error reason ∨ reason.code = .lease_corrupt)

theorem repliesAs_of_answered {call : Call} {stage : Stage} {reply : Reply}
    (hanswered : Answered call stage reply) : RepliesAs call stage.reply reply := by
  rcases hanswered with rfl | ⟨hopen, hrefusal⟩
  · exact .inl rfl
  · refine .inr ⟨?_, hrefusal⟩
    cases stage with
    | pending | visiting => rfl
    | decided decision => exact absurd rfl (hopen decision)

variable {place : Place} {tree : Tree} {history : History Nat Ask AskAnswer}
variable {system : System Nat Tree Ask AskAnswer (Except Halt Reply)}

/-- In every interleaving, the record files change and the calls reply as the turns of one
pool do.  Each turn is made in a step of its own caller. -/
theorem store_refines_pool (hplace : ∀ number, (calls number).place = place)
    (hrun : Interleaved (soundAnswers place reads) (callsOn calls tree) history system) :
    ∃ turns served, Accounts calls reads (Served.start place tree) history turns served ∧
      (∀ slot, served.pool.files slot = fileOf (system.world (recordName slot :: place))) ∧
      ∀ number reply, (calls number).operation.writes = true →
        system.program number = .done (.ok reply) →
          RepliesAs (calls number) (served.replies number) reply := by
  have hready : ∀ number, (slotGuards place reads).Ready (storeMoves (calls number) reads)
      (Finished (calls number)) ((callsOn calls tree).program number) none .pending :=
    fun number => hplace number ▸ (calls number).ready reads
  obtain ⟨outline, holding, hmirrors, hguarding⟩ := hrun.mirrors (Guarding.start hready)
  have hstart : Shows { parts := slotPart place tree, own := fun _ => Stage.pending }
      (Served.start place tree) := ⟨fun _ => rfl, fun _ => rfl, fun _ => rfl⟩
  obtain ⟨turns, served, haccounts, hshows⟩ := accounts_of_mirrors hmirrors hstart
  refine ⟨turns, served, haccounts, ?_, ?_⟩
  · intro slot
    rw [hshows.files, hguarding.parts]
    rfl
  · intro number reply hwrites hdone
    have hfinished := hguarding.ready number
    rw [hdone] at hfinished
    rw [hshows.replies]
    exact repliesAs_of_answered (hfinished hwrites reply rfl)

/-! ## A run of two calls -/

def leasesPlace : Place := [js "leases"]

def nestedSlot : JsString := js "sweep.lease.json"

def nestedLock : Place := lockName nestedSlot :: leasesPlace

def nestedTemp : Place := tempName 8 nestedSlot :: leasesPlace

def nestedPath : Place := recordName nestedSlot :: leasesPlace

/-- What the call of `nestedCall` writes at the start of the epoch. -/
def nestedRecord : LeaseRecord where
  slot := nestedSlot
  token := 1
  tenure := some
    { holder := js "worker"
      acquiredAt := js "1970-01-01T00:00:00.000Z"
      expiresAt := js "1970-01-01T00:01:00.000Z" }

def nestedReply : Reply :=
  .acquire (.ok { record := nestedRecord, acquired := true, tookOver := false })

def nestedText : JsString := recordText (rootProcess 8).runtime nestedRecord

theorem nestedCall_grants :
    acquireBody (rootProcess 8).runtime nestedSlot (js "worker") (.ofNat 60)
      (StoreOptions.toLeaseOptions { skewMs := none, lockBudgetMs := none }) (.ofNat 0)
      (emptyRecord nestedSlot) =
        .ok (.ok { record := nestedRecord, acquired := true, tookOver := false },
          some nestedRecord) := by
  have hexpiry : expiryOf (rootProcess 8).runtime (.ofNat 0) (.ofNat 60) =
      .ok (js "1970-01-01T00:01:00.000Z") := by decide +kernel
  rw [acquireBody, hexpiry]
  rfl

theorem nestedCall_refused (fault : Fault) : ∃ looked made reply,
    nestedCall.talk.run = .ask (.sys (.existsSync (slotsAllowFilename :: leasesPlace))) looked ∧
    looked false = .ask (.sys (.mkdirRecursive leasesPlace)) made ∧
    made (.error fault) = .done (.ok reply) :=
  ⟨_, _, _, rfl, rfl, rfl⟩

theorem nestedCall_asks : ∃ looked made timed locked waited allowed found read written moved freed,
    nestedCall.talk.run = .ask (.sys (.existsSync (slotsAllowFilename :: leasesPlace))) looked ∧
    looked false = .ask (.sys (.mkdirRecursive leasesPlace)) made ∧
    made (.ok ()) = .ask (.locking nestedLock .now) timed ∧
    timed (0 : Int) = .ask (.locking nestedLock .makeLock) locked ∧
    locked (.ok ()) = .ask (.locking nestedLock .now) waited ∧
    waited (0 : Int) = .ask (.sys (.existsSync (slotsAllowFilename :: leasesPlace))) allowed ∧
    allowed false = .ask (.sys (.existsSync nestedPath)) found ∧
    found false = .ask .clock read ∧
    read (.ofNat 0) = .ask (.sys (.writeFileSync nestedTemp nestedText)) written ∧
    written (.ok () : Except Fault Unit) = .ask (.sys (.renameSync nestedTemp nestedPath)) moved ∧
    moved (.ok () : Except Fault Unit) = .ask (.sys (.rmdirSync nestedLock)) freed ∧
    freed (.ok () : Except Fault Unit) = .done (.ok nestedReply) := by
  refine ⟨?looked, ?made, ?timed, ?locked, ?waited, ?allowed, ?found, ?read, ?written, ?moved,
    ?freed, ?look, ?make, ?time, ?lock, ?wait, ?allow, ?find, ?clock, ?write, ?move, ?free, ?done⟩
  case look => rfl
  case make => rfl
  case time => rfl
  case lock => rfl
  case wait => rfl
  case allow => rfl
  case find => rfl
  case clock => rfl
  case write =>
    simp only [Program.bind, ExceptT.bindCont, Function.comp]
    erw [nestedCall_grants]
    rfl
  case move => rfl
  case free => rfl
  case done => rfl

def nestedDirs : Tree := Tree.put (fun _ => none) leasesPlace (some .directory)

def nestedLocked : Tree := nestedDirs.put nestedLock (some .directory)

def nestedWritten : Tree := nestedLocked.put nestedTemp (some (.file nestedText))

def nestedMoved : Tree := nestedWritten.move nestedTemp nestedPath

theorem hasRoom_of_none {place : Place} {tree : Tree}
    (hnone : ∀ slot, tree (recordName slot :: place) = none) : HasRoom place tree := by
  intro slot
  rw [hnone]
  decide

theorem nestedDirs_none (slot : JsString) : nestedDirs (recordName slot :: leasesPlace) = none :=
  Tree.put_of_ne _ _ fun hsame => List.cons_ne_self _ _ hsame

theorem nestedLocked_none (slot : JsString) :
    nestedLocked (recordName slot :: leasesPlace) = none := by
  have hname : recordName slot ≠ lockName nestedSlot :=
    ne_of_last (last_recordName slot) (last_lockName nestedSlot) (by decide)
  have hplace : recordName slot :: leasesPlace ≠ nestedLock :=
    fun hsame => hname (List.cons.inj hsame).1
  rw [nestedLocked, Tree.put_of_ne _ _ hplace]
  exact nestedDirs_none slot

theorem nestedWritten_none (slot : JsString) :
    nestedWritten (recordName slot :: leasesPlace) = none := by
  have hname : recordName slot ≠ tempName 8 nestedSlot :=
    ne_of_last (last_recordName slot) (last_tempName 8 nestedSlot) (by decide)
  have hplace : recordName slot :: leasesPlace ≠ nestedTemp :=
    fun hsame => hname (List.cons.inj hsame).1
  rw [nestedWritten, Tree.put_of_ne _ _ hplace]
  exact nestedLocked_none slot

theorem nestedWritten_temp : nestedWritten nestedTemp = some (.file nestedText) :=
  nestedLocked.put_self _ _

theorem nestedMoved_path : nestedMoved nestedPath = some (.file nestedText) := by
  rw [nestedMoved, Tree.move, if_pos List.suffix_rfl, Nat.sub_self, List.take_zero,
    List.nil_append, nestedWritten_temp]

theorem nestedMoved_of_ne {place : Place} (hpath : ¬nestedPath <:+ place)
    (htemp : ¬nestedTemp <:+ place) : nestedMoved place = nestedWritten place :=
  nestedWritten.move_of_not_within htemp hpath

theorem hasRoom_nestedMoved : HasRoom leasesPlace nestedMoved := by
  intro slot
  by_cases hslot : slot = nestedSlot
  · subst hslot
    rw [show recordName nestedSlot :: leasesPlace = nestedPath from rfl, nestedMoved_path,
      nestedText, fileOf_recordText _ (by decide), register_toJson]
    decide
  · have hpath : recordName nestedSlot ≠ recordName slot :=
      fun hsame => hslot (recordName_inj.mp hsame).symm
    have htemp : tempName 8 nestedSlot ≠ recordName slot :=
      ne_of_last (last_tempName 8 nestedSlot) (last_recordName slot) (by decide)
    rw [nestedMoved_of_ne (not_below hpath) (not_below htemp), nestedWritten_none]
    decide

/-- The lock's directory is empty behind the rename. -/
theorem nestedMoved_lock : nestedMoved nestedLock = some .directory ∧
    ∀ other, nestedLock <:+ other → other ≠ nestedLock → nestedMoved other = none := by
  have hnames : ∀ {name other}, nestedLock <:+ other → lockName nestedSlot ≠ name →
      ¬(name :: leasesPlace <:+ other) := by
    intro name other hlock hname hbelow
    have hsame : nestedLock = name :: leasesPlace :=
      (List.suffix_of_suffix_length_le hlock hbelow (by simp [nestedLock])).eq_of_length
        (by simp [nestedLock])
    exact hname (List.cons.inj hsame).1
  have hpath : lockName nestedSlot ≠ recordName nestedSlot :=
    ne_of_last (last_lockName nestedSlot) (last_recordName nestedSlot) (by decide)
  have htemp : lockName nestedSlot ≠ tempName 8 nestedSlot :=
    ne_of_last (last_lockName nestedSlot) (last_tempName 8 nestedSlot) (by decide)
  have hkept : ∀ {other}, nestedLock <:+ other → nestedMoved other = nestedLocked other := by
    intro other hlock
    have hother : other ≠ nestedTemp := by
      rintro rfl
      exact hnames hlock htemp List.suffix_rfl
    rw [nestedMoved_of_ne (hnames hlock hpath) (hnames hlock htemp)]
    exact Tree.put_of_ne _ _ hother
  refine ⟨?_, fun other hlock hother => ?_⟩
  · rw [hkept List.suffix_rfl]
    exact nestedDirs.put_self _ _
  · have hdir : other ≠ leasesPlace := by
      rintro rfl
      have hlong := hlock.length_le
      simp [nestedLock] at hlong
    rw [hkept hlock, nestedLocked, Tree.put_of_ne _ _ hother]
    exact Tree.put_of_ne _ _ hdir

/-- Of two calls one cannot make the directory and ends, and the other has its record ready. -/
theorem nested_writes {reads : JsNumber → Prop} (hreads : reads (.ofNat 0)) :
    ∃ history system moved freed,
      Interleaved (soundAnswers leasesPlace reads)
        (callsOn (fun _ : Nat => nestedCall) fun _ => none) history system ∧
      system.world = nestedWritten ∧
      system.program 0 = .ask (.sys (.renameSync nestedTemp nestedPath)) moved ∧
      moved (.ok () : Except Fault Unit) = .ask (.sys (.rmdirSync nestedLock)) freed ∧
      freed (.ok () : Except Fault Unit) = .done (.ok nestedReply) := by
  obtain ⟨_, _, reply, hlook, hmake, hrefused⟩ := nestedCall_refused ⟨[], []⟩
  obtain ⟨looked, made, timed, locked, waited, allowed, found, read, written, moved, freed,
    hlooked, hmade, htimed, hlocked, hwaited, hallowed, hfound, hread, hwritten, hmoved, hfreed,
    hdone⟩ := nestedCall_asks
  have hempty : HasRoom leasesPlace fun _ => none := hasRoom_of_none fun _ => rfl
  have hdirs := hasRoom_of_none nestedDirs_none
  have hroom := hasRoom_of_none nestedLocked_none
  have hlooks : soundAnswers leasesPlace reads (fun _ => none)
      (.sys (.existsSync (slotsAllowFilename :: leasesPlace))) false fun _ => none :=
    ⟨⟨fun hthere => absurd hthere Bool.false_ne_true, rfl⟩, fun _ => rfl, hempty⟩
  have hfails : soundAnswers leasesPlace reads (fun _ => none) (.sys (.mkdirRecursive leasesPlace))
      (.error ⟨[], []⟩) fun _ => none :=
    ⟨⟨fun other => .inl rfl, fun hok => by cases hok⟩, trivial, hempty⟩
  have hmakes : soundAnswers leasesPlace reads (fun _ => none) (.sys (.mkdirRecursive leasesPlace))
      (.ok ()) nestedDirs := by
    refine ⟨⟨fun other => ?_, fun _ => Tree.put_self _ _ _⟩, trivial, hempty⟩
    by_cases hother : other = leasesPlace
    · subst hother
      exact .inr ⟨List.suffix_rfl, rfl, Tree.put_self _ _ _⟩
    · exact .inl (Tree.put_of_ne _ _ hother)
  have htells : soundAnswers leasesPlace reads nestedDirs (.locking nestedLock .now) (0 : Int)
      nestedDirs := ⟨rfl, trivial, hdirs⟩
  have htakes : soundAnswers leasesPlace reads nestedDirs (.locking nestedLock .makeLock) (.ok ())
      nestedLocked := ⟨⟨rfl, rfl⟩, trivial, hdirs⟩
  have htold : soundAnswers leasesPlace reads nestedLocked (.locking nestedLock .now) (0 : Int)
      nestedLocked := ⟨rfl, trivial, hroom⟩
  have hallows : soundAnswers leasesPlace reads nestedLocked
      (.sys (.existsSync (slotsAllowFilename :: leasesPlace))) false nestedLocked :=
    ⟨⟨fun hthere => absurd hthere Bool.false_ne_true, rfl⟩, fun _ => rfl, hroom⟩
  have hfinds : soundAnswers leasesPlace reads nestedLocked (.sys (.existsSync nestedPath)) false
      nestedLocked :=
    ⟨⟨fun hthere => absurd hthere Bool.false_ne_true, rfl⟩,
      fun _ => nestedLocked_none nestedSlot, hroom⟩
  have hclock : soundAnswers leasesPlace reads nestedLocked .clock (.ofNat 0) nestedLocked :=
    ⟨rfl, hreads, hroom⟩
  have hwrites : soundAnswers leasesPlace reads nestedLocked
      (.sys (.writeFileSync nestedTemp nestedText)) (.ok ()) nestedWritten :=
    ⟨rfl, trivial, hroom⟩
  have hrun : Interleaved (soundAnswers leasesPlace reads)
      (callsOn (fun _ : Nat => nestedCall) fun _ => none) [(1, _)] _ :=
    Interleaved.nil.step hlook hlooks
  have hrun : Interleaved (soundAnswers leasesPlace reads) _ ((1, _) :: _) _ :=
    hrun.step hmake hfails
  have hrun : Interleaved (soundAnswers leasesPlace reads) _ ((0, _) :: _) _ :=
    hrun.step hlooked hlooks
  have hrun : Interleaved (soundAnswers leasesPlace reads) _ ((0, _) :: _) _ :=
    hrun.step hmade hmakes
  have hrun : Interleaved (soundAnswers leasesPlace reads) _ ((0, _) :: _) _ :=
    hrun.step htimed htells
  have hrun : Interleaved (soundAnswers leasesPlace reads) _ ((0, _) :: _) _ :=
    hrun.step hlocked htakes
  have hrun : Interleaved (soundAnswers leasesPlace reads) _ ((0, _) :: _) _ :=
    hrun.step hwaited htold
  have hrun : Interleaved (soundAnswers leasesPlace reads) _ ((0, _) :: _) _ :=
    hrun.step hallowed hallows
  have hrun : Interleaved (soundAnswers leasesPlace reads) _ ((0, _) :: _) _ :=
    hrun.step hfound hfinds
  have hrun : Interleaved (soundAnswers leasesPlace reads) _ ((0, _) :: _) _ :=
    hrun.step hread hclock
  have hrun : Interleaved (soundAnswers leasesPlace reads) _ ((0, _) :: _) _ :=
    hrun.step hwritten hwrites
  exact ⟨_, _, moved, freed, hrun, rfl, hmoved, hfreed, hdone⟩

/-- The rename of the record's temporary file. -/
theorem nested_renames (reads : JsNumber → Prop) :
    soundAnswers leasesPlace reads nestedWritten (.sys (.renameSync nestedTemp nestedPath))
      (.ok ()) nestedMoved := by
  refine ⟨⟨?_, rfl⟩, trivial, hasRoom_of_none nestedWritten_none⟩
  rw [nestedWritten_temp]
  rfl

/-- The call ends behind its rename, with its lock freed. -/
theorem nested_run {reads : JsNumber → Prop} (hreads : reads (.ofNat 0)) : ∃ history system,
    Interleaved (soundAnswers leasesPlace reads)
      (callsOn (fun _ : Nat => nestedCall) fun _ => none) history system ∧
    system.program 0 = .done (.ok nestedReply) := by
  obtain ⟨history, system, moved, freed, hrun, hworld, hmoved, hfreed, hdone⟩ :=
    nested_writes hreads
  have hfrees : soundAnswers leasesPlace reads nestedMoved (.sys (.rmdirSync nestedLock)) (.ok ())
      (nestedMoved.put nestedLock none) :=
    ⟨⟨nestedMoved_lock.1, nestedMoved_lock.2, rfl⟩, trivial, hasRoom_nestedMoved⟩
  have hrun : Interleaved (soundAnswers leasesPlace reads) _ ((0, _) :: _)
      (system.advance 0 (moved (.ok ())) nestedMoved) :=
    hrun.step hmoved (hworld ▸ nested_renames reads)
  have hrun : Interleaved (soundAnswers leasesPlace reads) _ ((0, _) :: _) _ :=
    hrun.step ((System.advance_self _ _ _ _).trans hfreed) hfrees
  exact ⟨_, _, hrun, (System.advance_self _ _ _ _).trans hdone⟩

theorem store_refines_pool_nested :
    ∃ (system : System Nat Tree Ask AskAnswer (Except Halt Reply)) (served : Served),
      system.program 0 = .done (.ok nestedReply) ∧
      (∀ slot, served.pool.files slot = fileOf (system.world (recordName slot :: leasesPlace))) ∧
      RepliesAs nestedCall (served.replies 0) nestedReply := by
  have hplace : nestedCall.place = leasesPlace := by decide
  obtain ⟨history, system, hrun, hdone⟩ := @nested_run (· = .ofNat 0) rfl
  obtain ⟨turns, served, -, hfiles, hreplies⟩ := store_refines_pool (fun _ => hplace) hrun
  exact ⟨system, served, hdone, hfiles, hreplies 0 nestedReply rfl hdone⟩

end OdinSentinel.Lease.Store
