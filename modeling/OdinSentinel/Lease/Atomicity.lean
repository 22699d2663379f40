import OdinSentinel.Lease.OneSlot

/-!
# Exclusion and refusal

A step writes a record only on behalf of its holder or after the lease has run out, a
call that is refused has written nothing, and an any-of call writes once at most.
-/

namespace OdinSentinel.Lease

open JsText Host Fallible Transition

/-- The holder that a step acts for. -/
def callerOf (pool : Pool) : Operation → Option JsString
  | .acquire _ holder _ _ _ => some holder
  | .acquireAny _ _ holder _ _ _ => some holder
  | .visit call _ => (pool.calls call).map AnyCall.holder
  | .renew _ holder _ _ _ _ => some holder
  | .release _ holder _ _ => some holder

/-- The skew that a step allows; a release asks for no instant. -/
def skewOf (pool : Pool) : Operation → Option JsNumber
  | .acquire _ _ _ options _ => some (skewMs options)
  | .acquireAny _ _ _ _ _ _ => none
  | .visit call _ => (pool.calls call).map fun visiting => skewMs visiting.options
  | .renew _ _ _ _ options _ => some (skewMs options)
  | .release _ _ _ _ => none

/-- The record's lease has run out at the step's clock, its skew allowed for. -/
def ExpiredFor (host : HostRuntime) (pool : Pool) (operation : Operation)
    (record : LeaseRecord) : Prop :=
  ∃ clock skew, clockOf operation = some clock ∧ skewOf pool operation = some skew ∧
    isExpired host record clock skew = true

/-- A step may write over a record that is free, its caller's own, or expired. -/
def Entitled (host : HostRuntime) (pool : Pool) (operation : Operation)
    (record : LeaseRecord) : Prop :=
  ∀ tenure, record.tenure = some tenure →
    callerOf pool operation = some tenure.holder ∨ ExpiredFor host pool operation record

/-- The call that a step belongs to ends in it with a refusal. -/
def Refuses (host : HostRuntime) (dir : JsString) (pool : Pool) : Operation → Prop
  | .acquire slot holder ttlSeconds options around =>
      ∃ reason, (acquireLease host dir slot holder ttlSeconds options around
        (pool.files slot)).1 = .ok (.error reason)
  | .acquireAny call slots holder ttlSeconds options allow =>
      pool.calls call = none ∧
        ∃ reason, acquireAnyLease host slots holder ttlSeconds options allow = .error reason
  | .visit call around =>
      ∃ visiting reason, pool.calls call = some visiting ∧
        (visiting.visit host dir around (pool.files visiting.current)).1 =
          .finished (.ok (.error reason))
  | .renew slot holder token ttlSeconds options around =>
      ∃ reason, (renewLease host dir slot holder token ttlSeconds options around
        (pool.files slot)).1 = .ok (.error reason)
  | .release slot holder token around =>
      ∃ reason, (releaseLease host dir slot holder token around (pool.files slot)).1 =
        .ok (.error reason)

/-! ## One locked body -/

/-- A body writes only where it succeeds. -/
def WritesOnSuccess {α : Type} (body : LeaseRecord → Except Thrown (Answer α)) : Prop :=
  ∀ record result next, body record = .ok (result, some next) → ∃ value, result = .ok value

section Locked

variable {α : Type} {host : HostRuntime} {dir slot : JsString} {around : Surroundings}
variable {file : LeaseFile} {body : LeaseRecord → Except Thrown (Answer α)}
variable {check : LeaseResult Unit}

/-- Where a locked body changed the file, it wrote and its result is the reply. -/
theorem withSlotLock_written
    (hfile : (withSlotLock host dir slot around file body).2 ≠ file) :
    ∃ record result next, storedRecord host slot file = some record ∧
      body record = .ok (result, some next) ∧
      (withSlotLock host dir slot around file body).1 = .ok result := by
  rw [withSlotLock] at hfile ⊢
  split at hfile
  · exact absurd rfl hfile
  · split at hfile
    · exact absurd rfl hfile
    · split at hfile
      · exact absurd rfl hfile
      · rename_i record hread
        split at hfile
        · exact absurd rfl hfile
        · exact absurd rfl hfile
        · rename_i result next hbody
          split at hfile
          · exact absurd rfl hfile
          · exact ⟨record, result, next, readLease_stored hread, hbody, by simp [*]⟩

theorem guarded_written
    (hfile : (guarded check file (withAllowedSlotLock host dir slot around file body)).2 ≠ file) :
    ∃ record result next, storedRecord host slot file = some record ∧
      body record = .ok (result, some next) ∧
      (guarded check file (withAllowedSlotLock host dir slot around file body)).1 =
        .ok result := by
  unfold guarded withAllowedSlotLock at hfile ⊢
  split at hfile
  · exact absurd rfl hfile
  · split at hfile
    · exact absurd rfl hfile
    · exact withSlotLock_written hfile

/-- A call that is refused leaves the file as it was. -/
theorem guarded_refused (hbody : WritesOnSuccess body) {reason : LeaseRefusal}
    (hreply : (guarded check file (withAllowedSlotLock host dir slot around file body)).1 =
      .ok (.error reason)) :
    (guarded check file (withAllowedSlotLock host dir slot around file body)).2 = file := by
  by_contra hfile
  obtain ⟨record, result, next, -, hwrite, hresult⟩ := guarded_written hfile
  obtain ⟨value, rfl⟩ := hbody record result next hwrite
  cases hresult.symm.trans hreply

end Locked

section Bodies

variable {host : HostRuntime} {slot holder : JsString} {token ttlSeconds clock : JsNumber}
variable {options : LeaseOptions}

theorem acquireBody_success :
    WritesOnSuccess (acquireBody host slot holder ttlSeconds options clock) := by
  intro record result next hbody
  rcases acquireBody_cases hbody with ⟨_, _, _, -, -, hresult⟩ | ⟨_, _, _, -, -, -, hresult⟩ |
    ⟨_, -, -, -, hwrite, -⟩
  · exact ⟨_, hresult⟩
  · exact ⟨_, hresult⟩
  · cases hwrite

theorem renewBody_success :
    WritesOnSuccess (renewBody host slot holder token ttlSeconds options clock) := by
  intro record result next hbody
  rw [renewBody] at hbody
  split at hbody
  · cases hbody
  · split at hbody
    · cases hbody
    · obtain ⟨_, -, hbody⟩ := do_eq_ok.mp hbody
      obtain ⟨_, -, hbody⟩ := do_eq_ok.mp hbody
      exact ⟨_, (Prod.mk.inj (Except.ok.inj hbody)).1.symm⟩

theorem releaseBody_success : WritesOnSuccess (releaseBody host slot holder token) := by
  intro record result next hbody
  rw [releaseBody] at hbody
  split at hbody
  · cases hbody
  · exact ⟨_, (Prod.mk.inj (Except.ok.inj hbody)).1.symm⟩

/-- Only the grant pass writes, and then the slot is granted. -/
theorem anyBody_success {phase : Phase} {record next : LeaseRecord} {result : LeaseResult SlotTry}
    (hbody : anyBody host phase holder ttlSeconds options clock record =
      .ok (result, some next)) :
    (record.holder = none ∨ isExpired host record clock (skewMs options) = true) ∧
      ∃ granted acquired tookOver, result = .ok (.granted granted acquired tookOver) := by
  cases phase with
  | own => cases (ownBody_cases hbody).1
  | grant =>
      rcases grantBody_cases hbody with ⟨_, _, hopen, -, hresult⟩ | ⟨-, -, hwrite, -⟩ |
        ⟨-, -, -, hwrite, -⟩
      · exact ⟨hopen, _, _, _, hresult⟩
      · cases hwrite
      · cases hwrite

end Bodies

/-! ## One step -/

section Steps

variable {host : HostRuntime} {dir slot : JsString} {pool : Pool} {operation : Operation}

theorem setFile_files_eq {target : JsString} {file : LeaseFile}
    (hfile : file = pool.files target) : (pool.setFile target file).files = pool.files := by
  subst hfile
  simp [Pool.setFile]

/-- A visit that changes its slot ends its call with a grant. -/
theorem visit_written {visiting : AnyCall} {around : Surroundings} {file : LeaseFile}
    (hfile : (visiting.visit host dir around file).2 ≠ file) :
    ∃ record result, storedRecord host visiting.current file = some record ∧
      (record.holder = none ∨
        isExpired host record around.clock (skewMs visiting.options) = true) ∧
      (visiting.visit host dir around file).1 = .finished (.ok (.ok result)) := by
  rw [AnyCall.visit_file] at hfile
  obtain ⟨record, result, next, hstored, hbody, hreply⟩ := withSlotLock_written hfile
  obtain ⟨hopen, granted, acquired, tookOver, rfl⟩ := anyBody_success hbody
  refine ⟨record, ?_, hstored, hopen, ?_⟩
  · exact ⟨visiting.current, granted, acquired, tookOver, visiting.held⟩
  · rw [AnyCall.visit]
    split
    all_goals
      rename_i hlock
      rw [hlock] at hreply
      cases hreply
    rfl

/-- A step writes only over a record that it is entitled to. -/
theorem entitled_of_written (hwritten : (next host dir pool operation).files slot ≠ pool.files slot) :
    ∃ record, storedRecord host slot (pool.files slot) = some record ∧
      Entitled host pool operation record := by
  have htarget := targetOf_of_ne host dir hwritten
  cases operation with
  | acquire target holder ttlSeconds options around =>
      obtain rfl := Option.some.inj htarget
      rw [next, Pool.setFile_files_self] at hwritten
      obtain ⟨record, result, next, hstored, hbody, -⟩ := guarded_written hwritten
      refine ⟨record, hstored, fun tenure htenure => ?_⟩
      rcases acquireBody_cases hbody with ⟨_, _, _, hnone | ⟨_, -, -, hexpired⟩, -, -⟩ |
        ⟨found, _, _, hfound, hholder, -, -⟩ | ⟨_, -, -, -, hwrite, -⟩
      · rw [hnone] at htenure
        cases htenure
      · exact .inr ⟨around.clock, skewMs options, rfl, rfl, hexpired⟩
      · obtain rfl := Option.some.inj (hfound.symm.trans htenure)
        exact .inl (congrArg some hholder.symm)
      · cases hwrite
  | acquireAny => cases htarget
  | visit call around =>
      obtain ⟨visiting, hvisiting, rfl⟩ := Option.map_eq_some_iff.mp htarget
      simp only [next, hvisiting, Pool.setCall_files, Pool.setFile_files_self] at hwritten
      obtain ⟨record, result, hstored, hopen, -⟩ := visit_written hwritten
      refine ⟨record, hstored, fun tenure htenure => .inr ?_⟩
      rcases hopen with hnone | hexpired
      · rw [LeaseRecord.holder, htenure] at hnone
        cases hnone
      · exact ⟨around.clock, skewMs visiting.options, rfl, by simp [skewOf, hvisiting], hexpired⟩
  | renew target holder token ttlSeconds options around =>
      obtain rfl := Option.some.inj htarget
      rw [next, Pool.setFile_files_self] at hwritten
      obtain ⟨record, result, next, hstored, hbody, -⟩ := guarded_written hwritten
      obtain ⟨found, _, _, hfound, hholder, -, -, -⟩ := renewBody_write hbody
      refine ⟨record, hstored, fun tenure htenure => .inl ?_⟩
      obtain rfl := Option.some.inj (hfound.symm.trans htenure)
      exact congrArg some hholder.symm
  | release target holder token around =>
      obtain rfl := Option.some.inj htarget
      rw [next, Pool.setFile_files_self] at hwritten
      obtain ⟨record, result, next, hstored, hbody, -⟩ := guarded_written hwritten
      obtain ⟨found, hfound, hholder, -, -⟩ := releaseBody_write hbody
      refine ⟨record, hstored, fun tenure htenure => .inl ?_⟩
      obtain rfl := Option.some.inj (hfound.symm.trans htenure)
      exact congrArg some hholder.symm

/-- A step in which a call is refused leaves every record as it was. -/
theorem refused_unchanged (hrefused : Refuses host dir pool operation) :
    (next host dir pool operation).files = pool.files := by
  cases operation with
  | acquire target holder ttlSeconds options around =>
      obtain ⟨reason, hreply⟩ := hrefused
      exact setFile_files_eq (guarded_refused acquireBody_success hreply)
  | acquireAny call named holder ttlSeconds options allow =>
      obtain ⟨hnone, reason, hreply⟩ := hrefused
      simp [next, hnone, hreply]
  | visit call around =>
      obtain ⟨visiting, reason, hvisiting, hreply⟩ := hrefused
      simp only [next, hvisiting, Pool.setCall_files]
      apply setFile_files_eq
      by_contra hfile
      obtain ⟨_, result, -, -, hgranted⟩ := visit_written hfile
      cases hgranted.symm.trans hreply
  | renew target holder token ttlSeconds options around =>
      obtain ⟨reason, hreply⟩ := hrefused
      exact setFile_files_eq (guarded_refused renewBody_success hreply)
  | release target holder token around =>
      obtain ⟨reason, hreply⟩ := hrefused
      exact setFile_files_eq (guarded_refused releaseBody_success hreply)

end Steps

/-! ## Whole runs -/

/-- The step starts a call under a number. -/
def Starts (call : Nat) : Operation → Prop
  | .acquireAny number _ _ _ _ _ => number = call
  | _ => False

/-- The any-of call that a step advances. -/
def advances : Operation → Option Nat
  | .visit call _ => some call
  | _ => none

section Runs

variable {host : HostRuntime} {dir : JsString} {call : Nat} {start final : Pool}
variable {history : List (Step Pool Operation)}

/-- A call that is over stays over until its number is used again. -/
theorem next_calls_none {pool : Pool} {operation : Operation} (hnone : pool.calls call = none)
    (hidle : ¬Starts call operation) : (next host dir pool operation).calls call = none := by
  cases operation with
  | acquire | renew | release => exact hnone
  | acquireAny number named holder ttlSeconds options allow =>
      have hother : call ≠ number := fun hsame => hidle hsame.symm
      simp only [next]
      split
      · exact hnone
      · split
        · exact hnone
        · rw [Pool.setCall_calls_of_ne pool _ hother]
          exact hnone
  | visit number around =>
      simp only [next]
      split
      · exact hnone
      · rename_i visiting hvisiting
        have hother : call ≠ number := by
          rintro rfl
          rw [hnone] at hvisiting
          cases hvisiting
        rw [Pool.setCall_calls_of_ne _ _ hother]
        exact hnone

theorem calls_none_of_run (hrun : Run (next host dir) start history final)
    {between earlier : List (Step Pool Operation)} {first : Step Pool Operation}
    (hsplit : history = between ++ first :: earlier) (hended : first.after.calls call = none)
    (hidle : ∀ step ∈ between, ¬Starts call step.label) : final.calls call = none := by
  induction hrun generalizing between with
  | nil => simp at hsplit
  | step label _ ih =>
      cases between with
      | nil =>
          obtain ⟨rfl, -⟩ := List.cons.inj hsplit
          exact hended
      | cons last between =>
          obtain ⟨rfl, htail⟩ := List.cons.inj hsplit
          obtain ⟨hlast, hrest⟩ := List.forall_mem_cons.mp hidle
          exact next_calls_none (ih htail hrest) hlast

/-- A visit that changes a record ends its call. -/
theorem visit_ends {pool : Pool} {operation : Operation} (hvisits : advances operation = some call)
    (hwritten : (next host dir pool operation).files ≠ pool.files) :
    (next host dir pool operation).calls call = none := by
  cases operation with
  | visit number around =>
      cases hvisits
      simp only [next] at hwritten ⊢
      split at hwritten
      · exact absurd rfl hwritten
      · rename_i visiting hvisiting
        have hfile : (visiting.visit host dir around (pool.files visiting.current)).2 ≠
            pool.files visiting.current := fun hsame => hwritten (setFile_files_eq hsame)
        obtain ⟨_, result, -, -, hgranted⟩ := visit_written hfile
        simp [hgranted, Progress.call]
  | acquire | acquireAny | renew | release => cases hvisits

/-- A visit of a call that is over does nothing. -/
theorem visit_over {pool : Pool} {operation : Operation} (hvisits : advances operation = some call)
    (hnone : pool.calls call = none) :
    (next host dir pool operation).files = pool.files ∧ ¬Refuses host dir pool operation := by
  cases operation with
  | visit number around =>
      cases hvisits
      refine ⟨by simp [next, hnone], ?_⟩
      rintro ⟨visiting, _, hvisiting, -⟩
      rw [hnone] at hvisiting
      cases hvisiting
  | acquire | acquireAny | renew | release => cases hvisits

/-- Over every run from any pool: a record that another holder has and whose lease has
not run out is left alone, a step that refuses a call changes no record, a step changes
one record at most, and an any-of call that has changed one neither changes another nor
is refused. -/
theorem leases_exclude (hrun : Run (next host dir) start history final) :
    (∀ step ∈ history, ∀ slot record tenure,
      storedRecord host slot (step.before.files slot) = some record →
      record.tenure = some tenure → callerOf step.before step.label ≠ some tenure.holder →
      ¬ExpiredFor host step.before step.label record →
        step.after.files slot = step.before.files slot) ∧
    (∀ step ∈ history, Refuses host dir step.before step.label →
      step.after.files = step.before.files) ∧
    (∀ step ∈ history, ∀ first second, step.after.files first ≠ step.before.files first →
      step.after.files second ≠ step.before.files second → first = second) ∧
    (∀ call later second between first earlier,
      history = later ++ second :: (between ++ first :: earlier) →
      advances first.label = some call → advances second.label = some call →
      (∀ step ∈ between, ¬Starts call step.label) →
      first.after.files ≠ first.before.files →
        second.after.files = second.before.files ∧
          ¬Refuses host dir second.before second.label) := by
  refine ⟨?_, ?_, ?_, ?_⟩
  · intro step hstep slot record tenure hstored htenure hother hunexpired
    rw [hrun.after_eq step hstep]
    by_contra hwritten
    obtain ⟨found, hfound, hentitled⟩ := entitled_of_written hwritten
    obtain rfl := Option.some.inj (hfound.symm.trans hstored)
    exact (hentitled tenure htenure).elim hother hunexpired
  · intro step hstep hrefused
    rw [hrun.after_eq step hstep]
    exact refused_unchanged hrefused
  · exact fun step hstep first second => touched_unique (hrun.after_eq step hstep)
  · intro call later second between first earlier hsplit hfirst hsecond hidle hwritten
    have hbefore := hrun.earlier hsplit
    have hafter := hbefore.after_eq first (by simp)
    have hended : first.after.calls call = none := by
      rw [hafter] at hwritten ⊢
      exact visit_ends hfirst hwritten
    have hover := calls_none_of_run hbefore rfl hended hidle
    rw [hrun.after_eq second (by simp [hsplit])]
    exact visit_over hsecond hover

end Runs

/-- A runner takes a slot, and another asks for it without a name. -/
def refusedAcquire : List Operation :=
  let around := Surroundings.calm (.ofInt 1767225600000)
  let options : LeaseOptions := { skewMs := none }
  [.acquire (js "job") (js "runner-a") (.ofNat 60) options around,
    .acquire (js "job") [] (.ofNat 60) options around]

def refusedAcquireRun : List (Step Pool Operation) × Pool :=
  play (next plainHost (js "/leases")) [] Pool.empty refusedAcquire

theorem leases_exclude_refusedAcquire :
    refusedAcquireRun.2.files = (next plainHost (js "/leases") Pool.empty
      (refusedAcquire.head (by decide))).files := by
  have hrun : Run (next plainHost (js "/leases")) Pool.empty refusedAcquireRun.1
    refusedAcquireRun.2 := Run.nil.play refusedAcquire
  exact (leases_exclude hrun).2.1 _ List.mem_cons_self ⟨_, rfl⟩

end OdinSentinel.Lease
