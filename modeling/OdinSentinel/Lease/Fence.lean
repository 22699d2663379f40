import OdinSentinel.Lease.Expiry

/-!
# Fencing an action

An action that was performed under a lease is judged by the token that its slot stores.
Over a whole history that is the last token that a grant of the slot issued, or zero for
a slot that was never granted.
-/

namespace OdinSentinel.Lease

open JsText Host Fallible Transition Fencing

inductive FenceReason
  | current
  | superseded
  | unknown_token
  deriving DecidableEq

structure FenceVerdict where
  valid : Bool
  currentToken : Nat
  reason : FenceReason
  deriving DecidableEq

/-- The verdict on an action that carries a token; the allow-list is read twice. -/
def fenceAction (host : HostRuntime) (dir slot : JsString) (token : JsNumber)
    (allowBefore allowInside : AllowFile) (file : LeaseFile) : LeaseResult FenceVerdict := do
  ensureSlotAllowed allowBefore slot
  let record ← readLease host dir slot allowInside file
  let slotFence := record.token
  if token = .ofNat slotFence then
    .ok { valid := true, currentToken := slotFence, reason := .current }
  else if token.lt (.ofNat slotFence) then
    .ok { valid := false, currentToken := slotFence, reason := .superseded }
  else .ok { valid := false, currentToken := slotFence, reason := .unknown_token }

variable {host : HostRuntime} {dir slot holder : JsString} {token : JsNumber}
  {allowBefore allowInside : AllowFile} {file : LeaseFile} {verdict : FenceVerdict}

/-- An action is valid under the token that the file stores. -/
theorem fenceAction_valid
    (hfence : fenceAction host dir slot token allowBefore allowInside file = .ok verdict) :
    verdict.valid = true ↔ token = .ofNat file.register.token := by
  obtain ⟨-, -, hfence⟩ := do_eq_ok.mp hfence
  obtain ⟨record, hread, hfence⟩ := do_eq_ok.mp hfence
  have htoken : file.register.token = record.token :=
    congrArg Register.token (readLease_register hread)
  rw [htoken]
  dsimp only at hfence
  by_cases hcurrent : token = .ofNat record.token
  · rw [if_pos hcurrent] at hfence
    obtain rfl := Except.ok.inj hfence
    exact iff_of_true rfl hcurrent
  · rw [if_neg hcurrent] at hfence
    split at hfence
    all_goals
      obtain rfl := Except.ok.inj hfence
      exact iff_of_false Bool.false_ne_true hcurrent

/-- A fence answers where the slot may be used and its record can be read. -/
theorem exists_verdict {record : LeaseRecord} (hstored : storedRecord host slot file = some record)
    (hpattern : slotPattern slot = true) (hbefore : ensureSlotAllowed allowBefore slot = .ok ())
    (hinside : ensureSlotAllowed allowInside slot = .ok ()) :
    ∃ verdict, fenceAction host dir slot token allowBefore allowInside file = .ok verdict := by
  have hread : readLease host dir slot allowInside file = .ok record := by
    unfold readLease
    rw [if_neg (by simp [hpattern]), hinside]
    cases file with
    | absent =>
        cases hstored
        rfl
    | notJson message => cases hstored
    | json value =>
        have hrecord : isRecord host value slot = some record := hstored
        simp only [bind, Except.bind, hrecord]
  rw [fenceAction]
  rw [hbefore, hread]
  simp only [bind, Except.bind]
  split_ifs
  · exact ⟨_, rfl⟩
  · exact ⟨_, rfl⟩
  · exact ⟨_, rfl⟩

/-! ## Records stay readable -/

/-- The reader accepts the record of every slot. -/
def Readable (host : HostRuntime) (pool : Pool) : Prop :=
  ∀ slot, ∃ record, storedRecord host slot (pool.files slot) = some record

/-- What a body writes over a record of the slot can be read. -/
def WritesReadable {α : Type} (host : HostRuntime) (slot : JsString)
    (body : LeaseRecord → Except Thrown (Answer α)) : Prop :=
  ∀ file record result next, storedRecord host slot file = some record →
    body record = .ok (result, some next) →
    ∃ stored, storedRecord host slot (.json next.toJson) = some stored

theorem writesReadable_of_dated {α : Type} {ttlSeconds clock : JsNumber}
    {body : LeaseRecord → Except Thrown (Answer α)} (hhost : LawfulInstants host)
    (hbody : ∀ record result next, body record = .ok (result, some next) →
      Dated host ttlSeconds clock record next) : WritesReadable host slot body := by
  intro file record result next hstored hwrite
  exact ⟨next, ((hbody record result next hwrite).stored hhost (storedRecord_slot hstored)).1⟩

theorem releaseBody_writesReadable :
    WritesReadable host slot (releaseBody host slot holder token) := by
  intro file record result next hstored hwrite
  obtain ⟨tenure, htenure, -, -, rfl⟩ := releaseBody_write hwrite
  have hslot : record.slot = slot := storedRecord_slot hstored
  refine ⟨record.free, storedRecord_of_dated hslot ?_⟩
  intro found hfound
  cases hfound

theorem withSlotLock_readable {α : Type} {body : LeaseRecord → Except Thrown (Answer α)}
    (hbody : WritesReadable host slot body) (around : Surroundings)
    (hfile : ∃ record, storedRecord host slot file = some record) :
    ∃ record, storedRecord host slot (withSlotLock host dir slot around file body).2 =
      some record := by
  rcases withSlotLock_file host dir slot around file body with
    hsame | ⟨record, result, next, hread, hwrite, hnext⟩
  · rw [hsame]
    exact hfile
  · rw [hnext]
    exact hbody file record result next (readLease_stored hread) hwrite

theorem guarded_readable {α : Type} {body : LeaseRecord → Except Thrown (Answer α)}
    (hbody : WritesReadable host slot body) (check : LeaseResult Unit) (around : Surroundings)
    (hfile : ∃ record, storedRecord host slot file = some record) :
    ∃ record, storedRecord host slot
      (guarded check file (withAllowedSlotLock host dir slot around file body)).2 =
        some record := by
  unfold guarded withAllowedSlotLock
  split
  · exact hfile
  · split
    · exact hfile
    · exact withSlotLock_readable hbody around hfile

theorem setFile_readable {pool : Pool} (hpool : Readable host pool)
    (hfile : ∃ record, storedRecord host slot file = some record) :
    Readable host (pool.setFile slot file) := by
  intro other
  by_cases hother : other = slot
  · subst hother
    rw [Pool.setFile_files_self]
    exact hfile
  · rw [pool.setFile_files_of_ne file hother]
    exact hpool other

theorem next_readable (hhost : LawfulInstants host) {pool : Pool} (hpool : Readable host pool)
    (operation : Operation) : Readable host (next host dir pool operation) := by
  cases operation with
  | acquire target holder ttlSeconds options around =>
      apply setFile_readable hpool
      apply guarded_readable _ _ around (hpool target)
      exact writesReadable_of_dated hhost fun _ _ _ => acquireBody_dated
  | acquireAny call slots holder ttlSeconds options allow =>
      rw [next]
      split
      · exact hpool
      · split
        · exact hpool
        · exact hpool
  | visit call around =>
      rw [next]
      split
      · exact hpool
      · rename_i visiting _
        apply setFile_readable hpool
        rw [AnyCall.visit_file]
        apply withSlotLock_readable _ around (hpool visiting.current)
        exact writesReadable_of_dated hhost fun _ _ _ => anyBody_dated
  | renew target holder token ttlSeconds options around =>
      apply setFile_readable hpool
      apply guarded_readable _ _ around (hpool target)
      exact writesReadable_of_dated hhost fun _ _ _ => renewBody_dated
  | release target holder token around =>
      apply setFile_readable hpool
      exact guarded_readable releaseBody_writesReadable _ around (hpool target)

variable {history : List (Step Pool Operation)} {final : Pool}

theorem run_readable (hhost : LawfulInstants host)
    (hrun : Run (next host dir) Pool.empty history final) : Readable host final := by
  induction hrun with
  | nil => exact fun slot => ⟨emptyRecord slot, rfl⟩
  | step operation _ ih => exact next_readable hhost ih operation

/-! ## Tokens are issued by grants -/

theorem renewBody_keeps {ttlSeconds clock : JsNumber} {options : LeaseOptions} :
    Respects SameToken (renewBody host slot holder token ttlSeconds options clock) := by
  intro record result next hbody
  obtain ⟨tenure, acquiredAt, expiresAt, htenure, -, -, -, rfl⟩ := renewBody_write hbody
  rfl

/-- A step that changes a slot's token reports its grant. -/
theorem granted_of_token_ne {pool : Pool} {operation : Operation}
    (hne : ((next host dir pool operation).register slot).token ≠ (pool.register slot).token) :
    ∃ grant, granted host dir pool operation = some grant ∧ grant.slot = slot := by
  have hfiles : (next host dir pool operation).files slot ≠ pool.files slot := by
    intro hsame
    exact hne (congrArg (fun file => (LeaseFile.register file).token) hsame)
  have htarget := targetOf_of_ne host dir hfiles
  cases operation with
  | acquire target holder ttlSeconds options around =>
      obtain rfl := Option.some.inj htarget
      rw [next, Pool.setFile_files_self] at hfiles
      obtain ⟨record, result, next, -, hbody, hreply⟩ := guarded_written hfiles
      obtain ⟨value, rfl⟩ := acquireBody_success record result next hbody
      refine ⟨{ slot := target, holder, record := value.record }, ?_, rfl⟩
      simp only [granted, acquireLease, hreply]
  | acquireAny => cases htarget
  | visit call around =>
      obtain ⟨visiting, hvisiting, rfl⟩ := Option.map_eq_some_iff.mp htarget
      simp only [next, hvisiting, Pool.setCall_files, Pool.setFile_files_self] at hfiles
      obtain ⟨record, result, -, -, hreply⟩ := visit_written hfiles
      refine ⟨{ slot := result.slot, holder := visiting.holder, record := result.record }, ?_,
        (AnyCall.visit_granted hreply).1⟩
      simp only [granted, hvisiting, hreply]
  | renew target holder presented ttlSeconds options around =>
      exact absurd (register_setFile pool
        (guarded_respects renewBody_keeps (fun _ => rfl) _ around _) (fun _ => rfl) slot) hne
  | release target holder presented around =>
      exact absurd (release_token pool target holder presented around slot) hne

/-- Some grant of the slot stands in the history. -/
def WasGranted (host : HostRuntime) (dir : JsString) (history : List (Step Pool Operation))
    (slot : JsString) : Prop :=
  ∃ step ∈ history, ∃ grant, granted host dir step.before step.label = some grant ∧
    grant.slot = slot

/-- A grant of the slot issued the token, and no later grant of it issued a higher one. -/
def IssuedLast (host : HostRuntime) (dir : JsString) (history : List (Step Pool Operation))
    (slot : JsString) (token : JsNumber) : Prop :=
  ∃ later step earlier grant, history = later ++ step :: earlier ∧
    granted host dir step.before step.label = some grant ∧ grant.slot = slot ∧
    JsNumber.ofNat grant.record.token = token ∧
    ∀ other ∈ later, ∀ higher, granted host dir other.before other.label = some higher →
      higher.slot = slot → higher.record.token ≤ grant.record.token

/-- The step reports a grant of the slot. -/
def Grants (host : HostRuntime) (dir slot : JsString) (pool : Pool) (operation : Operation) :
    Prop :=
  ∃ grant, granted host dir pool operation = some grant ∧ grant.slot = slot

/-- A slot's token is zero where it was never granted, and was issued by a grant elsewhere. -/
theorem token_issued (hrun : Run (next host dir) Pool.empty history final) (slot : JsString) :
    (¬WasGranted host dir history slot ∧ (final.register slot).token = 0) ∨
      ∃ later step earlier grant, history = later ++ step :: earlier ∧
        granted host dir step.before step.label = some grant ∧ grant.slot = slot ∧
        grant.record.token = (final.register slot).token := by
  have hkeeps : ∀ pool operation, ¬Grants host dir slot pool operation →
      ((next host dir pool operation).register slot).token = (pool.register slot).token := by
    intro pool operation hnone
    by_contra hne
    exact hnone (granted_of_token_ne hne)
  rcases hrun.value_of_last (fun pool => (pool.register slot).token) _ hkeeps with
    ⟨hnone, hzero⟩ | ⟨later, step, earlier, hsplit, ⟨grant, hgrant, hslot⟩, htoken⟩
  · refine .inl ⟨?_, hzero⟩
    rintro ⟨step, hstep, hgrants⟩
    exact hnone step hstep hgrants
  · refine .inr ⟨later, step, earlier, grant, hsplit, hgrant, hslot, ?_⟩
    have hregister := (granted_register hgrant).1
    rw [← hrun.after_eq step (by simp [hsplit]), hslot] at hregister
    rw [htoken, hregister]
    rfl

/-- For a slot that was granted, the token issued last is the stored one. -/
theorem issuedLast_iff (hrun : Run (next host dir) Pool.empty history final)
    (hgranted : WasGranted host dir history slot) :
    IssuedLast host dir history slot token ↔ token = .ofNat (final.register slot).token := by
  have hissued := (token_issued hrun slot).resolve_left fun hnever => hnever.1 hgranted
  obtain ⟨later, step, earlier, grant, hsplit, hgrant, hslot, htoken⟩ := hissued
  have hmost : ∀ other ∈ history, ∀ higher, granted host dir other.before other.label =
      some higher → higher.slot = slot → higher.record.token ≤ (final.register slot).token := by
    rintro other hother higher hhigher rfl
    exact granted_token_le hrun hother hhigher
  constructor
  · rintro ⟨after, last, before, issued, hsplit', hissued, hslot', rfl, hnohigher⟩
    -- the grant that set the stored token is this one or a later one; an earlier one is no higher
    have hlast : last ∈ history := by simp [hsplit']
    have hle := hmost last hlast issued hissued hslot'
    have hge : grant.record.token ≤ issued.record.token := by
      have hmem : step ∈ after ++ last :: before := by simp [← hsplit', hsplit]
      rcases List.mem_append.mp hmem with hlater | hmem
      · exact hnohigher step hlater grant hgrant hslot
      · rcases List.mem_cons.mp hmem with rfl | hearlier
        · obtain rfl := Option.some.inj (hgrant.symm.trans hissued)
          exact le_refl _
        · have hbefore := granted_token_le (hrun.earlier hsplit') hearlier hgrant
          rw [hslot, ← hslot'] at hbefore
          have hstep := @token_le_next host dir last.before last.label issued.slot
          rw [(granted_register hissued).1] at hstep
          exact hbefore.trans hstep
    rw [show issued.record.token = (final.register slot).token by omega]
  · rintro rfl
    refine ⟨later, step, earlier, grant, hsplit, hgrant, hslot, by rw [htoken], ?_⟩
    intro other hother higher hhigher hslot'
    rw [htoken]
    exact hmost other (by simp [hsplit, hother]) higher hhigher hslot'

/-- Over every history from no records: a fence answers wherever the slot may be used, and
its verdict is that of the grants, valid just for the token issued last, unless token zero
is presented for a slot that was never granted. -/
theorem fence_valid_iff (hhost : LawfulInstants host)
    (hrun : Run (next host dir) Pool.empty history final) (slot : JsString) (token : JsNumber)
    (allowBefore allowInside : AllowFile) :
    (slotPattern slot = true → ensureSlotAllowed allowBefore slot = .ok () →
      ensureSlotAllowed allowInside slot = .ok () →
      ∃ verdict, fenceAction host dir slot token allowBefore allowInside (final.files slot) =
        .ok verdict) ∧
    ∀ verdict, fenceAction host dir slot token allowBefore allowInside (final.files slot) =
        .ok verdict →
      ((verdict.valid = true ↔ IssuedLast host dir history slot token) ↔
        token ≠ .ofNat 0 ∨ WasGranted host dir history slot) := by
  constructor
  · intro hpattern hbefore hinside
    obtain ⟨record, hstored⟩ := run_readable hhost hrun slot
    exact exists_verdict hstored hpattern hbefore hinside
  · intro verdict hfence
    rw [fenceAction_valid hfence]
    by_cases hgranted : WasGranted host dir history slot
    · rw [issuedLast_iff hrun hgranted]
      exact iff_of_true Iff.rfl (.inr hgranted)
    · have hnever : ¬IssuedLast host dir history slot token := by
        rintro ⟨later, step, earlier, grant, hsplit, hgrant, hslot, -⟩
        exact hgranted ⟨step, by simp [hsplit], grant, hgrant, hslot⟩
      have hzero : (final.files slot).register.token = 0 :=
        ((token_issued hrun slot).resolve_right fun hissued => hgranted (by
          obtain ⟨later, step, earlier, grant, hsplit, hgrant, hslot, -⟩ := hissued
          exact ⟨step, by simp [hsplit], grant, hgrant, hslot⟩)).2
      rw [hzero]
      simp only [hnever, hgranted, iff_false, or_false, ne_eq]

theorem fence_valid_iff_handover :
    ∃ verdict, fenceAction isoHost (js "/leases") (js "job") (.ofNat 2) .absent .absent
        ((play (next isoHost (js "/leases")) [] Pool.empty handover).2.files (js "job")) =
          .ok verdict ∧
      (verdict.valid = true ↔ IssuedLast isoHost (js "/leases")
        (play (next isoHost (js "/leases")) [] Pool.empty handover).1 (js "job") (.ofNat 2)) := by
  have hrun : Run (next isoHost (js "/leases")) Pool.empty
      (play (next isoHost (js "/leases")) [] Pool.empty handover).1
      (play (next isoHost (js "/leases")) [] Pool.empty handover).2 := Run.nil.play handover
  have hfence := fence_valid_iff isoHost_lawful hrun (js "job") (.ofNat 2) .absent .absent
  obtain ⟨verdict, hverdict⟩ := hfence.1 (by decide) rfl rfl
  exact ⟨verdict, hverdict, (hfence.2 verdict hverdict).mpr (.inl (by decide))⟩

/-- Token zero passes the fence of a slot that nobody ever acquired. -/
theorem neverAcquired_valid : ¬∀ host dir history final slot token allowBefore allowInside verdict,
    LawfulInstants host → Run (next host dir) Pool.empty history final →
    fenceAction host dir slot token allowBefore allowInside (final.files slot) = .ok verdict →
    (verdict.valid = true ↔ IssuedLast host dir history slot token) := by
  intro hvalid
  have hissued := (hvalid isoHost (js "/leases") [] Pool.empty (js "job") (.ofNat 0) .absent .absent
    ⟨true, 0, .current⟩ isoHost_lawful .nil (by decide)).mp rfl
  obtain ⟨later, step, earlier, grant, hsplit, -⟩ := hissued
  simp at hsplit

end OdinSentinel.Lease
