import OdinSentinel.Core.Fencing
import OdinSentinel.Lease.Pool

/-!
# Fencing tokens fence

Seen from one slot, every step of a pool is a move of a fenced register: it
stays, it is granted under the next token, or it is released.  The history of a
slot from its missing record is therefore a trace of that register.
-/

namespace OdinSentinel.Lease

open JsText Host Fallible Transition Fencing

/-- The register that a record carries. -/
def LeaseRecord.register (record : LeaseRecord) : Register JsString :=
  ⟨record.token, record.holder⟩

/-- The token and holder that a record file stores. -/
def LeaseFile.register : LeaseFile → Register JsString
  | .json value =>
      ⟨(tokenOf (value.field (js "token"))).getD 0, (value.field (js "holder")).asString⟩
  | _ => unheld

@[simp]
theorem tokenOf_ofNat (token : Nat) : tokenOf (.number (.ofNat token)) = some token := by
  simp [tokenOf, JsNumber.ofNat]

@[simp]
theorem asString_ofNullable (text : Option JsString) :
    (JsValue.ofNullable text).asString = text := by
  cases text <;> rfl

@[simp]
theorem register_toJson (record : LeaseRecord) :
    (LeaseFile.json record.toJson).register = record.register := by
  have htoken : record.toJson.field (js "token") = .number (.ofNat record.token) := rfl
  have hholder : record.toJson.field (js "holder") = .ofNullable record.holder := rfl
  simp [LeaseFile.register, LeaseRecord.register, htoken, hholder]

variable {host : HostRuntime} {dir slot holder : JsString}

theorem tenureOf_holder {holderValue acquiredValue expiresValue : JsValue}
    {tenure : Option Tenure}
    (htenure : tenureOf host holderValue acquiredValue expiresValue = some tenure) :
    holderValue.asString = tenure.map Tenure.holder := by
  unfold tenureOf at htenure
  split at htenure
  · cases htenure
    rfl
  · split at htenure
    · cases htenure
      rfl
    · cases htenure
  · cases htenure

theorem isRecord_register {value : JsValue} {record : LeaseRecord}
    (hrecord : isRecord host value slot = some record) :
    (LeaseFile.json value).register = record.register := by
  rw [isRecord] at hrecord
  split at hrecord
  · split at hrecord
    · rename_i token tenure htoken htenure
      cases hrecord
      simp [LeaseFile.register, LeaseRecord.register, LeaseRecord.holder, htoken,
        tenureOf_holder htenure]
    · cases hrecord
  · cases hrecord

/-- What the reader returns is what the file stores. -/
theorem readLease_register {allow : AllowFile} {file : LeaseFile} {record : LeaseRecord}
    (hread : readLease host dir slot allow file = .ok record) :
    file.register = record.register := by
  unfold readLease at hread
  split at hread
  · cases hread
  · obtain ⟨-, -, hread⟩ := do_eq_ok.mp hread
    split at hread
    · cases hread
      rfl
    · cases hread
    · split at hread
      · rename_i hrecord
        cases hread
        exact isRecord_register hrecord
      · cases hread

/-! ## One step -/

@[simp]
theorem register_grant (record : LeaseRecord) (holder acquiredAt expiresAt : JsString) :
    (record.grant holder acquiredAt expiresAt).register = ⟨record.token + 1, some holder⟩ := rfl

@[simp]
theorem register_free (record : LeaseRecord) : record.free.register = ⟨record.token, none⟩ := rfl

theorem register_refresh {record : LeaseRecord} {tenure : Tenure}
    (htenure : record.tenure = some tenure) (acquiredAt expiresAt : JsString) :
    (record.refresh tenure acquiredAt expiresAt).register = record.register := by
  simp [LeaseRecord.register, LeaseRecord.refresh, LeaseRecord.holder, htenure]

/-- A body relates the register of the record it reads to the one it writes. -/
def Respects {α : Type} (relation : Register JsString → Register JsString → Prop)
    (body : LeaseRecord → Except Thrown (Answer α)) : Prop :=
  ∀ record result next, body record = .ok (result, some next) →
    relation record.register next.register

variable {token ttlSeconds clock : JsNumber} {options : LeaseOptions}

theorem acquireBody_moves :
    Respects Move (acquireBody host slot holder ttlSeconds options clock) := by
  intro record result next hbody
  rcases acquireBody_cases hbody with ⟨acquiredAt, expiresAt, _, -, hwrite, -⟩ |
    ⟨tenure, acquiredAt, expiresAt, htenure, -, hwrite, -⟩ | ⟨_, -, -, -, hwrite, -⟩
  · cases hwrite
    exact Move.grant record.register holder
  · cases hwrite
    rw [register_refresh htenure]
    exact Move.stay _
  · cases hwrite

theorem renewBody_moves :
    Respects Move (renewBody host slot holder token ttlSeconds options clock) := by
  intro record result next hbody
  obtain ⟨tenure, acquiredAt, expiresAt, htenure, -, -, -, rfl⟩ := renewBody_write hbody
  rw [register_refresh htenure]
  exact Move.stay _

theorem releaseBody_moves :
    Respects Move (releaseBody host slot holder token) := by
  intro record result next hbody
  obtain ⟨_, -, -, -, rfl⟩ := releaseBody_write hbody
  exact Move.release record.register

theorem anyBody_moves {phase : Phase} :
    Respects Move (anyBody host phase holder ttlSeconds options clock) := by
  intro record result next hbody
  cases phase with
  | own => cases (ownBody_cases hbody).1
  | grant =>
      rcases grantBody_cases hbody with ⟨acquiredAt, expiresAt, -, hwrite, -⟩ |
        ⟨-, -, hwrite, -⟩ | ⟨-, -, -, hwrite, -⟩
      · cases hwrite
        exact Move.grant record.register holder
      · cases hwrite
      · cases hwrite

/-- The token is the same on both sides. -/
def SameToken (before after : Register JsString) : Prop := after.token = before.token

theorem releaseBody_keeps : Respects SameToken (releaseBody host slot holder token) := by
  intro record result next hbody
  obtain ⟨_, -, -, -, rfl⟩ := releaseBody_write hbody
  rfl

section Locked

variable {α : Type} {body : LeaseRecord → Except Thrown (Answer α)}
variable {relation : Register JsString → Register JsString → Prop}

theorem withSlotLock_respects (hbody : Respects relation body)
    (hrefl : ∀ register, relation register register) (around : Surroundings) (file : LeaseFile) :
    relation file.register (withSlotLock host dir slot around file body).2.register := by
  rcases withSlotLock_file host dir slot around file body with
    hfile | ⟨record, result, next, hread, hwrite, hfile⟩
  · rw [hfile]
    exact hrefl _
  · rw [hfile, register_toJson, readLease_register hread]
    exact hbody record result next hwrite

theorem guarded_respects (hbody : Respects relation body)
    (hrefl : ∀ register, relation register register) (check : LeaseResult Unit) (around : Surroundings)
    (file : LeaseFile) :
    relation file.register
      (guarded check file (withAllowedSlotLock host dir slot around file body)).2.register := by
  unfold guarded withAllowedSlotLock
  split
  · exact hrefl _
  · split
    · exact hrefl _
    · exact withSlotLock_respects hbody hrefl around file

end Locked

/-- The register of one slot of a pool. -/
def Pool.register (pool : Pool) (slot : JsString) : Register JsString :=
  (pool.files slot).register

theorem register_setFile {relation : Register JsString → Register JsString → Prop}
    (pool : Pool) {target : JsString} {file : LeaseFile}
    (hrelation : relation (pool.register target) file.register)
    (hrefl : ∀ register, relation register register) (slot : JsString) :
    relation (pool.register slot) ((pool.setFile target file).register slot) := by
  by_cases hslot : slot = target
  · subst hslot
    simpa [Pool.register] using hrelation
  · simpa [Pool.register, hslot] using hrefl (pool.register slot)

/-- Every step is a move of every slot's register. -/
theorem next_move (pool : Pool) (operation : Operation) (slot : JsString) :
    Move (pool.register slot) ((next host dir pool operation).register slot) := by
  cases operation with
  | acquire target holder ttlSeconds options around =>
      exact register_setFile pool (guarded_respects acquireBody_moves Move.stay _ around _) Move.stay _
  | acquireAny call slots holder ttlSeconds options allow =>
      simp only [next]
      split
      · exact Move.stay _
      · split
        · exact Move.stay _
        · exact Move.stay _
  | visit call around =>
      simp only [next]
      split
      · exact Move.stay _
      · refine register_setFile pool ?_ Move.stay slot
        rw [AnyCall.visit_file]
        exact withSlotLock_respects anyBody_moves Move.stay around _
  | renew target holder token ttlSeconds options around =>
      exact register_setFile pool (guarded_respects renewBody_moves Move.stay _ around _) Move.stay _
  | release target holder token around =>
      exact register_setFile pool (guarded_respects releaseBody_moves Move.stay _ around _) Move.stay _

/-- A release keeps every slot's token. -/
theorem release_token (pool : Pool) (target holder : JsString) (token : JsNumber)
    (around : Surroundings) (slot : JsString) :
    ((next host dir pool (.release target holder token around)).register slot).token =
      (pool.register slot).token :=
  register_setFile pool
    (guarded_respects releaseBody_keeps (fun _ => rfl) _ around _) (fun _ => rfl) slot

/-- A granted slot try reports the record that its slot is left with. -/
theorem anyBody_granted {phase : Phase} {record reported : LeaseRecord}
    {acquired tookOver : Bool} {write : Option LeaseRecord}
    (hbody : anyBody host phase holder ttlSeconds options clock record =
      .ok (.ok (.granted reported acquired tookOver), write)) :
    reported = write.getD record ∧ reported.holder = some holder := by
  cases phase with
  | own =>
      obtain ⟨rfl, ⟨hholder, -, hresult⟩ | ⟨-, _, _, hresult⟩⟩ := ownBody_cases hbody
      · cases hresult
        exact ⟨rfl, hholder⟩
      · cases hresult
  | grant =>
      rcases grantBody_cases hbody with ⟨acquiredAt, expiresAt, -, rfl, hresult⟩ |
        ⟨hholder, -, rfl, hresult⟩ | ⟨-, -, -, rfl, hresult⟩
      · cases hresult
        exact ⟨rfl, rfl⟩
      · cases hresult
        exact ⟨rfl, hholder⟩
      · cases hresult

theorem acquireBody_granted {record : LeaseRecord} {result : AcquireResult}
    {write : Option LeaseRecord}
    (hbody : acquireBody host slot holder ttlSeconds options clock record =
      .ok (.ok result, write)) :
    write = some result.record ∧ result.record.holder = some holder := by
  rcases acquireBody_cases hbody with ⟨acquiredAt, expiresAt, _, -, rfl, hresult⟩ |
    ⟨tenure, acquiredAt, expiresAt, htenure, hholder, rfl, hresult⟩ |
    ⟨_, -, -, -, -, hresult⟩
  · cases hresult
    exact ⟨rfl, rfl⟩
  · cases hresult
    exact ⟨rfl, by simp [LeaseRecord.holder, LeaseRecord.refresh, hholder]⟩
  · cases hresult

/-- A reported grant is what the slot's register holds after the step. -/
theorem granted_register {pool : Pool} {operation : Operation} {grant : Grant}
    (hgrant : granted host dir pool operation = some grant) :
    (next host dir pool operation).register grant.slot = grant.record.register ∧
      grant.record.holder = some grant.holder := by
  cases operation with
  | acquire slot holder ttlSeconds options around =>
      simp only [granted] at hgrant
      split at hgrant
      · rename_i result hreply
        cases hgrant
        have hcall := guarded_ok hreply
        rw [acquireLease] at hreply
        rw [hcall] at hreply
        obtain ⟨record, write, -, hbody, hfile⟩ := withSlotLock_ok hreply
        obtain ⟨rfl, hholder⟩ := acquireBody_granted hbody
        refine ⟨?_, hholder⟩
        simp [next, Pool.register, acquireLease, hcall, hfile]
      · cases hgrant
  | visit call around =>
      simp only [granted] at hgrant
      split at hgrant
      · cases hgrant
      · rename_i visiting hvisiting
        split at hgrant
        · rename_i result hreply
          cases hgrant
          obtain ⟨hslot, hlock⟩ := AnyCall.visit_granted hreply
          obtain ⟨record, write, hread, hbody, hfile⟩ := withSlotLock_ok hlock
          obtain ⟨hreported, hholder⟩ := anyBody_granted hbody
          refine ⟨?_, hholder⟩
          have hregister : ((visiting.visit host dir around
              (pool.files visiting.current)).2).register = result.record.register := by
            rw [AnyCall.visit_file, hfile, hreported]
            cases write with
            | none => exact readLease_register hread
            | some next => exact register_toJson next
          simpa [next, Pool.register, hvisiting, hslot] using hregister
        · cases hgrant
  | acquireAny => cases hgrant
  | renew => cases hgrant
  | release => cases hgrant

/-- The slot and token that a renew or a release presents. -/
def presents : Operation → Option (JsString × JsNumber)
  | .renew slot _ token _ _ _ => some (slot, token)
  | .release slot _ token _ => some (slot, token)
  | _ => none

/-- A body that writes only when its record carries the presented token leaves
the file of any other token alone. -/
theorem guarded_unchanged {α : Type} {body : LeaseRecord → Except Thrown (Answer α)}
    (hbody : ∀ record result next, body record = .ok (result, some next) →
      JsNumber.ofNat record.token = token)
    (check : LeaseResult Unit) (around : Surroundings) (file : LeaseFile)
    (htoken : JsNumber.ofNat file.register.token ≠ token) :
    (guarded check file (withAllowedSlotLock host dir slot around file body)).2 = file := by
  unfold guarded withAllowedSlotLock
  split
  · rfl
  · split
    · rfl
    · rcases withSlotLock_file host dir slot around file body with
        hfile | ⟨record, result, next, hread, hwrite, -⟩
      · exact hfile
      · rw [readLease_register hread] at htoken
        exact absurd (hbody record result next hwrite) htoken

/-- A renew or release presented with another token than the slot's is void. -/
theorem presents_unchanged {pool : Pool} {operation : Operation}
    (hpresents : presents operation = some (slot, token))
    (htoken : JsNumber.ofNat (pool.register slot).token ≠ token) :
    (next host dir pool operation).files slot = pool.files slot := by
  cases operation with
  | renew target holder presented ttlSeconds options around =>
      cases hpresents
      rw [next, Pool.setFile_files_self]
      refine guarded_unchanged (fun record result next hbody => ?_) _ around _ htoken
      obtain ⟨_, _, _, -, -, htokens, -, -⟩ := renewBody_write hbody
      exact htokens
  | release target holder presented around =>
      cases hpresents
      rw [next, Pool.setFile_files_self]
      refine guarded_unchanged (fun record result next hbody => ?_) _ around _ htoken
      obtain ⟨_, -, -, htokens, -⟩ := releaseBody_write hbody
      exact htokens
  | acquire => cases hpresents
  | acquireAny => cases hpresents
  | visit => cases hpresents

/-! ## Whole histories -/

/-- The registers a slot went through form a trace. -/
theorem trace_of_run {history : List (Step Pool Operation)} {final : Pool}
    (hrun : Run (next host dir) Pool.empty history final) (slot : JsString) :
    Trace ((visited history final).map (fun pool => pool.register slot)) := by
  induction hrun with
  | nil => exact Trace.start
  | step operation _ ih => exact Trace.move ih (next_move _ operation slot)

/-- `holder` held `slot` under `token` at some moment of a history. -/
def HeldUnder (history : List (Step Pool Operation)) (final : Pool) (slot : JsString)
    (token : Nat) (holder : JsString) : Prop :=
  ∃ pool ∈ visited history final, pool.register slot = ⟨token, some holder⟩

theorem heldUnder_iff {history : List (Step Pool Operation)} {final : Pool} {token : Nat} :
    HeldUnder history final slot token holder ↔
      (⟨token, some holder⟩ : Register JsString) ∈
        (visited history final).map (fun pool => pool.register slot) := by
  simp [HeldUnder]

/-- No step lowers a slot's token. -/
theorem token_le_next (pool : Pool) (operation : Operation) (slot : JsString) :
    (pool.register slot).token ≤ ((next host dir pool operation).register slot).token :=
  (next_move pool operation slot).token_le

/-- In a run, a token that was granted is at most the token of every later pool. -/
theorem granted_token_le {history : List (Step Pool Operation)} {final : Pool}
    (hrun : Run (next host dir) Pool.empty history final)
    {step : Step Pool Operation} (hstep : step ∈ history) {grant : Grant}
    (hgrant : granted host dir step.before step.label = some grant) :
    grant.record.token ≤ (final.register grant.slot).token := by
  have hle := hrun.measure_le (fun pool => (pool.register grant.slot).token)
    (fun pool operation => token_le_next pool operation grant.slot) step hstep
  have hafter := hrun.after_eq step hstep
  have hregister := (granted_register hgrant).1
  rw [← hafter] at hregister
  simpa only [hregister, LeaseRecord.register] using hle

/-- Fencing tokens fence.  Over every interleaving from a pool without records:
no step lowers a token; every token issued was held by exactly one holder, and
only issued tokens were held; a grant to a new holder raises the token by one;
a release keeps it; and once a slot was granted under a later token, a renew or
release that presents an earlier one leaves the record file as it is. -/
theorem tokens_fence {history : List (Step Pool Operation)} {final : Pool}
    (hrun : Run (next host dir) Pool.empty history final) (slot : JsString) :
    (∀ step ∈ history, (step.before.register slot).token ≤ (step.after.register slot).token) ∧
    (∀ token, 1 ≤ token → token ≤ (final.register slot).token →
      ∃! holder, HeldUnder history final slot token holder) ∧
    (∀ token holder, HeldUnder history final slot token holder →
      1 ≤ token ∧ token ≤ (final.register slot).token) ∧
    (∀ step ∈ history, ∀ grant, granted host dir step.before step.label = some grant →
      grant.slot = slot → (step.before.register slot).holder ≠ some grant.holder →
        (step.after.register slot).token = (step.before.register slot).token + 1) ∧
    (∀ step ∈ history, ∀ target holder token around,
      step.label = .release target holder token around →
        (step.after.register slot).token = (step.before.register slot).token) ∧
    (∀ later step earlier, history = later ++ step :: earlier →
      ∀ token, presents step.label = some (slot, .ofNat token) →
        (∃ granting ∈ earlier, ∃ grant,
          granted host dir granting.before granting.label = some grant ∧
          grant.slot = slot ∧ token < grant.record.token) →
        step.after.files slot = step.before.files slot) := by
  have htrace := trace_of_run hrun slot
  refine ⟨?_, ?_, ?_, ?_, ?_, ?_⟩
  · intro step hstep
    rw [hrun.after_eq step hstep]
    exact token_le_next _ _ slot
  · intro token hlow hhigh
    have hunique := htrace.holder_unique.1 token hlow hhigh
    simp only [heldUnder_iff]
    exact hunique
  · intro token holder hheld
    rw [heldUnder_iff] at hheld
    refine ⟨?_, htrace.token_le _ hheld⟩
    by_contra hzero
    obtain rfl : token = 0 := by omega
    exact htrace.holder_unique.2 holder hheld
  · intro step hstep grant hgrant hslot hholder
    subst hslot
    obtain ⟨hregister, hgranted⟩ := granted_register hgrant
    rw [hrun.after_eq step hstep]
    refine (next_move step.before step.label grant.slot).token_of_holder_ne ?_ hholder
    rw [hregister]
    exact hgranted
  · intro step hstep target holder token around hlabel
    rw [hrun.after_eq step hstep, hlabel]
    exact release_token step.before target holder token around slot
  · rintro later step earlier hsplit token hpresents ⟨granting, hgranting, grant, hgrant, rfl, hlt⟩
    have hle := granted_token_le (hrun.earlier hsplit) hgranting hgrant
    rw [hrun.after_eq step (by simp [hsplit])]
    refine presents_unchanged hpresents ?_
    intro heq
    have htoken : (step.before.register grant.slot).token = token := by
      simpa [JsNumber.ofNat] using heq
    omega

/-- Two runners hand a slot over: the first takes it and gives it back, the
second takes it, and the first comes back late to renew under its old token. -/
def handover : List Operation :=
  let around := Surroundings.calm (.ofInt 1767225600000)
  let options : LeaseOptions := { skewMs := none }
  [.acquire (js "job") (js "runner-a") (.ofNat 60) options around,
    .release (js "job") (js "runner-a") (.ofNat 1) around,
    .acquire (js "job") (js "runner-b") (.ofNat 60) options around,
    .renew (js "job") (js "runner-a") (.ofNat 1) (.ofNat 60) options around]

theorem tokens_fence_handover :
    ∃! holder, HeldUnder (play (next plainHost (js "/leases")) [] Pool.empty handover).1
      (play (next plainHost (js "/leases")) [] Pool.empty handover).2 (js "job") 2 holder :=
  (tokens_fence (Run.nil.play handover) (js "job")).2.1 2 (by decide) (by decide +kernel)

end OdinSentinel.Lease
