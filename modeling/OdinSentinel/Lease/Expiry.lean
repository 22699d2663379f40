import OdinSentinel.Core.Instant
import OdinSentinel.Lease.Atomicity

/-!
# What a lease writes

A body that grants or refreshes a tenure writes the instant at which it runs out; the
reader accepts the record, and reads that instant.
-/

namespace OdinSentinel.Lease

open JsText Host Fallible Transition

variable {host : HostRuntime} {dir slot holder : JsString} {token ttlSeconds clock : JsNumber}
  {options : LeaseOptions} {record next : LeaseRecord}

/-! ## Instants -/

/-- The instant at which a tenure of some seconds from now runs out, if a date can hold it. -/
def expiresAtMs (clock ttlSeconds : JsNumber) : Option Int :=
  clipTime (clock.plus (ttlSeconds.mul (.ofNat 1000)))

theorem iso_ok (hhost : LawfulInstants host) {ms : JsNumber} {text : JsString}
    (hiso : iso host ms = .ok text) : ∃ instant, clipTime ms = some instant ∧
      host.dateParse text = some instant := by
  rw [iso] at hiso
  split at hiso
  · rename_i printed hprinted
    obtain rfl := Except.ok.inj hiso
    cases hclip : clipTime ms with
    | none =>
        rw [(hhost.printed ms).mpr hclip] at hprinted
        cases hprinted
    | some instant => exact ⟨instant, rfl, (hhost.reread ms printed hprinted).trans hclip⟩
  · cases hiso

theorem iso_of_clip (hhost : LawfulInstants host) {ms : JsNumber} {instant : Int}
    (hclip : clipTime ms = some instant) : ∃ text, iso host ms = .ok text := by
  cases hprinted : host.toISOString ms with
  | none =>
      rw [(hhost.printed ms).mp hprinted] at hclip
      cases hclip
  | some text => exact ⟨text, by rw [iso, hprinted]⟩

theorem iso_of_clip_none (hhost : LawfulInstants host) {ms : JsNumber}
    (hclip : clipTime ms = none) : iso host ms = .error .rangeError := by
  rw [iso, (hhost.printed ms).mpr hclip]

/-! ## Written records -/

/-- A written record is of the same slot, and its tenure runs out when the seconds are over. -/
structure Dated (host : HostRuntime) (ttlSeconds clock : JsNumber) (record next : LeaseRecord) :
    Prop where
  slot : next.slot = record.slot
  tenure : ∃ tenure, next.tenure = some tenure ∧
    expiryOf host clock ttlSeconds = .ok tenure.expiresAt

theorem acquireBody_dated {result : LeaseResult AcquireResult}
    (hbody : acquireBody host slot holder ttlSeconds options clock record =
      .ok (result, some next)) : Dated host ttlSeconds clock record next := by
  rw [acquireBody] at hbody
  obtain ⟨expiresAt, hexpiry, hbody⟩ := do_eq_ok.mp hbody
  split at hbody
  · obtain ⟨acquiredAt, -, hbody⟩ := do_eq_ok.mp hbody
    obtain ⟨-, hnext⟩ := Prod.mk.inj (Except.ok.inj hbody)
    obtain rfl := Option.some.inj hnext
    exact ⟨rfl, _, rfl, hexpiry⟩
  · rename_i tenure _
    by_cases hholder : tenure.holder = holder
    · rw [if_pos hholder] at hbody
      obtain ⟨acquiredAt, -, hbody⟩ := do_eq_ok.mp hbody
      obtain ⟨-, hnext⟩ := Prod.mk.inj (Except.ok.inj hbody)
      obtain rfl := Option.some.inj hnext
      exact ⟨rfl, _, rfl, hexpiry⟩
    · rw [if_neg hholder] at hbody
      by_cases hexpired : isExpired host record clock (skewMs options) = true
      · rw [if_pos hexpired] at hbody
        obtain ⟨acquiredAt, -, hbody⟩ := do_eq_ok.mp hbody
        obtain ⟨-, hnext⟩ := Prod.mk.inj (Except.ok.inj hbody)
        obtain rfl := Option.some.inj hnext
        exact ⟨rfl, _, rfl, hexpiry⟩
      · rw [if_neg hexpired] at hbody
        cases hbody

theorem anyBody_dated {phase : Phase} {result : LeaseResult SlotTry}
    (hbody : anyBody host phase holder ttlSeconds options clock record =
      .ok (result, some next)) : Dated host ttlSeconds clock record next := by
  cases phase with
  | own => cases (ownBody_cases hbody).1
  | grant =>
      change grantBody _ _ _ _ _ _ = _ at hbody
      rw [grantBody] at hbody
      obtain ⟨expiresAt, hexpiry, hbody⟩ := do_eq_ok.mp hbody
      dsimp only at hbody
      split at hbody
      · obtain ⟨acquiredAt, -, hbody⟩ := do_eq_ok.mp hbody
        obtain ⟨-, hnext⟩ := Prod.mk.inj (Except.ok.inj hbody)
        obtain rfl := Option.some.inj hnext
        exact ⟨rfl, _, rfl, hexpiry⟩
      · split at hbody
        · cases hbody
        · cases hbody

theorem renewBody_dated {result : LeaseResult LeaseRecord}
    (hbody : renewBody host slot holder token ttlSeconds options clock record =
      .ok (result, some next)) : Dated host ttlSeconds clock record next := by
  rw [renewBody] at hbody
  split at hbody
  · cases hbody
  · split at hbody
    · cases hbody
    · obtain ⟨acquiredAt, -, hbody⟩ := do_eq_ok.mp hbody
      obtain ⟨expiresAt, hexpiry, hbody⟩ := do_eq_ok.mp hbody
      obtain ⟨-, hnext⟩ := Prod.mk.inj (Except.ok.inj hbody)
      obtain rfl := Option.some.inj hnext
      exact ⟨rfl, _, rfl, hexpiry⟩

/-- A record with an expiry that is a date reads back as itself. -/
theorem storedRecord_of_dated (hslot : next.slot = slot)
    (htenure : ∀ tenure, next.tenure = some tenure →
      (host.dateParse tenure.expiresAt).isSome = true) :
    storedRecord host slot (.json next.toJson) = some next := by
  have hfield : next.toJson.field (js "slot") = .string next.slot := rfl
  have hschema : next.toJson.field (js "schema_version") = .string leaseSchemaVersion := rfl
  have htoken : next.toJson.field (js "token") = .number (.ofNat next.token) := rfl
  have hholder : next.toJson.field (js "holder") = .ofNullable next.holder := rfl
  have hacquired : next.toJson.field (js "acquired_at") = .ofNullable next.acquiredAt := rfl
  have hexpires : next.toJson.field (js "expires_at") = .ofNullable next.expiresAt := rfl
  have htenureOf : tenureOf host (.ofNullable next.holder) (.ofNullable next.acquiredAt)
      (.ofNullable next.expiresAt) = some next.tenure := by
    cases hstored : next.tenure with
    | none =>
        simp only [LeaseRecord.holder, LeaseRecord.acquiredAt, LeaseRecord.expiresAt, hstored]
        rfl
    | some tenure =>
        simp only [LeaseRecord.holder, LeaseRecord.acquiredAt, LeaseRecord.expiresAt, hstored,
          Option.map_some, JsValue.ofNullable, tenureOf, htenure tenure hstored, if_true]
  change isRecord host next.toJson slot = some next
  rw [isRecord]
  rw [hfield, hschema, htoken, hholder, hacquired, hexpires, tokenOf_ofNat, htenureOf, hslot,
    if_pos ⟨rfl, rfl⟩, ← hslot]

/-- What a dated write leaves: the reader takes it, and it runs out at its instant. -/
theorem Dated.stored (hhost : LawfulInstants host)
    (hdated : Dated host ttlSeconds clock record next) (hslot : record.slot = slot) :
    storedRecord host slot (.json next.toJson) = some next ∧
      ∃ instant, expiresAtMs clock ttlSeconds = some instant ∧ ∀ now skew : JsNumber,
        isExpired host next now skew = ((JsNumber.ofInt instant).plus skew).le now := by
  obtain ⟨tenure, htenure, hexpiry⟩ := hdated.tenure
  obtain ⟨instant, hclip, hparse⟩ := iso_ok hhost hexpiry
  refine ⟨?_, instant, hclip, ?_⟩
  · apply storedRecord_of_dated (hdated.slot.trans hslot)
    intro found hfound
    obtain rfl := Option.some.inj (htenure.symm.trans hfound)
    rw [hparse]
    rfl
  · intro now skew
    simp only [isExpired, htenure, hparse]

/-- A record that was read is of its slot. -/
theorem storedRecord_slot {file : LeaseFile} (hstored : storedRecord host slot file = some record) :
    record.slot = slot := by
  unfold storedRecord at hstored
  split at hstored
  · cases hstored
    rfl
  · cases hstored
  · rw [isRecord] at hstored
    split at hstored
    · split at hstored
      · cases hstored
        rfl
      · cases hstored
    · cases hstored

end OdinSentinel.Lease
