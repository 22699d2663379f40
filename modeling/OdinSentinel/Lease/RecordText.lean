import OdinSentinel.Core.JsonIndented
import OdinSentinel.Lease.Store

/-!
# The text of a record

The text that is written for a lease record is read as that record.
-/

namespace OdinSentinel.Lease.Store

open JsText Host Json

variable {host : HostRuntime}

/-- What is written for a record. -/
def recordText (host : HostRuntime) (record : LeaseRecord) : JsString :=
  stringifyIndented host
    [(js "schema_version", .string leaseSchemaVersion), (js "slot", .string record.slot),
      (js "token", .number (.ofNat record.token)), (js "holder", .ofNullable record.holder),
      (js "acquired_at", .ofNullable record.acquiredAt),
      (js "expires_at", .ofNullable record.expiresAt)] ++ js "\n"

/-- An object's members, none of which holds another. -/
def Scalar : JsValue → Prop
  | .undefined | .array _ | .object _ => False
  | .null | .bool _ | .number _ | .string _ => True

theorem indentedAt_scalar {value : JsValue} (hvalue : Scalar value) (depth : Nat) :
    indentedAt host depth value = stringify host value := by
  cases value with
  | undefined | array | object => exact hvalue.elim
  | null | bool | number | string => rw [indentedAt] <;> nofun

theorem fieldsAt_scalar {fields : List (JsString × JsValue)}
    (hfields : ∀ field ∈ fields, Scalar field.2) :
    fieldsAt host 1 fields = fields.map fun field =>
      js "\n  " ++ quote field.1 ++ js ": " ++ stringify host field.2 := by
  induction fields with
  | nil => rw [fieldsAt, List.map_nil]
  | cons field fields ih =>
      obtain ⟨name, value⟩ := field
      have hvalue := hfields (name, value) List.mem_cons_self
      have hrest := ih fun other hother => hfields other (List.mem_cons_of_mem _ hother)
      rw [List.map_cons, ← hrest]
      cases value with
      | undefined | array | object => exact hvalue.elim
      | null | bool | number | string =>
          rw [fieldsAt, indentedAt_scalar hvalue]
          · simp only [List.append_assoc]
            rfl
          · nofun

theorem stringifyIndented_scalar {field : JsString × JsValue}
    {fields : List (JsString × JsValue)} (hfields : ∀ other ∈ field :: fields, Scalar other.2) :
    stringifyIndented host (field :: fields) = indentedText host (.object (field :: fields)) := by
  have htexts := @fieldsAt_scalar host _ hfields
  rw [List.map_cons] at htexts
  rw [indentedText, indentedAt, htexts]
  rfl

/-! ## Records -/

theorem plain_ofNullable (text : Option JsString) : Plain (.ofNullable text) := by
  cases text <;> trivial

theorem scalar_ofNullable (text : Option JsString) : Scalar (.ofNullable text) := by
  cases text <;> trivial

/-- A record whose token is a safe integer is read back from its text. -/
theorem parse_recordText {record : LeaseRecord} (htoken : record.token < 2 ^ 53) :
    Json.parse (recordText host record) = some record.toJson := by
  have hblank : Blank (js "\n") := List.forall_mem_singleton.mpr rfl
  have hplain : Plain record.toJson := by
    refine ⟨?_, trivial, trivial, ⟨record.token, htoken, rfl⟩, plain_ofNullable _,
      plain_ofNullable _, plain_ofNullable _, trivial⟩
    show [js "schema_version", js "slot", js "token", js "holder", js "acquired_at",
      js "expires_at"].Nodup
    decide
  have hscalar : ∀ field ∈ [(js "schema_version", JsValue.string leaseSchemaVersion),
      (js "slot", .string record.slot), (js "token", .number (.ofNat record.token)),
      (js "holder", .ofNullable record.holder), (js "acquired_at", .ofNullable record.acquiredAt),
      (js "expires_at", .ofNullable record.expiresAt)], Scalar field.2 := by
    simp only [List.forall_mem_cons]
    exact ⟨trivial, trivial, trivial, scalar_ofNullable _, scalar_ofNullable _,
      scalar_ofNullable _, nofun⟩
  rw [recordText, stringifyIndented_scalar hscalar]
  exact parse_indentedText hplain hblank

end OdinSentinel.Lease.Store
