import OdinSentinel.Core.Double
import OdinSentinel.Core.Host

/-!
# Slot lease records

One record per slot of the lease directory: the fencing token, and either a
free slot or a tenure with its holder and both instants.  The half-set records
that the reader rejects as corrupt have no value here.
-/

namespace OdinSentinel.Lease

open JsText Host

def leaseSchemaVersion : JsString := js "odin.lease.v1"

def defaultClockSkewMs : JsNumber := .ofNat 2000

def leaseFileSuffix : JsString := js ".lease.json"

def leaseLockSuffix : JsString := js ".lease.lock"

def slotsAllowFilename : JsString := js "slots.allow"

inductive LeaseRejectionCode
  | invalid_slot
  | invalid_holder
  | invalid_ttl
  | lease_dir_unavailable
  | lock_unavailable
  | slot_held
  | not_holder
  | stale_token
  | lease_expired
  | lease_missing
  | lease_corrupt
  | slot_not_allowed
  | slots_allow_invalid
  | all_slots_held
  deriving DecidableEq

/-- The three fields that are all set or all null. -/
structure Tenure where
  holder : JsString
  acquiredAt : JsString
  expiresAt : JsString
  deriving DecidableEq

/-- A lease record; `tenure` is `none` when the slot is free (the token is kept).  The token is
exact here, where the source adds one to a number that no longer changes from 2^53 on. -/
structure LeaseRecord where
  slot : JsString
  token : Nat
  tenure : Option Tenure
  deriving DecidableEq

namespace LeaseRecord

def holder (record : LeaseRecord) : Option JsString := record.tenure.map Tenure.holder

def acquiredAt (record : LeaseRecord) : Option JsString := record.tenure.map Tenure.acquiredAt

def expiresAt (record : LeaseRecord) : Option JsString := record.tenure.map Tenure.expiresAt

/-- The value that is written to the record's file. -/
def toJson (record : LeaseRecord) : JsValue :=
  .object [
    (js "schema_version", .string leaseSchemaVersion),
    (js "slot", .string record.slot),
    (js "token", .number (.ofNat record.token)),
    (js "holder", .ofNullable record.holder),
    (js "acquired_at", .ofNullable record.acquiredAt),
    (js "expires_at", .ofNullable record.expiresAt)]

end LeaseRecord

/-- One entry of the list of slots that were held when tried. -/
structure HeldSlot where
  slot : JsString
  holder : Option JsString
  expiresAt : Option JsString
  deriving DecidableEq

structure LeaseRefusal where
  code : LeaseRejectionCode
  detail : JsString
  slots : Option (List HeldSlot)
  deriving DecidableEq

/-- `LeaseResult<T>`. -/
abbrev LeaseResult (α : Type) := Except LeaseRefusal α

def refusal {α : Type} (code : LeaseRejectionCode) (detail : JsString) : LeaseResult α :=
  .error { code, detail, slots := none }

structure LeaseOptions where
  skewMs : Option JsNumber

/-- The skew allowance: the default when none is given, and never negative. -/
def skewMs (options : LeaseOptions) : JsNumber :=
  (options.skewMs.getD defaultClockSkewMs).maxZero

/-- `/^[A-Za-z0-9][A-Za-z0-9._-]*$/`. -/
def slotPattern : JsString → Bool
  | [] => false
  | first :: rest =>
      (isDigit first || isUpper first || isLower first) &&
        rest.all (fun unit => isDigit unit || isUpper unit || isLower unit ||
          unit == 46 || unit == 95 || unit == 45)

def invalidSlotDetail : JsString :=
  js "slot must be a single safe path segment: letters, digits, dot, underscore and hyphen ([A-Za-z0-9][A-Za-z0-9._-]*); colons are not allowed — write an ISO instant as YYYY-MM-DDTHHMMZ"

def emptyRecord (slot : JsString) : LeaseRecord := { slot, token := 0, tenure := none }

def leasePath (host : HostRuntime) (dir slot : JsString) : JsString :=
  host.joinPath dir (slot ++ leaseFileSuffix)

def lockPath (host : HostRuntime) (dir slot : JsString) : JsString :=
  host.joinPath dir (slot ++ leaseLockSuffix)

/-- A non-negative integer number. -/
def tokenOf : JsValue → Option Nat
  | .number (.finite value) =>
      if value.den = 1 ∧ 0 ≤ value.num then some value.num.toNat else none
  | _ => none

/-- All three null, or all three texts with a parseable expiry. -/
def tenureOf (host : HostRuntime) : JsValue → JsValue → JsValue → Option (Option Tenure)
  | .null, .null, .null => some none
  | .string holder, .string acquiredAt, .string expiresAt =>
      if (host.dateParse expiresAt).isSome then some (some { holder, acquiredAt, expiresAt })
      else none
  | _, _, _ => none

/-- `isRecord`, returning the record it recognises. -/
def isRecord (host : HostRuntime) (value : JsValue) (slot : JsString) : Option LeaseRecord :=
  if (value.field (js "schema_version")).asString = some leaseSchemaVersion ∧
      (value.field (js "slot")).asString = some slot then
    match tokenOf (value.field (js "token")),
        tenureOf host (value.field (js "holder")) (value.field (js "acquired_at"))
          (value.field (js "expires_at")) with
    | some token, some tenure => some { slot, token, tenure }
    | _, _ => none
  else none

/-- What a slot's record file holds. -/
inductive LeaseFile
  | absent
  | notJson (message : JsString)
  | json (value : JsValue)

/-- What the optional allow-list file holds. -/
inductive AllowFile
  | absent
  | unreadable (message : JsString)
  | text (content : JsString)

/-- The listed slots, line by line; a line that is no slot id fails the whole file. -/
def allowedLines : Nat → List JsString → LeaseResult (List JsString)
  | _, [] => .ok []
  | index, raw :: rest =>
      let line := trim raw
      if line = [] ∨ line.head? = some 35 then allowedLines (index + 1) rest
      else if slotPattern line then
        match allowedLines (index + 1) rest with
        | .ok allowed => .ok (line :: allowed)
        | .error reason => .error reason
      else
        refusal .slots_allow_invalid
          (slotsAllowFilename ++ js " line " ++ natText (index + 1) ++
            js " is not a valid slot id; " ++ invalidSlotDetail)

/-- `none` when there is no allow-list (nothing is restricted). -/
def readAllowedSlots : AllowFile → LeaseResult (Option (List JsString))
  | .absent => .ok none
  | .unreadable message =>
      refusal .slots_allow_invalid (slotsAllowFilename ++ js " cannot be read: " ++ message)
  | .text content => (allowedLines 0 (content.splitOn 10)).map some

def slotNotAllowed {α : Type} (slot : JsString) : LeaseResult α :=
  refusal .slot_not_allowed
    (js "slot \"" ++ slot ++ js "\" is not listed in " ++ slotsAllowFilename ++
      js "; add it there (one slot id per line) or use a listed slot")

/-- Refuse any operation on a slot the allow-list does not name. -/
def ensureSlotAllowed (allow : AllowFile) (slot : JsString) : LeaseResult Unit := do
  match ← readAllowedSlots allow with
  | none => .ok ()
  | some allowed => if slot ∈ allowed then .ok () else slotNotAllowed slot

/-- Read a slot's record.  A missing file is a free slot, not an error. -/
def readLease (host : HostRuntime) (dir slot : JsString) (allow : AllowFile)
    (file : LeaseFile) : LeaseResult LeaseRecord :=
  if slotPattern slot = false then refusal .invalid_slot invalidSlotDetail
  else do
    ensureSlotAllowed allow slot
    match file with
    | .absent => .ok (emptyRecord slot)
    | .notJson message =>
        refusal .lease_corrupt
          (js "lease record " ++ leasePath host dir slot ++ js " is not valid JSON: " ++ message)
    | .json value =>
        match isRecord host value slot with
        | some record => .ok record
        | none =>
            refusal .lease_corrupt
              (js "lease record " ++ leasePath host dir slot ++ js " does not match " ++
                leaseSchemaVersion ++ js " for slot \"" ++ slot ++ js "\"")

/-- Has the tenure run out at `at`, the skew allowed for?  A free slot has not. -/
def isExpired (host : HostRuntime) (record : LeaseRecord) (instant skew : JsNumber) : Bool :=
  match record.tenure with
  | none => false
  | some tenure =>
      match host.dateParse tenure.expiresAt with
      | none => true
      | some expires => ((JsNumber.ofInt expires).plus skew).le instant

end OdinSentinel.Lease
