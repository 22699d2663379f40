import OdinSentinel.Core.JsonData

/-!
# Pacing events

The shape of one pacing event, incoming or stored, and the normal form of its
delivery fields.  Every check reads a member of the event, and none tells a value
from what JSON text keeps of it.
-/

namespace OdinSentinel.Pacing

open JsText Json

/-! ## Checks on one value -/

/-- `value !== null && typeof value === "object" && !Array.isArray(value)`. -/
def isObject : JsValue → Bool
  | .object _ => true
  | _ => false

def isString : JsValue → Bool
  | .string _ => true
  | _ => false

def isBoolean : JsValue → Bool
  | .bool _ => true
  | _ => false

def isNonNegFiniteNumber : JsValue → Bool
  | .number (.finite value) => 0 ≤ value
  | _ => false

def isNonNegInteger : JsValue → Bool
  | .number (.finite value) => 0 ≤ value ∧ value.den = 1
  | _ => false

/-- A string with something in it that is not blank. -/
def isNonBlank : JsValue → Bool
  | .string text => trim text ≠ []
  | _ => false

/-- A string that `known` lists. -/
def isOneOf (known : List JsString) : JsValue → Bool
  | .string text => text ∈ known
  | _ => false

/-- `value === undefined || check(value)`. -/
def isOptional (check : JsValue → Bool) : JsValue → Bool
  | .undefined => true
  | value => check value

def isOptionalString : JsValue → Bool := isOptional isString

def isOptionalBoolean : JsValue → Bool := isOptional isBoolean

/-! ## The shape of an event -/

/-- `/^[A-Za-z0-9][A-Za-z0-9._-]*$/` on at most 128 code units. -/
def isSafeHarnessId : JsString → Bool
  | [] => false
  | first :: rest =>
      rest.length < 128 && (isDigit first || isUpper first || isLower first) &&
        rest.all fun unit => isDigit unit || isUpper unit || isLower unit ||
          unit == 46 || unit == 95 || unit == 45

/-- `PACING_EVENT_TYPES`. -/
def pacingEventTypes : List JsString :=
  [js "PROMPT_DELIVERY", js "IDLE_WAIT", js "MODAL_BLOCK", js "PERMISSION_BLOCK", js "CRASH",
    js "RECOVERY", js "MILESTONE"]

def submitProfiles : List JsString :=
  [js "single_line_flatten", js "double_enter", js "single_enter_verify"]

def newlinePolicies : List JsString := [js "flatten_to_space", js "preserve"]

/-- `SEPARATOR_TOKEN_FIELD`. -/
def separatorTokenField : JsString := js "separator_token"

/-- The check of a message format that is there. -/
def isValidMessageFormat (value : JsValue) (expectedHarnessId : JsString) : Bool :=
  isObject value &&
  isOneOf [expectedHarnessId] (value.field (js "harness_id")) &&
  isOneOf submitProfiles (value.field (js "submit_profile")) &&
  isOneOf newlinePolicies (value.field (js "newline_policy")) &&
  isBoolean (value.field (js "multi_line_ok")) &&
  isOptional isNonBlank (value.field (js "field_separator")) &&
  isOptionalBoolean (value.field (js "second_enter_on_busy")) &&
  isOptionalString (value.field (js "notes"))

/-- A harness id that is safe, and the expected one where one is expected. -/
def isHarness (expectedHarnessId : Option JsString) : JsValue → Bool
  | .string harness =>
      isSafeHarnessId harness && (expectedHarnessId.all fun expected => harness == expected)
  | _ => false

/-- The text of a string value, and no text for another. -/
def textOf (value : JsValue) : JsString := value.asString.getD []

/-- The check of one event, incoming or stored. -/
def isValidPacingEvent (value : JsValue) (expectedHarnessId : Option JsString) : Bool :=
  isObject value &&
  isHarness expectedHarnessId (value.field (js "harness_id")) &&
  isOneOf pacingEventTypes (value.field (js "event_type")) &&
  (isString (value.field (js "ts")) && textOf (value.field (js "ts")) ≠ []) &&
  isOptional isNonNegFiniteNumber (value.field (js "duration_ms")) &&
  isOptional isNonNegFiniteNumber (value.field (js "payload_bytes")) &&
  isOptionalString (value.field (js "verdict")) &&
  isOptionalString (value.field (js "notes")) &&
  isOptionalString (value.field (js "crash_signature_hash")) &&
  isOptionalString (value.field (js "crash_signature_summary")) &&
  isOptionalString (value.field (js "recovery_action")) &&
  isOptional isBoolean (value.field (js "submitted")) &&
  isOptionalString (value.field (js "submit_behavior")) &&
  isOptionalString (value.field (js "delivery_format")) &&
  isOptional isNonBlank (value.field separatorTokenField) &&
  isOptional isBoolean (value.field (js "modal_gate_assist")) &&
  isOptional
    (fun format => isValidMessageFormat format (textOf (value.field (js "harness_id"))))
    (value.field (js "message_format"))

/-! ## The normal form -/

/-- `left ?? right`. -/
def orElse : JsValue → JsValue → JsValue
  | .undefined, right => right
  | .null, right => right
  | left, _ => left

/-- The value where it passes, and no value elsewhere. -/
def only (check : JsValue → Bool) (value : JsValue) : JsValue :=
  if check value then value else .undefined

/-- A member set where it has a value. -/
def setDefined (fields : List (JsString × JsValue)) (name : JsString) :
    JsValue → List (JsString × JsValue)
  | .undefined => fields
  | value => setField fields name value

/-- A string that `trim` leaves nothing of. -/
def isBlankString : JsValue → Bool
  | .string text => trim text = []
  | _ => false

/-- The event with its delivery fields filled from its message format, and without those
that say nothing. -/
def normalizeEventFormatFields (event : JsValue) : JsValue :=
  let messageFormat := event.field (js "message_format")
  let delivery := orElse (event.field (js "delivery_format"))
    (orElse (messageFormat.field (js "submit_profile")) (event.field (js "submit_behavior")))
  let separator := orElse (only isString (event.field separatorTokenField))
    (messageFormat.field (js "field_separator"))
  let rest := eraseField (eraseField (eraseField (members event) separatorTokenField)
    (js "delivery_format")) (js "modal_gate_assist")
  let out := setDefined
    (setDefined rest (js "delivery_format") (only (fun value => !isBlankString value) delivery))
    (js "modal_gate_assist") (only isBoolean (event.field (js "modal_gate_assist")))
  .object (setDefined out separatorTokenField (only isNonBlank separator))

/-! ## What JSON text keeps of an event -/

/-- What JSON text keeps of a member passes a check exactly where the member does. -/
def Readable {Result : Type} (check : JsValue → Result) : Prop :=
  ∀ value, check (dataField value) = check value

/-- A check that looks into no array and no object, and takes no number that is not
finite for anything but `null`. -/
theorem readable_of {Result : Type} {check : JsValue → Result}
    (hnumber : ∀ value : JsNumber, value.isFinite = false → check .null = check (.number value))
    (harray : ∀ items others, check (.array items) = check (.array others))
    (hobject : ∀ fields others, check (.object fields) = check (.object others)) :
    Readable check := by
  intro value
  cases value with
  | number value =>
      cases value with
      | finite value => rfl
      | _ => exact hnumber _ rfl
  | array items => exact harray _ _
  | object fields => exact hobject _ _
  | _ => rfl

/-- A check that no number, array or object passes. -/
theorem readable_of_scalar {Result : Type} {check : JsValue → Result}
    (hnumber : ∀ value, check (.number value) = check .null)
    (harray : ∀ items, check (.array items) = check .null)
    (hobject : ∀ fields, check (.object fields) = check .null) : Readable check :=
  readable_of (fun value _ => (hnumber value).symm)
    (fun items others => (harray items).trans (harray others).symm)
    (fun fields others => (hobject fields).trans (hobject others).symm)

theorem asString_readable : Readable JsValue.asString :=
  readable_of_scalar (fun _ => rfl) (fun _ => rfl) (fun _ => rfl)

theorem textOf_readable : Readable textOf := fun value =>
  congrArg (fun text : Option JsString => text.getD []) (asString_readable value)

theorem isString_readable : Readable isString :=
  readable_of_scalar (fun _ => rfl) (fun _ => rfl) (fun _ => rfl)

theorem isBoolean_readable : Readable isBoolean :=
  readable_of_scalar (fun _ => rfl) (fun _ => rfl) (fun _ => rfl)

theorem isNonBlank_readable : Readable isNonBlank :=
  readable_of_scalar (fun _ => rfl) (fun _ => rfl) (fun _ => rfl)

theorem isOneOf_readable (known : List JsString) : Readable (isOneOf known) :=
  readable_of_scalar (fun _ => rfl) (fun _ => rfl) (fun _ => rfl)

theorem isHarness_readable (expected : Option JsString) : Readable (isHarness expected) :=
  readable_of_scalar (fun _ => rfl) (fun _ => rfl) (fun _ => rfl)

theorem isNonNegFiniteNumber_readable : Readable isNonNegFiniteNumber :=
  readable_of (fun value hvalue => by cases value <;> first | rfl | cases hvalue)
    (fun _ _ => rfl) (fun _ _ => rfl)

theorem isNonNegInteger_readable : Readable isNonNegInteger :=
  readable_of (fun value hvalue => by cases value <;> first | rfl | cases hvalue)
    (fun _ _ => rfl) (fun _ _ => rfl)

theorem isOptional_readable {check : JsValue → Bool} (hcheck : Readable check) :
    Readable (isOptional check) := by
  intro value
  cases value with
  | undefined => rfl
  | null => rfl
  | number value =>
      calc
        isOptional check (dataField (.number value)) = check (dataField (.number value)) := by
          cases value <;> rfl
        _ = check (.number value) := hcheck _
  | _ => exact hcheck _

theorem isOptionalString_readable : Readable isOptionalString :=
  isOptional_readable isString_readable

theorem isOptionalBoolean_readable : Readable isOptionalBoolean :=
  isOptional_readable isBoolean_readable

/-- A member of what JSON text keeps passes a check exactly where the member itself does. -/
theorem Readable.field {Result : Type} {check : JsValue → Result} (hcheck : Readable check)
    (value : JsValue) (name : JsString) :
    check ((data value).field name) = check (value.field name) := by
  rw [field_data, hcheck]

theorem isObject_data (value : JsValue) : isObject (data value) = isObject value := by
  cases value with
  | number value => cases value <;> rfl
  | _ => rfl

/-- A message format passes exactly where what JSON text keeps of it does. -/
theorem isValidMessageFormat_data (value : JsValue) (harness : JsString) :
    isValidMessageFormat (data value) harness = isValidMessageFormat value harness := by
  simp only [isValidMessageFormat, isObject_data, (isOneOf_readable _).field,
    isBoolean_readable.field, (isOptional_readable isNonBlank_readable).field,
    isOptionalBoolean_readable.field, isOptionalString_readable.field]

/-- So does a check of a value that is there. -/
theorem readable_of_data {check : JsValue → Bool} (hdata : ∀ value, check (data value) = check value) :
    Readable check := by
  intro value
  cases value with
  | undefined => rfl
  | _ => exact hdata _

/-- An event passes exactly where what JSON text keeps of it does. -/
theorem isValidPacingEvent_data (value : JsValue) (expected : Option JsString) :
    isValidPacingEvent (data value) expected = isValidPacingEvent value expected := by
  have hformat := fun harness : JsString => (isOptional_readable
    (@readable_of_data (fun format => isValidMessageFormat format harness)
      fun format => isValidMessageFormat_data format harness)).field value
  simp only [isValidPacingEvent, isObject_data, (isHarness_readable _).field,
    (isOneOf_readable _).field, isString_readable.field, textOf_readable.field,
    (isOptional_readable isNonNegFiniteNumber_readable).field, isOptionalString_readable.field,
    (isOptional_readable isBoolean_readable).field, (isOptional_readable isNonBlank_readable).field,
    hformat]

/-! ## Where the normal form differs from the event -/

theorem field_setDefined (fields : List (JsString × JsValue)) {name other : JsString}
    (hother : other ≠ name) (value : JsValue) :
    (JsValue.object (setDefined fields name value)).field other =
      (JsValue.object fields).field other := by
  cases value with
  | undefined => rfl
  | _ => exact (field_setField fields name other _).trans (if_neg hother)

/-- The normal form touches the three delivery fields alone. -/
theorem field_normalize (event : JsValue) {name : JsString} (hseparator : name ≠ separatorTokenField)
    (hdelivery : name ≠ js "delivery_format") (hmodal : name ≠ js "modal_gate_assist") :
    (normalizeEventFormatFields event).field name = event.field name := by
  rw [normalizeEventFormatFields, field_setDefined _ hseparator, field_setDefined _ hmodal,
    field_setDefined _ hdelivery, field_eraseField, if_neg hmodal, field_eraseField,
    if_neg hdelivery, field_eraseField, if_neg hseparator, field_members]

end OdinSentinel.Pacing
