import OdinSentinel.Pacing.Event

/-!
# The pacing store

One profile file per harness below a base directory.  Appending an event checks the
event, the stored profile and the profile to be written before it makes a directory or
writes a file; reading a profile checks it again.
-/

namespace OdinSentinel.Pacing

open JsText Host Json

/-! ## Profiles -/

/-- `LOCAL_PROFILE_BASE`. -/
def localProfileBase : JsString := js ".odin/harness-pacing"

def bundling : List JsString := [js "allowed", js "avoid", js "unknown"]

/-- `left < right` of two finite numbers. -/
def isBelow : JsValue → JsValue → Bool
  | .number (.finite left), .number (.finite right) => left < right
  | _, _ => false

/-- The check of a timeout policy that is there. -/
def isValidQaTimeoutPolicy (value : JsValue) : Bool :=
  isObject value &&
  isNonNegFiniteNumber (value.field (js "base_seconds")) &&
  isNonNegFiniteNumber (value.field (js "per_file_seconds")) &&
  isNonNegFiniteNumber (value.field (js "max_seconds")) &&
  !isBelow (value.field (js "max_seconds")) (value.field (js "base_seconds"))

/-- The checks of a profile's `recommended`. -/
def isValidRecommended (value : JsValue) (expectedHarnessId : JsString) : Bool :=
  isObject value &&
  isOneOf [expectedHarnessId] (value.field (js "harness_id")) &&
  isString (value.field (js "max_word_bucket")) &&
  isNonNegFiniteNumber (value.field (js "min_idle_wait_seconds")) &&
  isOneOf bundling (value.field (js "slash_command_bundling")) &&
  isOneOf bundling (value.field (js "multi_phase_prompting")) &&
  isString (value.field (js "notes")) &&
  isOptional (isOneOf submitProfiles) (value.field (js "submit_profile")) &&
  isOptional (isOneOf newlinePolicies) (value.field (js "newline_policy")) &&
  isOptional isValidQaTimeoutPolicy (value.field (js "qa_timeout"))

def isArray : JsValue → Bool
  | .array _ => true
  | _ => false

/-- A non-negative integer number that is the length of an array. -/
def isCountOf (array : JsValue) : JsValue → Bool
  | .number value => value = .ofNat (items array).length
  | _ => false

/-- The check of a complete stored profile. -/
def isValidHarnessProfile (value : JsValue) (expectedHarnessId : JsString) : Bool :=
  isObject value &&
  (isOneOf [expectedHarnessId] (value.field (js "harness_id")) &&
    textOf (value.field (js "harness_id")) ≠ []) &&
  isString (value.field (js "version")) &&
  isString (value.field (js "last_updated")) &&
  isNonNegInteger (value.field (js "samples_total")) &&
  isArray (value.field (js "events")) &&
  isCountOf (value.field (js "events")) (value.field (js "samples_total")) &&
  isArray (value.field (js "crash_signatures")) &&
  (items (value.field (js "crash_signatures"))).all isString &&
  ((items (value.field (js "events"))).all fun event =>
    isValidPacingEvent event (some expectedHarnessId)) &&
  isValidRecommended (value.field (js "recommended")) expectedHarnessId &&
  isOptionalString (value.field (js "basis_note")) &&
  isOptional (fun format => isValidMessageFormat format expectedHarnessId)
    (value.field (js "message_format"))

/-- The recommendation of a profile without data. -/
def defaultRecommended (harness : JsString) : JsValue :=
  .object [
    (js "harness_id", .string harness),
    (js "max_word_bucket", .string (js "0-100 words")),
    (js "min_idle_wait_seconds", .number (.ofNat 3)),
    (js "slash_command_bundling", .string (js "unknown")),
    (js "multi_phase_prompting", .string (js "unknown")),
    (js "notes", .string (js "No data yet — using conservative defaults"))]

def unsafeHarness (harness : JsString) : JsString :=
  js "unsafe harness_id rejected: " ++ quote harness

def emptyProfile (harness now : JsString) : JsValue :=
  .object [
    (js "harness_id", .string harness),
    (js "version", .string (js "1.0")),
    (js "last_updated", .string now),
    (js "samples_total", .number (.ofNat 0)),
    (js "events", .array []),
    (js "crash_signatures", .array []),
    (js "recommended", defaultRecommended harness)]

/-- The profile of a harness without events; it throws for an unsafe id. -/
def buildDefaultProfile (harness now : JsString) : Except JsString JsValue :=
  if isSafeHarnessId harness then .ok (emptyProfile harness now)
  else .error (unsafeHarness harness)

/-! ## Files -/

/-- What a path holds: no file, a file that is not read as JSON, or a JSON value. -/
inductive ProfileFile
  | absent
  | unreadable
  | json (value : JsValue)

/-- The files, and the directories that were made. -/
structure Disk where
  file : JsString → ProfileFile
  directories : List JsString

/-- A call on the file system: a directory made, or the JSON text of a value written. -/
inductive FsCall
  | mkdir (path : JsString)
  | write (path : JsString) (value : JsValue)

/-- A call that succeeds. -/
def Disk.perform (disk : Disk) : FsCall → Disk
  | .mkdir path => { disk with directories := path :: disk.directories }
  | .write path value =>
      { disk with file := Function.update disk.file path (.json (data value)) }

def profilePath (host : HostRuntime) (harness base : JsString) : JsString :=
  host.joinPath (host.joinPath base harness) (js "profile.json")

/-- The path of a harness's profile; it throws for an unsafe id. -/
def getProfilePath (host : HostRuntime) (harness base : JsString) : Except JsString JsString :=
  if isSafeHarnessId harness then .ok (profilePath host harness base)
  else .error (unsafeHarness harness)

/-- The stored profile of a harness, `none` where there is none that passes. -/
def readProfile (host : HostRuntime) (disk : Disk) (harness base : JsString) :
    Except JsString (Option JsValue) :=
  if isSafeHarnessId harness = false then .ok none
  else do
    let path ← getProfilePath host harness base
    match disk.file path with
    | .absent => .ok none
    | .unreadable => .ok none
    | .json parsed => .ok (if isValidHarnessProfile parsed harness then some parsed else none)

/-! ## Appending -/

/-- One call of `appendEvent`, with the instant it writes. -/
structure Call where
  event : JsValue
  base : JsString
  now : JsString

/-- The stored profile, or the default one where no file is; `none` gives the call up. -/
def loadExisting (file : ProfileFile) (harness now : JsString) :
    Except JsString (Option JsValue) :=
  match file with
  | .absent => (buildDefaultProfile harness now).map some
  | .unreadable => .ok none
  | .json parsed => .ok (if isValidHarnessProfile parsed harness then some parsed else none)

/-- The known signatures with one more, where it is not empty and not known. -/
def withSignature (signatures : List JsValue) : JsValue → List JsValue
  | .string hash =>
      if hash = [] ∨ signatures.any (fun known => known.asString == some hash) then signatures
      else signatures ++ [.string hash]
  | _ => signatures

/-- The profile with a stored event behind its events. -/
def nextProfile (existing stored : JsValue) (now : JsString) : JsValue :=
  let events := items (existing.field (js "events"))
  let signatures := withSignature (items (existing.field (js "crash_signatures")))
    (stored.field (js "crash_signature_hash"))
  .object (setField (setField (setField (setField (members existing)
    (js "last_updated") (.string now))
    (js "samples_total") (.number (.ofNat (events.length + 1))))
    (js "events") (.array (events ++ [stored])))
    (js "crash_signatures") (.array signatures))

/-- What an append asks of the file system. -/
def appendEvent (host : HostRuntime) (disk : Disk) (call : Call) :
    Except JsString (List FsCall) :=
  let harness := textOf (call.event.field (js "harness_id"))
  if isValidPacingEvent call.event none = false then .ok []
  else if isSafeHarnessId harness = false then .ok []
  else do
    let path ← getProfilePath host harness call.base
    match ← loadExisting (disk.file path) harness call.now with
    | none => .ok []
    | some existing =>
        let stored := normalizeEventFormatFields call.event
        if isValidPacingEvent stored (some harness) = false then .ok []
        else
          let next := nextProfile existing stored call.now
          if isValidHarnessProfile next harness = false then .ok []
          else .ok [.mkdir (host.joinPath call.base harness), .write path next]

/-- The disk after an append; one that throws has asked for nothing. -/
def Disk.append (host : HostRuntime) (disk : Disk) (call : Call) : Disk :=
  match appendEvent host disk call with
  | .ok calls => calls.foldl Disk.perform disk
  | .error _ => disk

/-! ## What a call does -/

theorem Disk.append_eq {host : HostRuntime} {disk : Disk} {call : Call} {calls : List FsCall}
    (hcalls : appendEvent host disk call = .ok calls) :
    disk.append host call = calls.foldl Disk.perform disk := by
  unfold Disk.append
  rw [hcalls]

/-- The files after a profile was written. -/
theorem Disk.append_file {host : HostRuntime} {disk : Disk} {call : Call}
    {directory path : JsString} {value : JsValue}
    (hcalls : appendEvent host disk call = .ok [.mkdir directory, .write path value]) :
    (disk.append host call).file = Function.update disk.file path (.json (data value)) := by
  rw [Disk.append_eq hcalls]
  rfl

theorem isSafeHarnessId_of_valid {event : JsValue}
    (hevent : isValidPacingEvent event none = true) :
    ∃ harness, event.field (js "harness_id") = .string harness ∧
      isSafeHarnessId harness = true := by
  simp only [isValidPacingEvent, Bool.and_eq_true] at hevent
  have hharness : isHarness none (event.field (js "harness_id")) = true := by tauto
  cases hfield : event.field (js "harness_id") with
  | string harness =>
      rw [hfield, isHarness, Bool.and_eq_true] at hharness
      exact ⟨harness, rfl, hharness.1⟩
  | _ => rw [hfield] at hharness; cases hharness

/-- A stored profile, or the default one, that a call starts from. -/
def Loads (file : ProfileFile) (harness now : JsString) (existing : JsValue) : Prop :=
  (file = .absent ∧ buildDefaultProfile harness now = .ok existing) ∨
    (file = .json existing ∧ isValidHarnessProfile existing harness = true)

/-- A call that writes: its event, the profile it starts from and the next one pass. -/
structure Accepts (host : HostRuntime) (disk : Disk) (call : Call) (harness : JsString)
    (existing : JsValue) : Prop where
  event : isValidPacingEvent call.event none = true
  harness_eq : call.event.field (js "harness_id") = .string harness
  safe : isSafeHarnessId harness = true
  loads : Loads (disk.file (profilePath host harness call.base)) harness call.now existing
  next : isValidHarnessProfile
    (nextProfile existing (normalizeEventFormatFields call.event) call.now) harness = true

theorem loadExisting_cases {file : ProfileFile} {harness now : JsString}
    (hsafe : isSafeHarnessId harness = true) :
    loadExisting file harness now = .ok none ∨
      ∃ existing, loadExisting file harness now = .ok (some existing) ∧
        Loads file harness now existing := by
  cases file with
  | absent =>
      rw [loadExisting, buildDefaultProfile, if_pos hsafe]
      exact .inr ⟨_, rfl, .inl ⟨rfl, if_pos hsafe⟩⟩
  | unreadable => exact .inl rfl
  | json parsed =>
      rw [loadExisting]
      by_cases hvalid : isValidHarnessProfile parsed harness = true
      · exact .inr ⟨parsed, by rw [if_pos hvalid], .inr ⟨rfl, hvalid⟩⟩
      · exact .inl (by rw [if_neg hvalid])

/-- A call asks for nothing, or for the directory and the next profile of its harness; it
does not throw. -/
theorem appendEvent_cases (host : HostRuntime) (disk : Disk) (call : Call) :
    appendEvent host disk call = .ok [] ∨
      ∃ harness existing, Accepts host disk call harness existing ∧
        appendEvent host disk call = .ok [.mkdir (host.joinPath call.base harness),
          .write (profilePath host harness call.base)
            (nextProfile existing (normalizeEventFormatFields call.event) call.now)] := by
  rw [appendEvent]
  by_cases hevent : isValidPacingEvent call.event none = true
  · obtain ⟨harness, hharness, hsafe⟩ := isSafeHarnessId_of_valid hevent
    have htext : textOf (call.event.field (js "harness_id")) = harness := by rw [hharness]; rfl
    dsimp only
    rw [if_neg (by rw [hevent]; decide), htext, if_neg (by rw [hsafe]; decide), getProfilePath,
      if_pos hsafe]
    rcases @loadExisting_cases (disk.file (profilePath host harness call.base)) harness call.now
      hsafe with hnone | ⟨existing, hsome, hloads⟩
    · exact .inl (by simp only [bind, Except.bind, hnone])
    · simp only [bind, Except.bind, hsome]
      by_cases hstored : isValidPacingEvent (normalizeEventFormatFields call.event) (some harness)
      · rw [if_neg (by rw [hstored]; decide)]
        by_cases hnext : isValidHarnessProfile
            (nextProfile existing (normalizeEventFormatFields call.event) call.now) harness
        · rw [if_neg (by rw [hnext]; decide)]
          exact .inr ⟨harness, existing, ⟨hevent, hharness, hsafe, hloads, hnext⟩, rfl⟩
        · exact .inl (by rw [if_pos (Bool.not_eq_true _ ▸ hnext)])
      · exact .inl (by rw [if_pos (Bool.not_eq_true _ ▸ hstored)])
  · exact .inl (by rw [if_pos (Bool.not_eq_true _ ▸ hevent)])

theorem loadExisting_of_loads {file : ProfileFile} {harness now : JsString} {existing : JsValue}
    (hloads : Loads file harness now existing) :
    loadExisting file harness now = .ok (some existing) := by
  rcases hloads with ⟨rfl, hdefault⟩ | ⟨rfl, hvalid⟩
  · rw [loadExisting, hdefault]
    rfl
  · rw [loadExisting, if_pos hvalid]

/-- A next profile that passes has a stored event that does. -/
theorem stored_of_next {existing stored : JsValue} {now harness : JsString}
    (hnext : isValidHarnessProfile (nextProfile existing stored now) harness = true) :
    isValidPacingEvent stored (some harness) = true := by
  have hevents : ((items ((nextProfile existing stored now).field (js "events"))).all fun event =>
      isValidPacingEvent event (some harness)) = true := by
    by_contra hother
    simp [isValidHarnessProfile, hother] at hnext
  rw [nextProfile, field_setField, if_neg (by decide), field_setField, if_pos rfl] at hevents
  exact List.all_eq_true.mp hevents stored (by simp [items])

/-- A call whose parts all pass writes. -/
theorem Accepts.appendEvent_eq {host : HostRuntime} {disk : Disk} {call : Call}
    {harness : JsString} {existing : JsValue} (haccepts : Accepts host disk call harness existing) :
    appendEvent host disk call = .ok [.mkdir (host.joinPath call.base harness),
      .write (profilePath host harness call.base)
        (nextProfile existing (normalizeEventFormatFields call.event) call.now)] := by
  have htext : textOf (call.event.field (js "harness_id")) = harness := by
    rw [haccepts.harness_eq]
    rfl
  have hstored := stored_of_next haccepts.next
  rw [appendEvent]
  dsimp only
  rw [if_neg (by rw [haccepts.event]; decide), htext, if_neg (by rw [haccepts.safe]; decide),
    getProfilePath, if_pos haccepts.safe]
  simp only [bind, Except.bind, loadExisting_of_loads haccepts.loads]
  rw [if_neg (by rw [hstored]; decide), if_neg (by rw [haccepts.next]; decide)]

end OdinSentinel.Pacing
