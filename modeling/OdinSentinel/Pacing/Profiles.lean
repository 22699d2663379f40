import Mathlib.Data.List.Nodup
import OdinSentinel.Core.Transition
import OdinSentinel.Pacing.Storage

/-!
# Profiles stay well formed

What an append does to the profile it writes, and what every run of appends keeps: a
stored profile passes its reader's check, counts its events, and knows each of their
crash signatures once.
-/

namespace OdinSentinel.Pacing

open JsText Host Json Transition

/-! ## What JSON text keeps of a profile -/

theorem items_dataField (value : JsValue) :
    items (dataField value) = dataItems (items value) := by
  cases value with
  | number value => cases value <;> rfl
  | _ => rfl

theorem items_field (value : JsValue) (name : JsString) :
    items ((data value).field name) = dataItems (items (value.field name)) := by
  rw [field_data, items_dataField]

theorem length_dataItems (values : List JsValue) : (dataItems values).length = values.length := by
  induction values with
  | nil => rfl
  | cons value values ih => rw [dataItems, List.length_cons, ih, List.length_cons]

theorem all_dataItems {check : JsValue → Bool} (hcheck : ∀ value, check (data value) = check value)
    (values : List JsValue) : (dataItems values).all check = values.all check := by
  induction values with
  | nil => rfl
  | cons value values ih => rw [dataItems, List.all_cons, List.all_cons, hcheck, ih]

theorem isArray_readable : Readable isArray :=
  readable_of (fun _ _ => rfl) (fun _ _ => rfl) (fun _ _ => rfl)

theorem isString_data (value : JsValue) : isString (data value) = isString value := by
  cases value with
  | number value => cases value <;> rfl
  | _ => rfl

theorem isBelow_dataField (left right : JsValue) :
    isBelow (dataField left) (dataField right) = isBelow left right := by
  cases left with
  | number left =>
      cases left with
      | finite left =>
          cases right with
          | number right => cases right <;> rfl
          | _ => rfl
      | _ => rfl
  | _ => rfl

theorem isBelow_field (value : JsValue) (left right : JsString) :
    isBelow ((data value).field left) ((data value).field right) =
      isBelow (value.field left) (value.field right) := by
  rw [field_data, field_data, isBelow_dataField]

theorem isCountOf_dataField (array value : JsValue) :
    isCountOf (dataField array) (dataField value) = isCountOf array value := by
  cases value with
  | number value =>
      cases value with
      | finite value =>
          change decide (_ = JsNumber.ofNat (items (dataField array)).length) = _
          rw [items_dataField, length_dataItems]
          rfl
      | _ => rfl
  | _ => rfl

theorem isCountOf_field (value : JsValue) (array count : JsString) :
    isCountOf ((data value).field array) ((data value).field count) =
      isCountOf (value.field array) (value.field count) := by
  rw [field_data, field_data, isCountOf_dataField]

theorem isValidQaTimeoutPolicy_data (value : JsValue) :
    isValidQaTimeoutPolicy (data value) = isValidQaTimeoutPolicy value := by
  simp only [isValidQaTimeoutPolicy, isObject_data, isNonNegFiniteNumber_readable.field,
    isBelow_field]

theorem isValidRecommended_data (value : JsValue) (harness : JsString) :
    isValidRecommended (data value) harness = isValidRecommended value harness := by
  simp only [isValidRecommended, isObject_data, (isOneOf_readable _).field,
    isString_readable.field, isNonNegFiniteNumber_readable.field,
    (isOptional_readable (isOneOf_readable _)).field,
    (isOptional_readable (readable_of_data isValidQaTimeoutPolicy_data)).field]

/-- A profile passes exactly where what JSON text keeps of it does. -/
theorem isValidHarnessProfile_data (value : JsValue) (harness : JsString) :
    isValidHarnessProfile (data value) harness = isValidHarnessProfile value harness := by
  have hevents := @all_dataItems (fun event => isValidPacingEvent event (some harness))
    fun event => isValidPacingEvent_data event (some harness)
  have hrecommended := (@readable_of_data (fun recommended => isValidRecommended recommended harness)
    fun recommended => isValidRecommended_data recommended harness).field value
  have hformat := (isOptional_readable
    (@readable_of_data (fun format => isValidMessageFormat format harness)
      fun format => isValidMessageFormat_data format harness)).field value
  simp only [isValidHarnessProfile, isObject_data, (isOneOf_readable _).field,
    textOf_readable.field, isString_readable.field, isNonNegInteger_readable.field,
    isArray_readable.field, isOptionalString_readable.field, hrecommended, hformat,
    isCountOf_field, items_field, hevents, all_dataItems isString_data]

/-! ## The signatures of a list of events -/

/-- The known signatures with that of one more event. -/
def addSignature (known : List JsString) (event : JsValue) : List JsString :=
  let hash := textOf (event.field (js "crash_signature_hash"))
  if hash = [] ∨ hash ∈ known then known else known ++ [hash]

/-- The signatures that appending the events has collected. -/
def signaturesOf (events : List JsValue) : List JsString := events.foldl addSignature []

theorem signaturesOf_append (events : List JsValue) (event : JsValue) :
    signaturesOf (events ++ [event]) = addSignature (signaturesOf events) event := by
  rw [signaturesOf, List.foldl_append]
  rfl

theorem addSignature_nodup {known : List JsString} (hknown : known.Nodup) (event : JsValue) :
    (addSignature known event).Nodup := by
  rw [addSignature]
  split_ifs with hhash
  · exact hknown
  · exact hknown.append (List.nodup_singleton _)
      (List.disjoint_singleton.mpr fun hmem => hhash (.inr hmem))

theorem mem_addSignature {known : List JsString} {event : JsValue} {hash : JsString} :
    hash ∈ addSignature known event ↔
      hash ∈ known ∨ (hash ≠ [] ∧ hash = textOf (event.field (js "crash_signature_hash"))) := by
  rw [addSignature]
  split_ifs with hhash
  · constructor
    · exact .inl
    · rintro (hmem | ⟨hne, rfl⟩)
      · exact hmem
      · exact hhash.resolve_left hne
  · rw [List.mem_append, List.mem_singleton]
    constructor
    · exact Or.imp_right fun heq => ⟨heq ▸ fun hnil => hhash (.inl hnil), heq⟩
    · exact Or.imp_right And.right

theorem signaturesOf_nodup (events : List JsValue) : (signaturesOf events).Nodup := by
  induction events using List.reverseRecOn with
  | nil => exact List.nodup_nil
  | append_singleton events event ih =>
      rw [signaturesOf_append]
      exact addSignature_nodup ih event

/-- The signatures are the hashes of the events that carry one. -/
theorem mem_signaturesOf {events : List JsValue} {hash : JsString} :
    hash ∈ signaturesOf events ↔
      hash ≠ [] ∧ ∃ event ∈ events, hash = textOf (event.field (js "crash_signature_hash")) := by
  induction events using List.reverseRecOn with
  | nil => simp [signaturesOf]
  | append_singleton events event ih =>
      rw [signaturesOf_append, mem_addSignature, ih]
      simp only [List.mem_append, List.mem_singleton, or_and_right, exists_or, exists_eq_left]
      exact and_or_left.symm

/-- On known texts the store's update is the one on signatures. -/
theorem withSignature_map (known : List JsString) (event : JsValue) :
    withSignature (known.map .string) (event.field (js "crash_signature_hash")) =
      (addSignature known event).map .string := by
  rw [addSignature]
  cases hfield : event.field (js "crash_signature_hash") with
  | string hash =>
      have hknown : ((known.map JsValue.string).any fun entry => entry.asString == some hash) = true ↔
          hash ∈ known := by
        simp [JsValue.asString]
      have htext : textOf (.string hash) = hash := rfl
      simp only [withSignature, htext, hknown]
      split_ifs
      · rfl
      · rw [List.map_append]
        rfl
  | _ => rfl

/-! ## What an append keeps of a profile -/

/-- The event as the store has it. -/
def storedEvent (event : JsValue) : JsValue := data (normalizeEventFormatFields event)

/-- A profile into which the events were appended, one after the other. -/
structure Keeps (harness : JsString) (events : List JsValue) (profile : JsValue) : Prop where
  isData : IsData profile
  harness_eq : profile.field (js "harness_id") = .string harness
  events_eq : profile.field (js "events") = .array (events.map storedEvent)
  signatures_eq :
    profile.field (js "crash_signatures") = .array ((signaturesOf events).map .string)
  recommended_eq : profile.field (js "recommended") = defaultRecommended harness

theorem isData_defaultRecommended (harness : JsString) : IsData (defaultRecommended harness) := by
  simp [IsData, FieldsData, defaultRecommended, JsNumber.ofNat, JsNumber.isFinite]

theorem keeps_default {harness now : JsString} {profile : JsValue}
    (hdefault : buildDefaultProfile harness now = .ok profile) : Keeps harness [] profile := by
  rw [buildDefaultProfile] at hdefault
  split_ifs at hdefault
  obtain rfl := Except.ok.inj hdefault
  refine ⟨?_, rfl, rfl, rfl, rfl⟩
  simp [emptyProfile, IsData, FieldsData, ItemsData, isData_defaultRecommended, JsNumber.ofNat, JsNumber.isFinite]

theorem field_nextProfile (existing stored : JsValue) (now : JsString) {name : JsString}
    (hupdated : name ≠ js "last_updated") (htotal : name ≠ js "samples_total")
    (hevents : name ≠ js "events") (hsignatures : name ≠ js "crash_signatures") :
    (nextProfile existing stored now).field name = existing.field name := by
  rw [nextProfile, field_setField, if_neg hsignatures, field_setField, if_neg hevents,
    field_setField, if_neg htotal, field_setField, if_neg hupdated, field_members]

/-- Appending one event to a profile that keeps the earlier ones. -/
theorem Keeps.next {harness : JsString} {events : List JsValue} {existing : JsValue}
    (hkeeps : Keeps harness events existing) (event : JsValue) (now : JsString) :
    Keeps harness (events ++ [event])
      (data (nextProfile existing (normalizeEventFormatFields event) now)) where
  isData := isData_data _
  harness_eq := by
    rw [field_data, field_nextProfile _ _ _ (by decide) (by decide) (by decide) (by decide),
      hkeeps.harness_eq]
    rfl
  events_eq := by
    have hstored : ItemsData (events.map storedEvent) := itemsData_iff.mpr fun stored hmem => by
      obtain ⟨event, -, rfl⟩ := List.mem_map.mp hmem
      exact isData_data _
    rw [field_data, nextProfile, field_setField, if_neg (by decide), field_setField, if_pos rfl,
      hkeeps.events_eq, items, dataField_array, dataItems_append, hstored.dataItems_eq,
      List.map_append]
    rfl
  signatures_eq := by
    have hhash := field_normalize event (show js "crash_signature_hash" ≠ _ by decide)
      (by decide) (by decide)
    rw [field_data, nextProfile, field_setField, if_pos rfl, hkeeps.signatures_eq, items, hhash,
      withSignature_map, ← signaturesOf_append]
    apply IsData.dataField_eq
    exact itemsData_iff.mpr fun signature hmem => by
      obtain ⟨hash, -, rfl⟩ := List.mem_map.mp hmem
      exact trivial
  recommended_eq := by
    rw [field_data, field_nextProfile _ _ _ (by decide) (by decide) (by decide) (by decide),
      hkeeps.recommended_eq]
    exact (isData_defaultRecommended harness).dataField_eq

/-! ## Runs of appends -/

theorem harness_of_valid {profile : JsValue} {harness : JsString}
    (hvalid : isValidHarnessProfile profile harness = true) :
    profile.field (js "harness_id") = .string harness := by
  have hharness : isOneOf [harness] (profile.field (js "harness_id")) = true := by
    by_contra hother
    simp [isValidHarnessProfile, hother] at hvalid
  cases hfield : profile.field (js "harness_id") with
  | string text =>
      rw [hfield, isOneOf, decide_eq_true_eq, List.mem_singleton] at hharness
      rw [hharness]
  | _ => rw [hfield] at hharness; cases hharness

/-- A profile that passes counts its events. -/
theorem samples_of_valid {profile : JsValue} {harness : JsString}
    (hvalid : isValidHarnessProfile profile harness = true) :
    profile.field (js "samples_total") =
      .number (.ofNat (items (profile.field (js "events"))).length) := by
  have hcount : isCountOf (profile.field (js "events")) (profile.field (js "samples_total")) = true := by
    by_contra hother
    simp [isValidHarnessProfile, hother] at hvalid
  cases hfield : profile.field (js "samples_total") with
  | number value =>
      rw [hfield, isCountOf, decide_eq_true_eq] at hcount
      rw [hcount]
  | _ => rw [hfield] at hcount; cases hcount

/-- A profile passes for one harness only. -/
theorem harness_unique {profile : JsValue} {left right : JsString}
    (hleft : isValidHarnessProfile profile left = true)
    (hright : isValidHarnessProfile profile right = true) : left = right :=
  JsValue.string.inj ((harness_of_valid hleft).symm.trans (harness_of_valid hright))

variable {host : HostRuntime}

/-- Does the call write the profile at `path` for a harness? -/
def appendsTo (host : HostRuntime) (path harness : JsString) (disk : Disk) (call : Call) : Bool :=
  match appendEvent host disk call with
  | .ok (_ :: _) =>
      call.event.field (js "harness_id") |>.asString.any fun named =>
        named == harness && profilePath host named call.base == path
  | _ => false

/-- The events that a history has appended to the profile at `path`, oldest first. -/
def appended (host : HostRuntime) (path harness : JsString) :
    List (Step Disk Call) → List JsValue
  | [] => []
  | step :: earlier =>
      appended host path harness earlier ++
        if appendsTo host path harness step.before step.label then [step.label.event] else []

/-- What a path holds for a harness, in terms of the events appended to it there. -/
inductive Standing (harness : JsString) : List JsValue → ProfileFile → Prop
  | absent : Standing harness [] .absent
  | foreign {profile : JsValue} (hforeign : isValidHarnessProfile profile harness = false) :
      Standing harness [] (.json profile)
  | kept {events : List JsValue} {profile : JsValue} (hkeeps : Keeps harness events profile)
      (hvalid : isValidHarnessProfile profile harness = true) :
      Standing harness events (.json profile)

theorem appendsTo_of_nothing {disk : Disk} {call : Call}
    (hnothing : appendEvent host disk call = .ok []) (path harness : JsString) :
    appendsTo host path harness disk call = false := by
  unfold appendsTo
  rw [hnothing]

theorem appendsTo_of_calls {disk : Disk} {call : Call} {first : FsCall} {calls : List FsCall}
    {named : JsString} (hcalls : appendEvent host disk call = .ok (first :: calls))
    (hnamed : call.event.field (js "harness_id") = .string named) (path harness : JsString) :
    appendsTo host path harness disk call =
      (named == harness && profilePath host named call.base == path) := by
  unfold appendsTo
  rw [hcalls, hnamed]
  rfl

/-- A standing profile that a call of the harness starts from. -/
theorem Standing.of_loads {harness now : JsString} {events : List JsValue} {file : ProfileFile}
    {existing : JsValue} (hstanding : Standing harness events file)
    (hloads : Loads file harness now existing) : Keeps harness events existing := by
  rcases hloads with ⟨rfl, hdefault⟩ | ⟨rfl, hvalid⟩
  · cases hstanding
    exact keeps_default hdefault
  · cases hstanding with
    | foreign hforeign => rw [hvalid] at hforeign; cases hforeign
    | kept hkeeps _ => exact hkeeps

/-- Where a call of another harness starts from what a path holds, nothing was appended
there. -/
theorem Standing.nil_of_loads {harness named now : JsString} {events : List JsValue}
    {file : ProfileFile} {existing : JsValue} (hother : named ≠ harness)
    (hstanding : Standing harness events file) (hloads : Loads file named now existing) :
    events = [] := by
  cases hstanding with
  | absent => rfl
  | foreign _ => rfl
  | kept _ hvalid =>
      rcases hloads with ⟨habsent, -⟩ | ⟨hsame, hexisting⟩
      · cases habsent
      · cases hsame
        exact absurd (harness_unique hexisting hvalid) hother

/-- What a path holds for a harness, after a step. -/
theorem Standing.step {path harness : JsString} {events : List JsValue} {disk : Disk}
    (hstanding : Standing harness events (disk.file path)) (call : Call) :
    Standing harness
      (events ++ if appendsTo host path harness disk call then [call.event] else [])
      ((disk.append host call).file path) := by
  rcases appendEvent_cases host disk call with hnothing | ⟨named, existing, haccepts, hcalls⟩
  · rw [appendsTo_of_nothing hnothing, if_neg Bool.false_ne_true, List.append_nil,
      Disk.append_eq hnothing]
    exact hstanding
  · have hnext := (isValidHarnessProfile_data _ _).trans haccepts.next
    rw [appendsTo_of_calls hcalls haccepts.harness_eq, Disk.append_file hcalls]
    by_cases hpath : profilePath host named call.base = path
    · rw [hpath, Function.update_self]
      by_cases hharness : named = harness
      · subst hharness
        rw [if_pos (by simp)]
        exact .kept ((hstanding.of_loads (hpath ▸ haccepts.loads)).next call.event call.now) hnext
      · rw [if_neg (by simp [hharness]), List.append_nil,
          hstanding.nil_of_loads hharness (hpath ▸ haccepts.loads)]
        exact .foreign (Bool.eq_false_iff.mpr fun hvalid =>
          hharness (harness_unique hnext hvalid))
    · rw [Function.update_of_ne (Ne.symm hpath), if_neg (by simp [hpath]), List.append_nil]
      exact hstanding

/-- From a path without a profile, every run of appends leaves there what it has appended. -/
theorem standing_of_run {path harness : JsString} {start disk : Disk}
    {history : List (Step Disk Call)} (hrun : Run (Disk.append host) start history disk)
    (hstart : start.file path = .absent) :
    Standing harness (appended host path harness history) (disk.file path) := by
  induction hrun with
  | nil => rw [hstart]; exact .absent
  | step call _ ih => exact ih.step call

/-! ## Profiles on disk -/

/-- The events of the profile that a path holds. -/
def storedEvents : ProfileFile → List JsValue
  | .json profile => items (profile.field (js "events"))
  | _ => []

theorem storedEvents_of_loads {file : ProfileFile} {harness now : JsString} {existing : JsValue}
    {events : List JsValue} (hkeeps : Keeps harness events existing)
    (hloads : Loads file harness now existing) : storedEvents file = events.map storedEvent := by
  rcases hloads with ⟨rfl, hdefault⟩ | ⟨rfl, -⟩
  · have hnone := (keeps_default hdefault).events_eq
    rw [hkeeps.events_eq] at hnone
    exact (JsValue.array.inj hnone).symm
  · rw [storedEvents, hkeeps.events_eq]
    rfl

theorem readProfile_of_valid {disk : Disk} {harness base : JsString} {profile : JsValue}
    (hsafe : isSafeHarnessId harness = true)
    (hfile : disk.file (profilePath host harness base) = .json profile)
    (hvalid : isValidHarnessProfile profile harness = true) :
    readProfile host disk harness base = .ok (some profile) := by
  rw [readProfile]
  rw [if_neg (by rw [hsafe]; decide), getProfilePath, if_pos hsafe]
  simp only [bind, Except.bind, hfile, hvalid, if_true]

/-- The event of a call, or the stored profile that it would extend, does not pass. -/
def Rejected (host : HostRuntime) (disk : Disk) (call : Call) : Prop :=
  let harness := textOf (call.event.field (js "harness_id"))
  isValidPacingEvent call.event none = false ∨
    disk.file (profilePath host harness call.base) = .unreadable ∨
    ∃ profile, disk.file (profilePath host harness call.base) = .json profile ∧
      isValidHarnessProfile profile harness = false

theorem appendEvent_of_rejected {disk : Disk} {call : Call} (hrejected : Rejected host disk call) :
    appendEvent host disk call = .ok [] := by
  rcases appendEvent_cases host disk call with hnothing | ⟨harness, existing, haccepts, -⟩
  · exact hnothing
  · have hloads := haccepts.loads
    have htext : textOf (call.event.field (js "harness_id")) = harness := by
      rw [haccepts.harness_eq]
      rfl
    rw [Rejected, htext, haccepts.event] at hrejected
    rcases hrejected with hevent | hunreadable | ⟨profile, hprofile, hinvalid⟩
    · cases hevent
    · rw [hunreadable] at hloads
      rcases hloads with ⟨hfile, -⟩ | ⟨hfile, -⟩ <;> cases hfile
    · rw [hprofile] at hloads
      rcases hloads with ⟨hfile, -⟩ | ⟨hfile, hvalid⟩
      · cases hfile
      · cases hfile
        rw [hvalid] at hinvalid
        cases hinvalid

/-- A signature of a stored event is that of the event. -/
theorem hash_storedEvent (event : JsValue) :
    textOf ((storedEvent event).field (js "crash_signature_hash")) =
      textOf (event.field (js "crash_signature_hash")) := by
  rw [storedEvent, textOf_readable.field,
    field_normalize event (by decide) (by decide) (by decide)]

/-- The call asks for the JSON text of a profile to be written to a path. -/
def Writes (host : HostRuntime) (disk : Disk) (call : Call) (path : JsString)
    (profile : JsValue) : Prop :=
  ∃ calls, appendEvent host disk call = .ok calls ∧ .write path profile ∈ calls

theorem accepts_of_writes {disk : Disk} {call : Call} {path : JsString} {profile : JsValue}
    (hwrites : Writes host disk call path profile) :
    ∃ harness existing, Accepts host disk call harness existing ∧
      path = profilePath host harness call.base ∧
      profile = nextProfile existing (normalizeEventFormatFields call.event) call.now ∧
      (disk.append host call).file path = .json (data profile) := by
  obtain ⟨calls, hcalls, hmem⟩ := hwrites
  rcases appendEvent_cases host disk call with hnothing | ⟨harness, existing, haccepts, hwritten⟩
  · rw [hnothing] at hcalls
    cases hcalls
    cases hmem
  · have hfile := Disk.append_file hwritten
    rw [hwritten] at hcalls
    obtain rfl := Except.ok.inj hcalls
    simp only [List.mem_cons, reduceCtorEq, FsCall.write.injEq, List.not_mem_nil, or_false,
      false_or] at hmem
    obtain ⟨rfl, rfl⟩ := hmem
    exact ⟨harness, existing, haccepts, rfl, rfl, by rw [hfile, Function.update_self]⟩

/-- Every profile that a run of appends writes is read back; it holds the stored events and
behind them the normal form of the new one, counts them, and knows each of their crash
signatures once.  An event or a stored profile that does not pass leaves the disk as it was. -/
theorem appendEvent_keeps_profiles (host : HostRuntime) :
    (∀ start disk history call path profile, Run (Disk.append host) start history disk →
      start.file path = .absent → Writes host disk call path profile →
      ∃ (harness : JsString) (events : List JsValue) (signatures : List JsString),
        call.event.field (js "harness_id") = .string harness ∧
        readProfile host (disk.append host call) harness call.base = .ok (some (data profile)) ∧
        (data profile).field (js "samples_total") = .number (.ofNat events.length) ∧
        (data profile).field (js "events") = .array events ∧
        events = storedEvents (disk.file path) ++ [data (normalizeEventFormatFields call.event)] ∧
        (data profile).field (js "crash_signatures") = .array (signatures.map .string) ∧
        signatures.Nodup ∧
        ∀ stored ∈ events, ∀ hash ≠ [],
          stored.field (js "crash_signature_hash") = .string hash → hash ∈ signatures) ∧
    ∀ disk call, Rejected host disk call →
      appendEvent host disk call = .ok [] ∧ disk.append host call = disk := by
  constructor
  · intro start disk history call path profile hrun hstart hwrites
    obtain ⟨harness, existing, haccepts, hpath, hprofile, hfile⟩ := accepts_of_writes hwrites
    have hkeeps : Keeps harness (appended host path harness history) existing :=
      (standing_of_run hrun hstart).of_loads (hpath ▸ haccepts.loads)
    have hnext := hkeeps.next call.event call.now
    have hvalid := (isValidHarnessProfile_data _ _).trans haccepts.next
    rw [← hprofile] at hnext hvalid
    have hstored := storedEvents_of_loads hkeeps (hpath ▸ haccepts.loads)
    refine ⟨harness, _, signaturesOf (appended host path harness history ++ [call.event]),
      haccepts.harness_eq, readProfile_of_valid haccepts.safe (hpath ▸ hfile) hvalid, ?_,
      hnext.events_eq, ?_, hnext.signatures_eq, signaturesOf_nodup _, ?_⟩
    · rw [samples_of_valid hvalid, hnext.events_eq]
      rfl
    · rw [hstored, List.map_append]
      rfl
    · intro stored hmem hash hne hhash
      obtain ⟨event, hevent, rfl⟩ := List.mem_map.mp hmem
      refine mem_signaturesOf.mpr ⟨hne, event, hevent, ?_⟩
      rw [← hash_storedEvent, hhash]
      rfl
  · intro disk call hrejected
    have hnothing := appendEvent_of_rejected hrejected
    exact ⟨hnothing, Disk.append_eq hnothing⟩

/-- A crash of a harness without a seed, with the hash of its signature. -/
def signedCrash : Call where
  event := .object [
    (js "harness_id", .string (js "droid")),
    (js "event_type", .string (js "CRASH")),
    (js "ts", .string (js "2026-06-11T21:10:09Z")),
    (js "crash_signature_hash", .string (js "f94360680e22"))]
  base := localProfileBase
  now := js "2026-06-12T00:00:00.000Z"

def noProfiles : Disk where
  file _ := .absent
  directories := []

theorem signedCrash_accepts : Accepts plainHost noProfiles signedCrash (js "droid")
    (emptyProfile (js "droid") signedCrash.now) where
  event := by decide +kernel
  harness_eq := rfl
  safe := by decide +kernel
  loads := .inl ⟨rfl, if_pos (by decide +kernel)⟩
  next := by decide +kernel

/-- The profile of the harness behind the crash. -/
def crashedProfile : JsValue :=
  data (nextProfile (emptyProfile (js "droid") signedCrash.now)
    (normalizeEventFormatFields signedCrash.event) signedCrash.now)

def crashedOnce : Disk := noProfiles.append plainHost signedCrash

theorem signedCrash_again : Accepts plainHost crashedOnce signedCrash (js "droid")
    crashedProfile where
  event := signedCrash_accepts.event
  harness_eq := rfl
  safe := signedCrash_accepts.safe
  loads := by
    have hfile := Disk.append_file signedCrash_accepts.appendEvent_eq
    refine .inr ⟨?_, (isValidHarnessProfile_data _ _).trans signedCrash_accepts.next⟩
    rw [crashedOnce, hfile, Function.update_self]
    rfl
  next := by decide +kernel

/-- The same crash twice: two events in the profile, and their hash. -/
theorem appendEvent_keeps_signedCrash :
    ∃ (profile : JsValue) (signatures : List JsString),
      readProfile plainHost (crashedOnce.append plainHost signedCrash) (js "droid")
        localProfileBase = .ok (some profile) ∧
      profile.field (js "events") = .array [data (normalizeEventFormatFields signedCrash.event),
        data (normalizeEventFormatFields signedCrash.event)] ∧
      profile.field (js "crash_signatures") = .array (signatures.map .string) ∧
      signatures.Nodup ∧ js "f94360680e22" ∈ signatures := by
  have hwrites : Writes plainHost crashedOnce signedCrash _ _ :=
    ⟨_, signedCrash_again.appendEvent_eq, .tail _ (.head _)⟩
  obtain ⟨harness, events, signatures, hharness, hread, -, hevents, hstored, hsignatures, hnodup,
    hhashes⟩ := (appendEvent_keeps_profiles plainHost).1 noProfiles crashedOnce _ signedCrash _ _
      (.step signedCrash .nil) rfl hwrites
  obtain rfl := JsValue.string.inj hharness
  have hfile := Disk.append_file signedCrash_accepts.appendEvent_eq
  have honce : storedEvents (crashedOnce.file (profilePath plainHost (js "droid")
      signedCrash.base)) = [data (normalizeEventFormatFields signedCrash.event)] := by
    rw [crashedOnce, hfile, Function.update_self]
    rfl
  have htwice : events = [data (normalizeEventFormatFields signedCrash.event),
      data (normalizeEventFormatFields signedCrash.event)] :=
    hstored.trans (congrArg (· ++ [_]) honce)
  refine ⟨_, signatures, hread, hevents.trans (congrArg _ htwice), hsignatures, hnodup, ?_⟩
  apply hhashes (data (normalizeEventFormatFields signedCrash.event)) _ _ (by decide) rfl
  rw [htwice]
  exact List.mem_cons_self

end OdinSentinel.Pacing
