import OdinSentinel.Pacing.Profiles

/-!
# Pacing recommendations

A harness's recommendation comes from its stored profile, else from its seed.  Where
either knows a crash signature, the crash override puts it into the crash-safe bucket.
The store collects signatures from the hashes of events, and an event may lack one.
-/

namespace OdinSentinel.Pacing

open JsText Host Json Transition

/-! ## Seeds -/

/-- `defaultFormatSeparator()`. -/
def defaultFormatSeparator : JsString := js " ;; "

def crushCrashHash : JsString :=
  js "f94360680e22b229e9fff8d9d34346689d023b2fffa2e6f8b13c7b4337d4c13f"

/-- The seed of `crush` that is used where its file is not there. -/
def crushSeedProfile : JsValue :=
  let crashEvent : JsValue := .object [
    (js "harness_id", .string (js "crush")),
    (js "event_type", .string (js "CRASH")),
    (js "ts", .string (js "2026-06-11T21:10:09Z")),
    (js "notes", .string (js "Coordinator panic triggered by overlapping queued prompt submissions during bootstrap; Crush v0.76.0; GLM-5.1 max reasoning")),
    (js "crash_signature_hash", .string crushCrashHash),
    (js "crash_signature_summary", .string (js "sync.(*WaitGroup).Wait | agent.(*coordinator).run | ui.(*UI).sendMessage.func2 | bubbletea.execBatchMsg | TUI run error: program experienced a panic")),
    (js "recovery_action", .string (js "restart crush --debug in same role slot; use single-block compact re-contract")),
    (js "submitted", .bool true),
    (js "delivery_format", .string (js "double_enter")),
    (js "modal_gate_assist", .bool false),
    (separatorTokenField, .string defaultFormatSeparator)]
  .object [
    (js "harness_id", .string (js "crush")),
    (js "version", .string (js "1.0")),
    (js "last_updated", .string (js "2026-06-12T00:00:00Z")),
    (js "basis_note", .string (js "provisional; seed data, n=1 field report 2026-06-11; not statistically significant")),
    (js "samples_total", .number (.ofNat 1)),
    (js "events", .array [crashEvent]),
    (js "crash_signatures", .array [.string crushCrashHash]),
    (js "recommended", .object [
      (js "harness_id", .string (js "crush")),
      (js "max_word_bucket", .string (js "0-100 words")),
      (js "min_idle_wait_seconds", .number (.ofNat 5)),
      (js "slash_command_bundling", .string (js "avoid")),
      (js "multi_phase_prompting", .string (js "avoid")),
      (js "notes", .string (js "Single-intent phased prompts; wait for idle after each phase; avoid slash-command bundling; avoid sending multiple fragments; crash override applied (1 known crash signature(s))")),
      (js "submit_profile", .string (js "double_enter")),
      (js "newline_policy", .string (js "preserve"))]),
    (js "message_format", .object [
      (js "harness_id", .string (js "crush")),
      (js "submit_profile", .string (js "double_enter")),
      (js "newline_policy", .string (js "preserve")),
      (js "multi_line_ok", .bool true),
      (js "field_separator", .string defaultFormatSeparator),
      (js "notes", .string (js "Send one complete instruction block, Enter, wait for idle; queued/fragmented prompts during bootstrap have caused coordinator panics."))])]

/-- The names that every object inherits a function under which throws without a receiver. -/
def throwingMembers : List JsString :=
  [js "hasOwnProperty", js "propertyIsEnumerable", js "toLocaleString", js "valueOf"]

/-- The other inherited functions, with what they return without a receiver. -/
def inheritedMembers : List (JsString × JsValue) :=
  [(js "constructor", .object []), (js "toString", .string (js "[object Undefined]")),
    (js "isPrototypeOf", .bool false)]

/-- `EMBEDDED_SEEDS[harness_id]`, called: a record literal, so that a harness named like an
inherited member finds that member. -/
def embeddedSeed (harness : JsString) : Except JsString (Option JsValue) :=
  if harness = js "crush" then .ok (some crushSeedProfile)
  else if harness ∈ throwingMembers then .error (js "TypeError")
  else .ok (inheritedMembers.lookup harness)

def seedPath (host : HostRuntime) (seedDir harness : JsString) : JsString :=
  host.joinPath seedDir (harness ++ js ".json")

/-- The seed of a harness: its file where there is one, and only if it passes. -/
def loadSeed (host : HostRuntime) (disk : Disk) (seedDir harness : JsString) :
    Except JsString (Option JsValue) :=
  if isSafeHarnessId harness = false then .ok none
  else
    match disk.file (seedPath host seedDir harness) with
    | .absent => embeddedSeed harness
    | .unreadable => .ok none
    | .json parsed => .ok (if isValidHarnessProfile parsed harness then some parsed else none)

/-! ## The recommendation -/

/-- A numeric value; `NaN` for another. -/
def numberOf : JsValue → JsNumber
  | .number value => value
  | _ => .nan

/-- The recommendation in the crash-safe bucket, where a crash signature is known. -/
def applyCrashOverride (recommended : JsValue) (crashCount : Nat) : JsValue :=
  if crashCount = 0 then recommended
  else
    let phasing := recommended.field (js "multi_phase_prompting")
    let notes := textOf (recommended.field (js "notes"))
    .object (setField (setField (setField (setField (setField (members recommended)
      (js "max_word_bucket") (.string (js "0-100 words")))
      (js "min_idle_wait_seconds")
        (.number ((numberOf (recommended.field (js "min_idle_wait_seconds"))).maximum (.ofNat 5))))
      (js "slash_command_bundling") (.string (js "avoid")))
      (js "multi_phase_prompting")
        (if isOneOf [js "allowed"] phasing then .string (js "avoid") else phasing))
      (js "notes") (.string (if Text.contains notes (js "crash") then notes
        else notes ++ js "; crash override applied (" ++ natText crashCount ++
          js " known crash signature(s))")))

def isConservativeRecommendation (recommended : JsValue) : Bool :=
  isOneOf [js "0-100 words"] (recommended.field (js "max_word_bucket")) &&
  isOneOf [js "avoid"] (recommended.field (js "slash_command_bundling")) &&
  (JsNumber.ofNat 5).le (numberOf (recommended.field (js "min_idle_wait_seconds")))

def conservativeFallback (harness : JsString) : JsValue :=
  .object [
    (js "harness_id", .string harness),
    (js "max_word_bucket", .string (js "0-100 words")),
    (js "min_idle_wait_seconds", .number (.ofNat 5)),
    (js "slash_command_bundling", .string (js "unknown")),
    (js "multi_phase_prompting", .string (js "unknown")),
    (js "notes", .string (js "No profile data available; using conservative defaults"))]

/-- `profile?.crash_signatures?.length ?? 0`. -/
def signatureCount : Option JsValue → Nat
  | some profile => (items (profile.field (js "crash_signatures"))).length
  | none => 0

/-- `if (value)` of a value that is a profile, or what an inherited member returned. -/
def isTruthy : JsValue → Bool
  | .undefined | .null => false
  | .bool value => value
  | .number value => value ≠ .nan ∧ value ≠ .ofNat 0
  | .string text => text ≠ []
  | .array _ | .object _ => true

def recommend (host : HostRuntime) (disk : Disk) (seedDir harness : JsString) :
    Except JsString JsValue :=
  if isSafeHarnessId harness = false then .ok (conservativeFallback (js "unsafe-harness"))
  else do
    let stored ← readProfile host disk harness localProfileBase
    let seed ← loadSeed host disk seedDir harness
    let crashCount := max (signatureCount stored) (signatureCount seed)
    match stored, seed with
    | some profile, _ => .ok (applyCrashOverride (profile.field (js "recommended")) crashCount)
    | none, some profile =>
        .ok (if isTruthy profile then
          applyCrashOverride (profile.field (js "recommended")) crashCount
        else conservativeFallback harness)
    | none, none => .ok (conservativeFallback harness)

/-! ## When a crash is remembered -/

variable {host : HostRuntime} {disk : Disk} {seedDir harness : JsString}

/-- The override of a finite wait is in the crash-safe bucket. -/
theorem override_conservative {recommended : JsValue} {wait : ℚ}
    (hwait : recommended.field (js "min_idle_wait_seconds") = .number (.finite wait))
    {crashCount : Nat} (hcount : crashCount ≠ 0) :
    isConservativeRecommendation (applyCrashOverride recommended crashCount) = true := by
  have hmaximum : (numberOf (.number (.finite wait))).maximum (.ofNat 5) = .finite (max wait 5) :=
    JsNumber.maximum_finite wait 5
  have hbucket : (applyCrashOverride recommended crashCount).field (js "max_word_bucket") =
      .string (js "0-100 words") := by
    rw [applyCrashOverride, if_neg hcount, field_setField, if_neg (by decide), field_setField,
      if_neg (by decide), field_setField, if_neg (by decide), field_setField, if_neg (by decide),
      field_setField, if_pos rfl]
  have hslash : (applyCrashOverride recommended crashCount).field (js "slash_command_bundling") =
      .string (js "avoid") := by
    rw [applyCrashOverride, if_neg hcount, field_setField, if_neg (by decide), field_setField,
      if_neg (by decide), field_setField, if_pos rfl]
  have hidle : (applyCrashOverride recommended crashCount).field (js "min_idle_wait_seconds") =
      .number (.finite (max wait 5)) := by
    rw [applyCrashOverride, if_neg hcount, field_setField, if_neg (by decide), field_setField,
      if_neg (by decide), field_setField, if_neg (by decide), field_setField, if_pos rfl, hwait,
      hmaximum]
  have hle : (JsNumber.ofNat 5).le (.finite (max wait 5)) = true :=
    decide_eq_true (le_max_right wait 5)
  rw [isConservativeRecommendation, hbucket, hslash, hidle, numberOf, hle]
  decide

/-- The recommendation of a profile that stands from its first event on is in the crash-safe
bucket exactly where a signature is known. -/
theorem default_override_iff (crashCount : Nat) :
    isConservativeRecommendation (applyCrashOverride (defaultRecommended harness) crashCount) =
      true ↔ crashCount ≠ 0 := by
  constructor
  · rintro hconservative rfl
    have hunknown : isOneOf [js "avoid"] (.string (js "unknown")) = false := by decide
    have hslash : (defaultRecommended harness).field (js "slash_command_bundling") =
        .string (js "unknown") := rfl
    rw [applyCrashOverride, if_pos rfl, isConservativeRecommendation, hslash, hunknown] at hconservative
    simp at hconservative
  · exact @override_conservative (defaultRecommended harness) 3 rfl crashCount

/-- The seed of the harness knows a crash signature: its file passes and lists one, or the
file is not there and the harness is `crush`. -/
def SeedSigned (host : HostRuntime) (disk : Disk) (seedDir harness : JsString) : Prop :=
  (disk.file (seedPath host seedDir harness) = .absent ∧ harness = js "crush") ∨
    ∃ seed, disk.file (seedPath host seedDir harness) = .json seed ∧
      isValidHarnessProfile seed harness = true ∧
      items (seed.field (js "crash_signatures")) ≠ []

/-- The seed's file is not there, and the record of embedded seeds inherits a member of the
harness's name that throws. -/
def SeedThrows (host : HostRuntime) (disk : Disk) (seedDir harness : JsString) : Prop :=
  disk.file (seedPath host seedDir harness) = .absent ∧ harness ∈ throwingMembers

/-- An inherited member is no profile, and lists no signature. -/
theorem signatureCount_inherited (name : JsString) :
    signatureCount (inheritedMembers.lookup name) = 0 := by
  rw [inheritedMembers, lookup_cons, lookup_cons, lookup_cons]
  split_ifs <;> rfl

/-- What the record of embedded seeds has under a name. -/
theorem embeddedSeed_cases (harness : JsString) :
    (harness ∈ throwingMembers ∧ embeddedSeed harness = .error (js "TypeError")) ∨
      (harness ∉ throwingMembers ∧ ∃ seed, embeddedSeed harness = .ok seed ∧
        (signatureCount seed ≠ 0 ↔ harness = js "crush")) := by
  by_cases hcrush : harness = js "crush"
  · subst hcrush
    exact .inr ⟨by decide, _, if_pos rfl, iff_of_true one_ne_zero rfl⟩
  · rw [embeddedSeed, if_neg hcrush]
    by_cases hthrows : harness ∈ throwingMembers
    · exact .inl ⟨hthrows, if_pos hthrows⟩
    · rw [if_neg hthrows]
      refine .inr ⟨hthrows, _, rfl, iff_of_false ?_ hcrush⟩
      exact not_not.mpr (signatureCount_inherited harness)

/-- Loading the seed throws, or finds a seed that lists a signature where it is signed. -/
theorem loadSeed_cases (hsafe : isSafeHarnessId harness = true) :
    (SeedThrows host disk seedDir harness ∧
      loadSeed host disk seedDir harness = .error (js "TypeError")) ∨
      (¬SeedThrows host disk seedDir harness ∧
        ∃ seed, loadSeed host disk seedDir harness = .ok seed ∧
          (signatureCount seed ≠ 0 ↔ SeedSigned host disk seedDir harness)) := by
  rw [loadSeed, if_neg (by rw [hsafe]; decide), SeedThrows, SeedSigned]
  cases hfile : disk.file (seedPath host seedDir harness) with
  | absent =>
      rcases embeddedSeed_cases harness with ⟨hthrows, herror⟩ | ⟨hreturns, seed, hseed, hsigned⟩
      · exact .inl ⟨⟨rfl, hthrows⟩, herror⟩
      · exact .inr ⟨fun hthrows => hreturns hthrows.2, seed, hseed, by simp [hsigned]⟩
  | unreadable => exact .inr ⟨by simp, none, rfl, by simp [signatureCount]⟩
  | json parsed =>
      refine .inr ⟨by simp, _, rfl, ?_⟩
      by_cases hvalid : isValidHarnessProfile parsed harness = true
      · simp [hvalid, signatureCount]
      · simp [hvalid, signatureCount]

/-- What is recommended for a harness whose profile keeps some events. -/
theorem recommend_of_keeps {events : List JsValue} {profile : JsValue}
    (hsafe : isSafeHarnessId harness = true)
    (hfile : disk.file (profilePath host harness localProfileBase) = .json profile)
    (hkeeps : Keeps harness events profile)
    (hvalid : isValidHarnessProfile profile harness = true) :
    recommend host disk seedDir harness = (loadSeed host disk seedDir harness).map fun seed =>
      applyCrashOverride (defaultRecommended harness)
        (max (signaturesOf events).length (signatureCount seed)) := by
  have hcount : signatureCount (some profile) = (signaturesOf events).length := by
    rw [signatureCount, hkeeps.signatures_eq, items, List.length_map]
  rw [recommend]
  rw [if_neg (by rw [hsafe]; decide), readProfile_of_valid hsafe hfile hvalid]
  cases loadSeed host disk seedDir harness with
  | error thrown => rfl
  | ok seed =>
      simp only [bind, Except.bind, hcount, hkeeps.recommended_eq]
      rfl

theorem signatures_ne_zero_iff (events : List JsValue) :
    (signaturesOf events).length ≠ 0 ↔
      ∃ event ∈ events, textOf (event.field (js "crash_signature_hash")) ≠ [] := by
  rw [Nat.ne_zero_iff_zero_lt, List.length_pos_iff_exists_mem]
  constructor
  · rintro ⟨hash, hmem⟩
    obtain ⟨hne, event, hevent, rfl⟩ := mem_signaturesOf.mp hmem
    exact ⟨event, hevent, hne⟩
  · rintro ⟨event, hevent, hne⟩
    exact ⟨_, mem_signaturesOf.mpr ⟨hne, event, hevent, rfl⟩⟩

/-- When the recommendation for a profile that keeps some events is in the crash-safe
bucket. -/
theorem recommend_conservative_iff {events : List JsValue} {profile : JsValue}
    (hsafe : isSafeHarnessId harness = true)
    (hfile : disk.file (profilePath host harness localProfileBase) = .json profile)
    (hkeeps : Keeps harness events profile)
    (hvalid : isValidHarnessProfile profile harness = true) :
    (∃ recommendation, recommend host disk seedDir harness = .ok recommendation ∧
        isConservativeRecommendation recommendation = true) ↔
      ¬SeedThrows host disk seedDir harness ∧
        ((∃ event ∈ events, textOf (event.field (js "crash_signature_hash")) ≠ []) ∨
          SeedSigned host disk seedDir harness) := by
  rw [recommend_of_keeps hsafe hfile hkeeps hvalid, ← signatures_ne_zero_iff]
  rcases @loadSeed_cases host disk seedDir harness hsafe with
    ⟨hthrows, herror⟩ | ⟨hreturns, seed, hseed, hsigned⟩
  · rw [herror]
    exact iff_of_false (fun ⟨_, hok, _⟩ => nomatch hok) fun hboth => hboth.1 hthrows
  · have hmax : max (signaturesOf events).length (signatureCount seed) ≠ 0 ↔
        (signaturesOf events).length ≠ 0 ∨ signatureCount seed ≠ 0 := by omega
    rw [hseed, ← hsigned, ← hmax, ← @default_override_iff harness]
    constructor
    · rintro ⟨_, hok, hconservative⟩
      cases hok
      exact ⟨hreturns, hconservative⟩
    · rintro ⟨-, hconservative⟩
      exact ⟨_, rfl, hconservative⟩

/-- Where an event was appended, the profile is there. -/
theorem Standing.kept_of_mem {events : List JsValue} {file : ProfileFile} {event : JsValue}
    (hstanding : Standing harness events file) (hmem : event ∈ events) :
    ∃ profile, file = .json profile ∧ Keeps harness events profile ∧
      isValidHarnessProfile profile harness = true := by
  cases hstanding with
  | absent => cases hmem
  | foreign _ => cases hmem
  | kept hkeeps hvalid => exact ⟨_, rfl, hkeeps, hvalid⟩

/-- A crash is remembered, exactly: in every run of appends from no profile, an appended
crash puts the recommendation into the crash-safe bucket if and only if some appended event
has the hash of a signature or the seed is signed, and loading the seed does not throw. -/
theorem crash_remembered_iff {start disk : Disk} {history : List (Step Disk Call)}
    (hrun : Run (Disk.append host) start history disk) (seedDir : JsString)
    (hsafe : isSafeHarnessId harness = true)
    (hstart : start.file (profilePath host harness localProfileBase) = .absent) :
    ((∃ event ∈ appended host (profilePath host harness localProfileBase) harness history,
        event.field (js "event_type") = .string (js "CRASH")) →
      ∃ recommendation, recommend host disk seedDir harness = .ok recommendation ∧
        isConservativeRecommendation recommendation = true) ↔
    (∀ event ∈ appended host (profilePath host harness localProfileBase) harness history,
        event.field (js "event_type") ≠ .string (js "CRASH")) ∨
      ¬SeedThrows host disk seedDir harness ∧
        ((∃ event ∈ appended host (profilePath host harness localProfileBase) harness history,
            textOf (event.field (js "crash_signature_hash")) ≠ []) ∨
          SeedSigned host disk seedDir harness) := by
  have hstanding := @standing_of_run host _ harness _ _ _ hrun hstart
  by_cases hcrash : ∃ event ∈ appended host (profilePath host harness localProfileBase) harness
      history, event.field (js "event_type") = .string (js "CRASH")
  · obtain ⟨event, hmem, htype⟩ := hcrash
    obtain ⟨profile, hfile, hkeeps, hvalid⟩ := hstanding.kept_of_mem hmem
    have hiff := @recommend_conservative_iff host disk seedDir harness _ _ hsafe hfile hkeeps hvalid
    constructor
    · exact fun hremembered => .inr (hiff.mp (hremembered ⟨event, hmem, htype⟩))
    · rintro (hnone | hsigned)
      · exact absurd htype (hnone event hmem)
      · exact fun _ => hiff.mpr hsigned
  · exact iff_of_true (fun hcrash' => absurd hcrash' hcrash)
      (.inl fun event hmem htype => hcrash ⟨event, hmem, htype⟩)

/-- A first append that writes is the one event of its profile. -/
theorem appended_once {start : Disk} {call : Call} {existing : JsValue}
    (haccepts : Accepts host start call harness existing) :
    appended host (profilePath host harness call.base) harness
      [⟨start, call, start.append host call⟩] = [call.event] := by
  rw [appended, appendsTo_of_calls haccepts.appendEvent_eq haccepts.harness_eq, beq_self_eq_true,
    beq_self_eq_true]
  rfl

/-- The hash of the crash is remembered. -/
theorem signedCrash_remembered :
    ∃ recommendation,
      recommend plainHost (noProfiles.append plainHost signedCrash) (js "seeds") (js "droid") =
        .ok recommendation ∧ isConservativeRecommendation recommendation = true := by
  have honce := appended_once signedCrash_accepts
  have hmem : signedCrash.event ∈ appended plainHost (profilePath plainHost (js "droid")
      localProfileBase) (js "droid")
      [⟨noProfiles, signedCrash, noProfiles.append plainHost signedCrash⟩] :=
    honce ▸ List.mem_singleton_self _
  have hhash : textOf (signedCrash.event.field (js "crash_signature_hash")) ≠ [] := by decide
  have hreturns : js "droid" ∉ throwingMembers := by decide
  exact (crash_remembered_iff (.step signedCrash .nil) (js "seeds") signedCrash_accepts.safe
    rfl).mpr (.inr ⟨fun hthrows => hreturns hthrows.2, .inl ⟨_, hmem, hhash⟩⟩) ⟨_, hmem, rfl⟩

/-- A crash of the same harness whose signature has no hash. -/
def unsignedCrash : Call where
  event := .object [
    (js "harness_id", .string (js "droid")),
    (js "event_type", .string (js "CRASH")),
    (js "ts", .string (js "2026-06-11T21:10:09Z"))]
  base := localProfileBase
  now := js "2026-06-12T00:00:00.000Z"

theorem unsignedCrash_accepts : Accepts plainHost noProfiles unsignedCrash (js "droid")
    (emptyProfile (js "droid") unsignedCrash.now) where
  event := by decide +kernel
  harness_eq := rfl
  safe := by decide +kernel
  loads := .inl ⟨rfl, if_pos (by decide +kernel)⟩
  next := by decide +kernel

/-- The crash without a hash is forgotten: it is in the profile, and the recommendation is
not in the crash-safe bucket. -/
theorem unsignedCrash_forgotten :
    ∃ history disk, Run (Disk.append plainHost) noProfiles history disk ∧
      (∃ event ∈ appended plainHost (profilePath plainHost (js "droid") localProfileBase)
        (js "droid") history, event.field (js "event_type") = .string (js "CRASH")) ∧
      ∃ recommendation, recommend plainHost disk (js "seeds") (js "droid") = .ok recommendation ∧
        isConservativeRecommendation recommendation = false := by
  have honce := appended_once unsignedCrash_accepts
  have hrun : Run (Disk.append plainHost) noProfiles
      [⟨noProfiles, unsignedCrash, noProfiles.append plainHost unsignedCrash⟩]
      (noProfiles.append plainHost unsignedCrash) := .step unsignedCrash .nil
  have hstanding := @standing_of_run plainHost _ (js "droid") _ _ _ hrun
    (show noProfiles.file (profilePath plainHost (js "droid") unsignedCrash.base) = .absent from rfl)
  rw [honce] at hstanding
  obtain ⟨profile, hfile, hkeeps, hvalid⟩ := hstanding.kept_of_mem (List.mem_singleton_self _)
  refine ⟨_, _, hrun, ⟨_, honce ▸ List.mem_singleton_self _, rfl⟩, ?_⟩
  have hseedFile : (noProfiles.append plainHost unsignedCrash).file
      (seedPath plainHost (js "seeds") (js "droid")) = .absent := by
    have hother : seedPath plainHost (js "seeds") (js "droid") ≠
        profilePath plainHost (js "droid") unsignedCrash.base := by decide +kernel
    rw [Disk.append_file unsignedCrash_accepts.appendEvent_eq, Function.update_of_ne hother]
    rfl
  have hembedded : embeddedSeed (js "droid") = .ok none := by
    rw [embeddedSeed, if_neg (by decide), if_neg (by decide)]
    rfl
  have hcount : max (signaturesOf [unsignedCrash.event]).length (signatureCount none) = 0 := rfl
  have hsafe : ¬isSafeHarnessId (js "droid") = false := by decide +kernel
  rw [recommend_of_keeps unsignedCrash_accepts.safe hfile hkeeps hvalid, loadSeed, if_neg hsafe,
    hseedFile, hembedded]
  refine ⟨_, rfl, Bool.eq_false_iff.mpr fun hconservative => ?_⟩
  exact default_override_iff _ |>.mp hconservative hcount

end OdinSentinel.Pacing
