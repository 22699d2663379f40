import OdinSentinel.Telemetry.Limits

/-!
# What the worker stores

The worker inserts a payload field by field as the client built it exactly when every
field of the report is within the limits of both.  Beyond them a label loses its end, a
list its last entries and a count its excess, and the client is told that its report was
taken.
-/

namespace OdinSentinel.Telemetry

open JsText Host

variable {host : HostRuntime} {env : Env} {id : JsString} {receivedAt : Int}
variable {report : JsValue} {payload : TelemetryPayload}

/-- The record that has a payload's fields. -/
def TelemetryPayload.stored (payload : TelemetryPayload) (id : JsString) (receivedAt : Int) :
    NormalizedReport :=
  { id
    version := payload.version
    teamCount := payload.teamCount
    violationCount := payload.violationCount
    haltCount := payload.haltCount
    layoutDriftCount := payload.layoutDriftEvents
    peakContextPct := payload.peakContextPct
    closeoutClean := if payload.closeoutClean then 1 else 0
    modelSignals := payload.modelSignals
    violationClasses := payload.violationClasses
    blockerClassifications := payload.blockerClassifications
    roleSlotCount := payload.roleSlotCount
    driftWarningCount := payload.driftWarningCount
    degradedLayout := if payload.degradedLayout then 1 else 0
    receivedAt }

/-- The body that carries a payload. -/
def TelemetryPayload.body (host : HostRuntime) (payload : TelemetryPayload) : JsString :=
  Json.stringify host payload.toJson

/-! ## Within the limits -/

/-- The cleaned entries of a list of labels. -/
def labelsOf : JsValue → List JsString
  | .array entries => entries.map cleaned
  | _ => []

/-- The cleaned classes of a list of violations. -/
def classLabelsOf : JsValue → List JsString
  | .array entries => (entries.filter isRecord).map fun entry => cleaned (entry.field (js "class"))
  | _ => []

/-- The labels that the client reads violation classes from. -/
def violationLabels (report : JsValue) : List JsString :=
  let direct := labelsOf (report.field (js "violationClasses"))
  if direct.any (· ≠ []) then direct else classLabelsOf (report.field (js "violations"))

/-- The labels that the client reads blocker classifications from. -/
def blockerLabels (report : JsValue) : List JsString :=
  labelsOf ((axSummary report).field (js "blockerClassifications"))

/-- A report within the limits of the client and the worker. -/
structure Storable (report : JsValue) : Prop where
  version : ∀ unit ∈ (cleaned (report.field (js "version")))[31]?, isSpace unit = false
  violationCount : CountFits (report.field (js "violationCount")) (report.field (js "violations"))
  haltCount : CountFits (report.field (js "haltCount")) (report.field (js "halts"))
  modelSignals : SignalsFit (signalEntries (report.field (js "modelSignals")))
  violationClasses : LabelsFit (violationLabels report)
  blockerClassifications : LabelsFit (blockerLabels report)

theorem safeStringArray_eq (value : JsValue) :
    safeStringArray value = distinct ((labelsOf value).map (shortened 96)) := by
  cases value with
  | array entries =>
      rw [labelsOf, List.map_map]
      exact congrArg distinct (List.map_congr_left fun entry _ => safeString_eq entry 96)
  | _ => rfl

theorem safeStringArray_eq_nil_iff (value : JsValue) :
    safeStringArray value = [] ↔ (labelsOf value).any (· ≠ []) = false := by
  rw [safeStringArray_eq, distinct_eq_nil_iff, List.forall_mem_map, List.any_eq_false]
  simp only [shortened_eq_nil_iff (by decide : 96 ≠ 0), decide_eq_true_eq, not_not]

theorem classesOf_eq (value : JsValue) :
    classesOf value = distinct ((classLabelsOf value).map (shortened 96)) := by
  cases value with
  | array entries =>
      rw [classLabelsOf, List.map_map]
      exact congrArg distinct (List.map_congr_left fun entry _ => safeString_eq _ 96)
  | _ => rfl

theorem violationClasses_eq (report : JsValue) :
    violationClasses report = distinct ((violationLabels report).map (shortened 96)) := by
  rw [violationClasses, violationLabels]
  by_cases hdirect : (labelsOf (report.field (js "violationClasses"))).any (· ≠ []) = true
  · have hshown : safeStringArray (report.field (js "violationClasses")) ≠ [] := by
      rw [Ne, safeStringArray_eq_nil_iff, hdirect]
      exact Bool.true_eq_false_eq_False
    rw [if_pos hdirect, if_pos hshown, safeStringArray_eq]
  · have hnone : safeStringArray (report.field (js "violationClasses")) = [] :=
      (safeStringArray_eq_nil_iff _).mpr (Bool.eq_false_of_not_eq_true hdirect)
    rw [if_neg hdirect, if_neg (not_not_intro hnone), classesOf_eq]

theorem trim_labelsOf {value : JsValue} : ∀ label ∈ labelsOf value, trim label = label := by
  intro label hlabel
  cases value with
  | array entries =>
      obtain ⟨entry, -, rfl⟩ := List.mem_map.mp hlabel
      exact trim_cleaned entry
  | _ => cases hlabel

theorem trim_violationLabels : ∀ label ∈ violationLabels report, trim label = label := by
  intro label hlabel
  rw [violationLabels] at hlabel
  split at hlabel
  · exact trim_labelsOf label hlabel
  · cases hviolations : report.field (js "violations") with
    | array entries =>
        rw [hviolations] at hlabel
        obtain ⟨entry, -, rfl⟩ := List.mem_map.mp hlabel
        exact trim_cleaned _
    | _ =>
        rw [hviolations] at hlabel
        cases hlabel

/-! ## The body -/

theorem keys_toJson (payload : TelemetryPayload) : keys payload.toJson = allowedReportKeys := rfl

theorem unknownReportKeys_toJson (payload : TelemetryPayload) :
    unknownReportKeys payload.toJson = [] := by
  rw [unknownReportKeys, keys_toJson, List.filter_eq_nil_iff]
  intro key hkey
  simpa using hkey

/-- What the worker reads of a payload. -/
theorem normalizedReport_toJson (payload : TelemetryPayload) (id version : JsString)
    (receivedAt : Int) :
    normalizedReport id version receivedAt payload.toJson =
      { id
        version
        teamCount := toFiniteInt (.number (.ofInt payload.teamCount)) 0 26
        violationCount := toFiniteInt (.number (.ofInt payload.violationCount)) 0 10000
        haltCount := toFiniteInt (.number (.ofInt payload.haltCount)) 0 10000
        layoutDriftCount := toFiniteInt (.number (.ofInt payload.layoutDriftEvents)) 0 10000
        peakContextPct := toFiniteInt (.number (.ofInt payload.peakContextPct)) 0 100
        closeoutClean := if payload.closeoutClean then 1 else 0
        modelSignals :=
          modelSignalSummaries (.array (payload.modelSignals.map ModelSignal.toJson))
        violationClasses := stringArray (.array (payload.violationClasses.map .string))
        blockerClassifications :=
          stringArray (.array (payload.blockerClassifications.map .string))
        roleSlotCount := toFiniteInt (.number (.ofInt payload.roleSlotCount)) 0 10000
        driftWarningCount := toFiniteInt (.number (.ofInt payload.driftWarningCount)) 0 10000
        degradedLayout := if payload.degradedLayout then 1 else 0
        receivedAt } := rfl

/-- The worker reads a payload back exactly when its report is within the limits. -/
theorem normalizedReport_stored_iff (hpayload : payload = toTelemetryPayload report) :
    normalizedReport id (toFiniteString (.string payload.version) 32) receivedAt
        payload.toJson = payload.stored id receivedAt ↔
      Storable report := by
  have hsignals := modelSignals_again_iff (signalEntries (report.field (js "modelSignals")))
  have hclasses := stringArray_labels_iff (@trim_violationLabels report)
  have hblockers := stringArray_labels_iff
    (@trim_labelsOf ((axSummary report).field (js "blockerClassifications")))
  rw [← modelSignals_eq] at hsignals
  rw [← violationClasses_eq] at hclasses
  rw [← safeStringArray_eq] at hblockers
  subst hpayload
  rw [normalizedReport_toJson, TelemetryPayload.stored, NormalizedReport.mk.injEq,
    toTelemetryPayload]
  dsimp only
  rw [toFiniteString_version_iff, toFiniteInt_lengthOf_iff, toFiniteInt_lengthOf_iff, hsignals,
    hclasses, blockerClassifications, hblockers]
  constructor
  · rintro ⟨-, hcut, -, hviolated, hhalted, -, -, -, hmodels, hclassed, hblocked, -⟩
    exact ⟨hcut, hviolated, hhalted, hmodels, hclassed, hblocked⟩
  · intro hfit
    -- The other counts are in range whatever the report says.
    exact ⟨rfl, hfit.version, toFiniteInt_safeInt (by decide), hfit.violationCount,
      hfit.haltCount, toFiniteInt_safeInt (by decide), toFiniteInt_safeInt (by decide), rfl,
      hfit.modelSignals, hfit.violationClasses, hfit.blockerClassifications,
      toFiniteInt_safeInt (by decide), toFiniteInt_safeInt (by decide), rfl, rfl⟩

/-! ## The way of a payload -/

theorem plain_count {count : Int} (hleast : 0 ≤ count) (hmost : count ≤ 10000) :
    Json.Plain (.number (.ofInt count)) := by
  refine ⟨count.toNat, by omega, ?_⟩
  rw [JsNumber.ofNat, JsNumber.ofInt]
  congr 1
  exact_mod_cast (Int.toNat_of_nonneg hleast).symm

theorem plain_safeInt {value : JsValue} {most : Int} (hleast : 0 ≤ most) (hmost : most ≤ 10000) :
    Json.Plain (.number (.ofInt (safeInt value 0 0 most))) :=
  plain_count (le_safeInt hleast le_rfl) ((safeInt_le hleast hleast).trans hmost)

theorem plainItems_texts (texts : List JsString) : Json.PlainItems (texts.map .string) := by
  apply Json.plainItems_of_forall
  intro item hitem
  obtain ⟨text, -, rfl⟩ := List.mem_map.mp hitem
  exact trivial

theorem plainItems_modelSignals (report : JsValue) :
    Json.PlainItems ((modelSignals report).map ModelSignal.toJson) := by
  rw [modelSignals_eq, List.map_map]
  apply Json.plainItems_of_forall
  intro item hitem
  obtain ⟨entry, -, rfl⟩ := List.mem_map.mp hitem
  exact ⟨(by decide : [js "role", js "model", js "violations"].Nodup), trivial, trivial,
    plain_safeInt (by decide) le_rfl, trivial⟩

/-- A payload whose counts are in range comes back from its text. -/
theorem plain_payload
    (hviolations : CountFits (report.field (js "violationCount")) (report.field (js "violations")))
    (hhalts : CountFits (report.field (js "haltCount")) (report.field (js "halts"))) :
    Json.Plain (toTelemetryPayload report).toJson := by
  have hcounted : ∀ {stated counted : JsValue}, CountFits stated counted →
      Json.Plain (.number (.ofInt (safeInt stated (lengthOf counted) 0 10000))) :=
    fun {_ counted} hfits => plain_count (le_safeInt (by decide) (lengthOf_nonneg counted))
      (safeInt_lengthOf_le_iff.mpr hfits)
  refine ⟨(by decide : allowedReportKeys.Nodup), trivial, ?_⟩
  exact ⟨plain_safeInt (by decide) (by decide), hcounted hviolations, hcounted hhalts,
    plain_safeInt (by decide) le_rfl, plain_safeInt (by decide) (by decide), trivial,
    plainItems_modelSignals report, plainItems_texts _, plainItems_texts _,
    plain_safeInt (by decide) le_rfl, plain_safeInt (by decide) le_rfl, trivial, trivial⟩

/-- A version that shows something still does in the payload. -/
theorem version_shown {version : JsString} (hversion : report.field (js "version") = .string version)
    (hshown : trim version ≠ []) : trim (toTelemetryPayload report).version ≠ [] := by
  have hvisible : ∃ unit ∈ redactString version, isSpace unit = false := by
    apply redactString_visible
    by_contra hblank
    exact hshown ((trim_eq_nil_iff version).mpr (by simpa using hblank))
  have hcleaned : cleaned (.string version) ≠ [] := by
    obtain ⟨unit, hunit, hspace⟩ := hvisible
    exact List.ne_nil_of_mem (Text.mem_trimBy_of_not hunit hspace)
  obtain ⟨first, rest, hfirst⟩ := List.exists_cons_of_ne_nil hcleaned
  have hopen : isSpace first = false :=
    (Text.trimBy_eq_self_iff.mp (trim_cleaned (.string version))).1 first (by rw [hfirst]; rfl)
  have hsent : (toTelemetryPayload report).version = shortened 32 (first :: rest) := by
    rw [toTelemetryPayload, hversion]
    dsimp only
    rw [safeString_eq, hfirst]
  have hmem : first ∈ shortened 32 (first :: rest) := by
    rw [shortened_eq_take]
    exact List.mem_cons_self
  rw [hsent]
  exact List.ne_nil_of_mem (Text.mem_trimBy_of_not hmem hopen)

theorem fetchReport_body (hplain : Json.Plain payload.toJson)
    (hfits : Registry.byteLength (payload.body host) ≤ maxBodyBytes)
    (hlength : payload.version.length ≤ 32) (hshown : trim payload.version ≠ [])
    (hallowed : versionAllowed (toFiniteString (.string payload.version) 32) env = true) :
    fetchReport env id receivedAt (payload.body host) =
      .ok (normalizedReport id (toFiniteString (.string payload.version) 32) receivedAt
        payload.toJson) := by
  have hversion : payload.toJson.field (js "version") = .string payload.version := rfl
  have hrecord : isRecord payload.toJson = true := rfl
  have htrimmed : (trim payload.version).length ≤ 32 :=
    (Text.trimBy_infix_self isSpace _).length_le.trans hlength
  have hwhole : isOverlong (.string payload.version) = false :=
    decide_eq_false (Nat.not_lt.mpr htrimmed)
  have hnamed : toFiniteString (.string payload.version) 32 ≠ [] := by
    rw [toFiniteString, shortened_of_le htrimmed]
    exact hshown
  rw [fetchReport, if_neg (Nat.not_lt.mpr hfits), TelemetryPayload.body,
    Json.parse_stringify hplain]
  simp only [hrecord, Bool.not_true, Bool.false_eq_true, if_false, unknownReportKeys_toJson, ne_eq,
    not_true_eq_false, hversion, hwhole, hnamed, hallowed]

theorem fetchReport_ok {body : JsString} {record : NormalizedReport}
    (hstored : fetchReport env id receivedAt body = .ok record) :
    ∃ version sent, record = normalizedReport id version receivedAt sent := by
  rw [fetchReport] at hstored
  split at hstored
  · cases hstored
  · split at hstored
    · cases hstored
    · dsimp only at hstored
      split_ifs at hstored
      exact ⟨_, _, (Except.ok.inj hstored).symm⟩

/-- A payload that is stored has counts in range. -/
theorem counts_of_stored {body : JsString}
    (hstored : fetchReport env id receivedAt body = .ok (payload.stored id receivedAt)) :
    payload.violationCount ≤ 10000 ∧ payload.haltCount ≤ 10000 := by
  obtain ⟨version, sent, hrecord⟩ := fetchReport_ok hstored
  have hviolations := congrArg NormalizedReport.violationCount hrecord
  have hhalts := congrArg NormalizedReport.haltCount hrecord
  exact ⟨hviolations.trans_le (safeInt_le (by decide) (by decide)),
    hhalts.trans_le (safeInt_le (by decide) (by decide))⟩

/-- A report whose version shows something, whose payload fits the worker's body and whose
version the worker takes is stored as its payload exactly when it is within the limits. -/
theorem fetchReport_stored_iff {version : JsString}
    (hversion : report.field (js "version") = .string version) (hshown : trim version ≠ [])
    (hpayload : payload = toTelemetryPayload report)
    (hfits : Registry.byteLength (payload.body host) ≤ maxBodyBytes)
    (hallowed : versionAllowed (toFiniteString (.string payload.version) 32) env = true) :
    fetchReport env id receivedAt (payload.body host) = .ok (payload.stored id receivedAt) ↔
      Storable report := by
  have hlength : payload.version.length ≤ 32 := by
    rw [hpayload, toTelemetryPayload, safeString_eq, length_shortened]
    exact min_le_left _ _
  have hfetch : CountFits (report.field (js "violationCount")) (report.field (js "violations")) →
      CountFits (report.field (js "haltCount")) (report.field (js "halts")) →
        fetchReport env id receivedAt (payload.body host) =
          .ok (normalizedReport id (toFiniteString (.string payload.version) 32) receivedAt
            payload.toJson) := by
    intro hviolations hhalts
    apply fetchReport_body _ hfits hlength _ hallowed
    · rw [hpayload]
      exact plain_payload hviolations hhalts
    · rw [hpayload]
      exact version_shown hversion hshown
  rw [← normalizedReport_stored_iff hpayload]
  constructor
  · intro hstored
    obtain ⟨hviolations, hhalts⟩ := counts_of_stored hstored
    rw [hpayload] at hviolations hhalts
    rw [hfetch (safeInt_lengthOf_le_iff.mp hviolations) (safeInt_lengthOf_le_iff.mp hhalts)]
      at hstored
    exact Except.ok.inj hstored
  · intro hsame
    have hfit := (normalizedReport_stored_iff hpayload).mp hsame
    rw [hfetch hfit.violationCount hfit.haltCount, hsame]

/-- The worker allows every field of a payload, and what it inserts for one that it takes
is the payload itself exactly when the report is within the limits. -/
theorem telemetry_stored_iff (host : HostRuntime) (env : Env) (id : JsString) (receivedAt : Int)
    {report : JsValue} {version : JsString}
    (hversion : report.field (js "version") = .string version) (hshown : trim version ≠ []) :
    (∀ key ∈ keys (toTelemetryPayload report).toJson, key ∈ allowedReportKeys) ∧
      (Registry.byteLength ((toTelemetryPayload report).body host) ≤ maxBodyBytes →
        versionAllowed (toFiniteString (.string (toTelemetryPayload report).version) 32) env =
          true →
        (fetchReport env id receivedAt ((toTelemetryPayload report).body host) =
            .ok ((toTelemetryPayload report).stored id receivedAt) ↔
          Storable report)) := by
  constructor
  · rw [keys_toJson]
    exact fun key hkey => hkey
  · intro hfits hallowed
    exact fetchReport_stored_iff hversion hshown rfl hfits hallowed

def anyVersion : Env := { protocolVersionAllowlist := none }

def plainReport : JsValue :=
  .object [(js "version", .string (js "1.4.0")), (js "haltCount", .number (.ofNat 2)),
    (js "modelSignals", .array [.object [(js "role", .string (js "pm")),
      (js "model", .string (js "opus")), (js "violations", .number (.ofNat 1))]]),
    (js "violations", .array [.object [(js "class", .string (js " late ack "))]])]

theorem plainReport_cleaned :
    cleaned (plainReport.field (js "version")) = js "1.4.0" ∧
      (signalEntries (plainReport.field (js "modelSignals"))).map (fun entry =>
        (cleaned (entry.field (js "role")), cleaned (entry.field (js "model")))) =
          [(js "pm", js "opus")] ∧
      violationLabels plainReport = [js "late ack"] := by
  decide +kernel

theorem plainReport_storable : Storable plainReport := by
  obtain ⟨hversion, hsignals, hclasses⟩ := plainReport_cleaned
  refine ⟨?_, .inr (by decide), .inl ⟨2, rfl⟩, ⟨?_, by decide⟩, ?_, ⟨?_, by decide⟩⟩
  · rw [hversion]
    rintro unit ⟨⟩
  · intro entry hentry
    have hlabels := List.mem_map_of_mem (f := fun entry =>
      (cleaned (entry.field (js "role")), cleaned (entry.field (js "model")))) hentry
    rw [hsignals, List.mem_singleton, Prod.mk.injEq] at hlabels
    rw [hlabels.1, hlabels.2]
    decide
  · rw [hclasses]
    exact ⟨by decide, by decide⟩
  · rintro label ⟨⟩

theorem telemetry_stored_iff_plainReport :
    fetchReport anyVersion (js "0") 0 ((toTelemetryPayload plainReport).body plainHost) =
      .ok ((toTelemetryPayload plainReport).stored (js "0") 0) :=
  ((@telemetry_stored_iff plainHost anyVersion (js "0") 0 plainReport _ rfl (by decide)).2
    (by decide +kernel) rfl).mpr plainReport_storable

/-- A class of 65 units. -/
def longLabel : JsString := 97 :: (List.replicate 32 [32, 97]).flatten

def longLabelReport : JsValue :=
  .object [(js "version", .string (js "1.4.0")),
    (js "violationClasses", .array [.string longLabel])]

def longLabelPayload : TelemetryPayload :=
  { version := js "1.4.0", teamCount := 0, violationCount := 0, haltCount := 0,
    layoutDriftEvents := 0, peakContextPct := 0, closeoutClean := false, modelSignals := [],
    violationClasses := [longLabel], blockerClassifications := [], roleSlotCount := 0,
    driftWarningCount := 0, degradedLayout := false }

theorem toTelemetryPayload_longLabel : toTelemetryPayload longLabelReport = longLabelPayload := by
  decide +kernel

/-- The client sends the class whole and the worker stores its first 64 units. -/
theorem longLabel_shortened :
    longLabelReport.field (js "version") = .string (js "1.4.0") ∧ trim (js "1.4.0") ≠ [] ∧
      Registry.byteLength ((toTelemetryPayload longLabelReport).body plainHost) ≤ maxBodyBytes ∧
      versionAllowed (toFiniteString (.string (toTelemetryPayload longLabelReport).version) 32)
        anyVersion = true ∧
      (toTelemetryPayload longLabelReport).violationClasses = [longLabel] ∧
      fetchReport anyVersion (js "0") 0 ((toTelemetryPayload longLabelReport).body plainHost) =
        .ok { (toTelemetryPayload longLabelReport).stored (js "0") 0 with
          violationClasses := [longLabel.take 64] } ∧
      longLabel.take 64 ≠ longLabel := by
  rw [toTelemetryPayload_longLabel]
  refine ⟨rfl, by decide, by decide +kernel, rfl, rfl, by decide +kernel, by decide⟩

end OdinSentinel.Telemetry
