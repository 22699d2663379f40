import OdinSentinel.DependencyAudit.Advisories
import OdinSentinel.DependencyAudit.Gate
import OdinSentinel.DependencyAudit.Overrides

/-!
# What passes the dependency audit

The gate passes what its manifest, pins and report approve, provided that every advisory's
severity has a text: where one has none the gate fails as if no audit had run.
-/

namespace OdinSentinel.DependencyAudit

open JsText Calendar Host Unicode Validators Readiness PosixPath

variable {host : HostRuntime} {tables : Tables} {packageRoot : Place}
variable {entries : List ExceptionEntry} {input : AuditInput}

/-! ## Pins -/

/-- Every pin of the audited workspace is the override that the workspace text, which is there,
applies. -/
def PinsHold (packageRoot : Place) (input : AuditInput) (entries : List ExceptionEntry) : Prop :=
  ∀ entry ∈ entries, ∀ pin, entry.pin = some pin →
    normalizeWorkspaceLabel packageRoot pin.workspace =
      normalizeWorkspaceLabel packageRoot input.workspaceLabel →
    ∃ text, input.workspaceText = some text ∧ AppliesOverride text pin.package pin.range

theorem pinOf_eq_some {audited : JsString} {entry : ExceptionEntry} {pin : Pin} :
    pinOf packageRoot audited entry = some pin ↔
      entry.pin = some pin ∧ normalizeWorkspaceLabel packageRoot pin.workspace = audited := by
  rw [pinOf, Option.filter_eq_some_iff, beq_iff_eq]

theorem pinErrors_eq_nil {overrides : Overrides} {advisory : JsString} {pin : Pin} :
    pinErrors overrides advisory pin = [] ↔ overrides.lookup pin.package = some pin.range := by
  rw [pinErrors]
  cases overrides.lookup pin.package with
  | none => simp
  | some actual => simp

theorem applicable_eq_nil {audited : JsString} :
    (entries.filter fun entry => (pinOf packageRoot audited entry).isSome) = [] ↔
      ∀ entry ∈ entries, ∀ pin, entry.pin = some pin →
        normalizeWorkspaceLabel packageRoot pin.workspace ≠ audited := by
  rw [List.filter_eq_nil_iff]
  refine forall₂_congr fun entry _ => ?_
  rw [Bool.not_eq_true, Option.isSome_eq_false_iff, Option.isNone_iff_eq_none,
    Option.eq_none_iff_forall_ne_some]
  simp only [ne_eq, pinOf_eq_some, not_and]

/-- Under a workspace text the pins are looked up in its overrides. -/
theorem validateOverrideLinkage_eq_nil {text label : JsString} :
    validateOverrideLinkage packageRoot entries (some text) label = [] ↔
      ∀ entry ∈ entries, ∀ pin, entry.pin = some pin →
        normalizeWorkspaceLabel packageRoot pin.workspace =
          normalizeWorkspaceLabel packageRoot label →
        AppliesOverride text pin.package pin.range := by
  rw [validateOverrideLinkage, List.flatMap_eq_nil_iff]
  refine forall₂_congr fun entry _ => ?_
  cases hpinOf : pinOf packageRoot (normalizeWorkspaceLabel packageRoot label) entry with
  | none =>
      refine iff_of_true rfl fun pin hpin hworkspace => ?_
      rw [pinOf_eq_some.mpr ⟨hpin, hworkspace⟩] at hpinOf
      cases hpinOf
  | some applied =>
      obtain ⟨happlied, hworkspace⟩ := pinOf_eq_some.mp hpinOf
      rw [pinErrors_eq_nil, lookup_parseOverridesBlock]
      constructor
      · intro hlookup pin hpin _
        obtain rfl := Option.some.inj (happlied.symm.trans hpin)
        exact hlookup
      · intro hpins
        exact hpins applied happlied hworkspace

theorem linkageErrors_eq_nil
    (hlabel : ∀ entry ∈ entries, entry.pin ≠ none →
      normalizeWorkspaceLabel packageRoot
        (normalizeWorkspaceLabel packageRoot input.workspaceLabel) =
          normalizeWorkspaceLabel packageRoot input.workspaceLabel) :
    linkageErrors packageRoot input entries = [] ↔ PinsHold packageRoot input entries := by
  unfold linkageErrors PinsHold
  cases htext : input.workspaceText with
  | none =>
      by_cases hnone : (entries.filter fun entry => (pinOf packageRoot
          (normalizeWorkspaceLabel packageRoot input.workspaceLabel) entry).isSome) = []
      · rw [if_neg (fun hboth => hboth.1 hnone)]
        refine iff_of_true rfl fun entry hentry pin hpin hworkspace => ?_
        exact absurd hworkspace (applicable_eq_nil.mp hnone entry hentry pin hpin)
      · rw [if_pos ⟨hnone, rfl⟩]
        refine iff_of_false (List.cons_ne_nil _ _) fun hpins => hnone (applicable_eq_nil.mpr ?_)
        intro entry hentry pin hpin hworkspace
        obtain ⟨text, htext, -⟩ := hpins entry hentry pin hpin hworkspace
        cases htext
  | some text =>
      rw [if_neg (fun hboth => by cases hboth.2), validateOverrideLinkage_eq_nil]
      refine forall₂_congr fun entry hentry => forall₂_congr fun pin hpin => ?_
      rw [hlabel entry hentry (by rw [hpin]; exact Option.some_ne_none pin)]
      simp only [Option.some.injEq, exists_eq_left']

/-! ## Advisories -/

/-- A severity at or above the floor. -/
def IsGated (host : HostRuntime) (tables : Tables) (advisory : JsValue) : Prop :=
  ∃ severity ∈ gatedSeverities, HasSeverity host tables advisory severity

/-- Of an advisory that is high or critical an entry carries the id. -/
def Covered (host : HostRuntime) (tables : Tables) (entries : List ExceptionEntry)
    (advisory : JsValue) : Prop :=
  IsGated host tables advisory → ∃ entry ∈ entries, CarriesId advisory entry.advisory

theorem IsAdvisoryId.ne_nil {text : JsString} (hid : IsAdvisoryId text) : text ≠ [] := by
  obtain ⟨first, second, third, -, -, -, rfl⟩ := hid
  apply List.append_ne_nil_of_left_ne_nil
  apply List.append_ne_nil_of_left_ne_nil
  apply List.append_ne_nil_of_left_ne_nil
  apply List.append_ne_nil_of_left_ne_nil
  apply List.append_ne_nil_of_left_ne_nil
  decide

theorem entryOf_isNone {advisory : Advisory} (hids : ∀ entry ∈ entries, entry.advisory ≠ []) :
    (entryOf entries advisory).isNone = false ↔
      ∃ entry ∈ entries, entry.advisory = advisory.id := by
  rw [entryOf]
  by_cases hid : advisory.id = []
  · rw [if_pos hid, hid]
    refine iff_of_false (by decide) ?_
    rintro ⟨entry, hentry, hempty⟩
    exact hids entry hentry hempty
  · rw [if_neg hid]
    simp

theorem readAdvisory_eq_ok {value : JsValue} {advisory : Advisory}
    (hread : readAdvisory host tables value = .ok advisory) :
    severityOf host tables value = some advisory.severity ∧ advisory.id = advisoryId value := by
  rw [readAdvisory] at hread
  cases hseverity : severityOf host tables value with
  | none =>
      rw [hseverity] at hread
      exact absurd hread Fallible.error_ne_ok
  | some severity =>
      rw [hseverity] at hread
      obtain rfl := Except.ok.inj hread
      exact ⟨rfl, rfl⟩

theorem exists_readAdvisory {value : JsValue} :
    (∃ advisory, readAdvisory host tables value = .ok advisory) ↔
      ∃ severity, HasSeverity host tables value severity := by
  simp only [← severityOf_eq_some]
  rw [readAdvisory]
  cases severityOf host tables value with
  | none => simp
  | some severity => simp

/-- An advisory that was read is covered where its id is an entry's. -/
theorem covered_iff {value : JsValue} {advisory : Advisory}
    (hids : ∀ entry ∈ entries, entry.advisory ≠ [])
    (hread : readAdvisory host tables value = .ok advisory) :
    (advisory.severity ∈ gatedSeverities → ∃ entry ∈ entries, entry.advisory = advisory.id) ↔
      Covered host tables entries value := by
  obtain ⟨hseverity, hid⟩ := readAdvisory_eq_ok hread
  have hgated : IsGated host tables value ↔ advisory.severity ∈ gatedSeverities := by
    simp only [IsGated, ← severityOf_eq_some, hseverity, Option.some.injEq, exists_eq_right']
  have hcarries : (∃ entry ∈ entries, CarriesId value entry.advisory) ↔
      ∃ entry ∈ entries, entry.advisory = advisory.id := by
    rw [hid]
    refine exists_congr fun entry => and_congr_right fun hentry => ?_
    exact carriesId_iff (hids entry hentry)
  rw [Covered, hgated, hcarries]

/-- Nothing is left unaccepted where every advisory that was read is covered. -/
theorem unaccepted_eq_nil {values : List JsValue} {advisories : List Advisory}
    (hids : ∀ entry ∈ entries, entry.advisory ≠ [])
    (hread : values.mapM (readAdvisory host tables) = .ok advisories) :
    (reconcile advisories entries).unaccepted = [] ↔
      ∀ value ∈ values, Covered host tables entries value := by
  have hnone : (reconcile advisories entries).unaccepted = [] ↔
      ∀ advisory ∈ advisories, advisory.severity ∈ gatedSeverities →
        ∃ entry ∈ entries, entry.advisory = advisory.id := by
    simp only [reconcile, List.filter_eq_nil_iff, List.mem_filter, List.contains_iff_mem, and_imp,
      Bool.not_eq_true, entryOf_isNone hids]
  rw [hnone]
  apply Fallible.forall_results_iff hread
  intro value advisory hvalue _
  exact covered_iff hids hvalue

/-! ## The gate -/

variable (host tables packageRoot input) in
/-- What the gate is for: the manifest records exceptions, its pins hold, an audit ran and
every high or critical advisory of it is an exception. -/
structure Approved (today : Int) (entries : List ExceptionEntry) (report : JsValue) : Prop where
  manifest : IsManifest today input.manifest entries
  pins : PinsHold packageRoot input entries
  verified : ∃ raw, input.reportText = some raw ∧ ShowsAudit raw report
  covered : ∀ advisory, Lists report advisory → Covered host tables entries advisory

/-- Every advisory's severity has a text. -/
def SeveritiesRead (host : HostRuntime) (tables : Tables) (report : JsValue) : Prop :=
  ∀ advisory, Lists report advisory → ∃ severity, HasSeverity host tables advisory severity

variable (host tables packageRoot input) in
def Passes : Prop :=
  ∃ evaluation, evaluateDependencyAudit host tables packageRoot input = .ok evaluation ∧
    evaluation.ok = true

variable (host tables packageRoot input) in
/-- Approved at the instant of the audit. -/
def Sanctioned : Prop :=
  ∃ now entries report, input.now = some now ∧
    Approved host tables packageRoot input (now / msPerDay) entries report

theorem parseAuditReport_eq_ok {text : Option JsString} {advisories : List Advisory} :
    parseAuditReport host tables text = .ok advisories ↔
      ∃ report, (∃ raw, text = some raw ∧ ShowsAudit raw report) ∧
        (advisoryValues report).mapM (readAdvisory host tables) = .ok advisories := by
  simp only [← @validateAuditReport_verified host]
  rw [parseAuditReport]
  generalize validateAuditReport host text = verdict
  cases verdict with
  | verified report => simp
  | refused name message => exact iff_of_false Fallible.error_ne_ok (by simp)

theorem evaluateReport_ok {now : Int} :
    (evaluateReport host tables packageRoot input now entries).ok = true ↔
      ∃ advisories, parseAuditReport host tables input.reportText = .ok advisories ∧
        (reconcile advisories entries).unaccepted = [] := by
  unfold evaluateReport
  cases hparse : parseAuditReport host tables input.reportText with
  | error failure =>
      refine iff_of_false Bool.false_ne_true ?_
      rintro ⟨advisories, hadvisories, -⟩
      cases hadvisories
  | ok advisories =>
      by_cases hnone : (reconcile advisories entries).unaccepted = []
      · dsimp only
        rw [if_neg (not_not_intro hnone)]
        exact iff_of_true rfl ⟨advisories, rfl, hnone⟩
      · dsimp only
        rw [if_pos hnone]
        refine iff_of_false Bool.false_ne_true ?_
        rintro ⟨others, hothers, hunaccepted⟩
        obtain rfl := Except.ok.inj hothers
        exact hnone hunaccepted

/-- The report's part of the gate. -/
theorem evaluateReport_ok_iff {now : Int} (hids : ∀ entry ∈ entries, entry.advisory ≠ []) :
    (evaluateReport host tables packageRoot input now entries).ok = true ↔
      ∃ report, (∃ raw, input.reportText = some raw ∧ ShowsAudit raw report) ∧
        (∀ advisory, Lists report advisory → Covered host tables entries advisory) ∧
        SeveritiesRead host tables report := by
  simp only [evaluateReport_ok, parseAuditReport_eq_ok, SeveritiesRead, ← mem_advisoryValues]
  constructor
  · rintro ⟨advisories, ⟨report, hreport, hread⟩, hnone⟩
    refine ⟨report, hreport, (unaccepted_eq_nil hids hread).mp hnone, ?_⟩
    intro advisory hadvisory
    apply exists_readAdvisory.mp
    exact Fallible.exists_mapM_eq_ok.mp ⟨advisories, hread⟩ advisory hadvisory
  · rintro ⟨report, hreport, hcovered, hsome⟩
    obtain ⟨advisories, hread⟩ := Fallible.exists_mapM_eq_ok.mpr fun advisory hadvisory =>
      exists_readAdvisory.mpr (hsome advisory hadvisory)
    exact ⟨advisories, ⟨report, hreport, hread⟩, (unaccepted_eq_nil hids hread).mpr hcovered⟩

theorem IsManifest.ids {today : Int} {manifest : JsValue}
    (hmanifest : IsManifest today manifest entries) :
    ∀ entry ∈ entries, entry.advisory ≠ [] := by
  intro entry hentry
  obtain ⟨_, _, -, -, hexception⟩ := hmanifest.recorded hentry
  exact hexception.id.ne_nil

/-- The manifest's part of the gate. -/
theorem manifestErrors_eq_nil {now : Int}
    (hnow : ListsException input.manifest → 99 < (utcDate now).year)
    (hlabel : RecordsPin input.manifest → normalizeWorkspaceLabel packageRoot
      (normalizeWorkspaceLabel packageRoot input.workspaceLabel) =
        normalizeWorkspaceLabel packageRoot input.workspaceLabel) :
    manifestErrors packageRoot input (validateExceptionManifest (some now) input.manifest) = [] ∧
        (validateExceptionManifest (some now) input.manifest).entries = entries ↔
      IsManifest (now / msPerDay) input.manifest entries ∧ PinsHold packageRoot input entries := by
  have hpins : IsManifest (now / msPerDay) input.manifest entries →
      (linkageErrors packageRoot input entries = [] ↔ PinsHold packageRoot input entries) := by
    intro hmanifest
    exact linkageErrors_eq_nil fun entry hentry hpin => hlabel (hmanifest.recordsPin hentry hpin)
  rw [← and_congr_right hpins, ← validateExceptionManifest_eq hnow]
  obtain ⟨errors, found⟩ := validateExceptionManifest (some now) input.manifest
  rw [manifestErrors, List.append_eq_nil_iff, ManifestCheck.mk.injEq]
  constructor
  · rintro ⟨⟨rfl, hlinkage⟩, rfl⟩
    rw [if_pos rfl] at hlinkage
    exact ⟨⟨rfl, rfl⟩, hlinkage⟩
  · rintro ⟨⟨rfl, rfl⟩, hlinkage⟩
    exact ⟨⟨rfl, by rw [if_pos rfl]; exact hlinkage⟩, rfl⟩

theorem passes_at {now : Int} (hinstant : input.now = some now) :
    Passes host tables packageRoot input ↔ ∃ entries,
      (manifestErrors packageRoot input (validateExceptionManifest (some now) input.manifest) = [] ∧
        (validateExceptionManifest (some now) input.manifest).entries = entries) ∧
      (evaluateReport host tables packageRoot input now entries).ok = true := by
  rw [Passes, evaluateDependencyAudit, hinstant]
  dsimp only
  generalize validateExceptionManifest (some now) input.manifest = checked
  by_cases hnone : manifestErrors packageRoot input checked = []
  · rw [if_neg (not_not_intro hnone)]
    simp [hnone]
  · rw [if_pos hnone]
    simp [hnone]

/-- The gate passes what is approved and whose severities can be read, where an exception is
judged from the year 100 on and a pin for a label whose normal form is its own. -/
theorem passes_iff_approved
    (hdate : ListsException input.manifest →
      ∀ now, input.now = some now → 99 < (utcDate now).year)
    (hlabel : RecordsPin input.manifest → normalizeWorkspaceLabel packageRoot
      (normalizeWorkspaceLabel packageRoot input.workspaceLabel) =
        normalizeWorkspaceLabel packageRoot input.workspaceLabel) :
    Passes host tables packageRoot input ↔
      ∃ now entries report, input.now = some now ∧
        Approved host tables packageRoot input (now / msPerDay) entries report ∧
        SeveritiesRead host tables report := by
  cases hinstant : input.now with
  | none =>
      refine iff_of_false ?_ ?_
      · rintro ⟨evaluation, hevaluation, -⟩
        rw [evaluateDependencyAudit, hinstant] at hevaluation
        exact absurd hevaluation Fallible.error_ne_ok
      · rintro ⟨now, entries, report, hnow, -⟩
        cases hnow
  | some now =>
      rw [passes_at hinstant]
      simp only [manifestErrors_eq_nil (fun hlists => hdate hlists now hinstant) hlabel]
      constructor
      · rintro ⟨entries, ⟨hmanifest, hpins⟩, hok⟩
        obtain ⟨report, hreport, hcovered, hread⟩ := (evaluateReport_ok_iff hmanifest.ids).mp hok
        exact ⟨now, entries, report, rfl, ⟨hmanifest, hpins, hreport, hcovered⟩, hread⟩
      · rintro ⟨instant, entries, report, hnow, happroved, hread⟩
        obtain rfl := Option.some.inj hnow
        refine ⟨entries, ⟨happroved.manifest, happroved.pins⟩, ?_⟩
        apply (evaluateReport_ok_iff happroved.manifest.ids).mpr
        exact ⟨report, happroved.verified, happroved.covered, hread⟩

/-! ## Inputs at the edges -/

instance : Decidable (Passes host tables packageRoot input) :=
  decidable_of_iff
    ((evaluateDependencyAudit host tables packageRoot input).toOption.any Evaluation.ok = true) (by
      rw [Passes]
      cases evaluateDependencyAudit host tables packageRoot input <;> simp [Except.toOption])

/-- One exception. -/
def exceptionWith (expires : String) (members : List (JsString × JsValue)) : JsValue :=
  .object ([
    (js "advisory", .string (js "GHSA-aaaa-bbbb-cccc")),
    (js "owner", .string (js "QA")),
    (js "expires", .string (js expires)),
    (js "rationale", .string (js "no fix yet"))] ++ members)

/-- A pin in the workspace. -/
def pinIn (workspace : String) : JsString × JsValue :=
  (js "pin", .object [
    (js "package", .string (js "x")),
    (js "range", .string (js "2")),
    (js "workspace", .string (js workspace))])

def manifestOf (exceptions : List JsValue) : JsValue :=
  .object [(js "exceptions", .array exceptions)]

/-- The text of a report. -/
def reportOf (advisories : String) : JsString :=
  js "\x7b\"advisories\":[" ++ js advisories ++ js "],\"metadata\":\x7b\"vulnerabilities\":\x7b\x7d\x7d\x7d"

/-- A high advisory that is an exception, with a pin that holds in a workspace of the package. -/
def acceptedInput : AuditInput :=
  { manifest := manifestOf [exceptionWith "1970-01-02" [pinIn "telemetry"]]
    reportText := some (reportOf
      "\x7b\"severity\":\"High\",\"ghsaId\":\"GHSA-aaaa-bbbb-cccc\"\x7d")
    workspaceText := some (js "overrides:\n  x: 2\n")
    now := some 0
    workspaceLabel := js "./telemetry" }

/-- A severity whose text throws. -/
def unreadableInput : AuditInput :=
  { manifest := manifestOf []
    reportText := some (reportOf "\x7b\"severity\":\x7b\"toString\":1\x7d\x7d")
    now := some 0 }

/-- A pin that the workspace, whose name starts with a blank, does not apply. -/
def driftedInput : AuditInput :=
  { manifest := manifestOf [exceptionWith "1970-01-02" [pinIn "./ a"]]
    reportText := some (reportOf "")
    workspaceText := some (js "overrides:\n  x: 3\n")
    now := some 0
    workspaceLabel := js "./ a" }

/-- An expiry in 1950 in the year 50. -/
def earlyInput : AuditInput :=
  { manifest := manifestOf [exceptionWith "1950-01-02" []]
    reportText := some (reportOf "")
    now := some (-60589296000000) }

/-- Whether a report was verified and passes a test. -/
def ReportVerdict.verifiedWith (test : JsValue → Bool) : ReportVerdict → Bool
  | .verified report => test report
  | .refused _ _ => false

theorem ReportVerdict.verifiedWith_iff {test : JsValue → Bool} {verdict : ReportVerdict} :
    verdict.verifiedWith test = true ↔ ∃ report, verdict = .verified report ∧ test report = true := by
  cases verdict <;> simp [verifiedWith]

theorem unreadableInput_verified :
    (validateAuditReport plainHost unreadableInput.reportText).verifiedWith (fun report =>
      (advisoryValues report).all fun advisory =>
        (severityOf plainHost smallTables advisory).isNone) = true := by
  decide +kernel

theorem unreadableInput_sanctioned : Sanctioned plainHost smallTables [] unreadableInput := by
  obtain ⟨report, hverified, hunread⟩ := ReportVerdict.verifiedWith_iff.mp unreadableInput_verified
  refine ⟨0, [], report, rfl, ⟨⟨_, rfl⟩, ⟨[], rfl, .nil⟩, List.nodup_nil⟩, ?_,
    validateAuditReport_verified.mp hverified, ?_⟩
  · intro entry hentry
    cases hentry
  · rintro advisory hlisted ⟨severity, -, hseverity⟩
    rw [← mem_advisoryValues] at hlisted
    have hnone := List.all_eq_true.mp hunread advisory hlisted
    rw [severityOf_eq_some.mpr hseverity] at hnone
    cases hnone

/-- What a manifest of one exception records. -/
theorem IsManifest.of_singleton {today : Int} {item : JsValue}
    (hmanifest : IsManifest today (manifestOf [item]) entries) :
    ∃ entry, entries = [entry] ∧ IsException today item entry := by
  obtain ⟨items, hitems, hall⟩ := hmanifest.listed
  obtain rfl : [item] = items := JsValue.array.inj hitems
  obtain ⟨entry, others, hentry, hothers, rfl⟩ := List.forall₂_cons_left_iff.mp hall
  exact ⟨entry, by rw [List.forall₂_nil_left_iff.mp hothers], hentry⟩

theorem driftedInput_not_sanctioned : ¬ Sanctioned plainHost smallTables [] driftedInput := by
  rintro ⟨now, entries, report, -, happroved⟩
  obtain ⟨entry, rfl, hentry⟩ := happroved.manifest.of_singleton
  have hpin := hentry.pin
  cases hentryPin : entry.pin with
  | none =>
      rw [hentryPin] at hpin
      cases hpin
  | some pin =>
      rw [hentryPin] at hpin
      have hpackage : js "x" = pin.package := hpin.package.2
      have hrange : js "2" = pin.range := hpin.range.2
      have hworkspace : js "./ a" = pin.workspace := by
        rcases hpin.workspace with hworkspace | ⟨habsent, -⟩
        · exact hworkspace.2
        · cases habsent
      obtain ⟨text, htext, hlookup⟩ := happroved.pins entry List.mem_cons_self pin hentryPin
        (by rw [← hworkspace]; rfl)
      obtain rfl := Option.some.inj htext
      rw [← hpackage, ← hrange, ← lookup_parseOverridesBlock] at hlookup
      exact absurd hlookup (by decide +kernel)

theorem earlyInput_not_sanctioned : ¬ Sanctioned plainHost smallTables [] earlyInput := by
  rintro ⟨now, entries, report, hnow, happroved⟩
  obtain rfl := Option.some.inj hnow
  obtain ⟨entry, rfl, hentry⟩ := happroved.manifest.of_singleton
  have hexpires : js "1950-01-02" = entry.expires := hentry.expires.2
  obtain ⟨date, hdate, -, -, hwithin⟩ := hentry.expiry
  rw [← hexpires] at hdate
  have hfar : (isoDate (js "1950-01-02")).all (fun date =>
      decide (-60589296000000 / msPerDay + maxExpiryHorizonDays < daysFromCivil date)) = true := by
    decide +kernel
  rw [hdate, Option.all_some, decide_eq_true_iff] at hfar
  omega

theorem acceptedInput_approved :
    ∃ now entries report, acceptedInput.now = some now ∧
      Approved plainHost smallTables [js "repo"] acceptedInput (now / msPerDay) entries report ∧
      SeveritiesRead plainHost smallTables report := by
  refine (passes_iff_approved ?_ ?_).mp (by decide +kernel)
  · intro _ now hnow
    obtain rfl := Option.some.inj hnow
    decide +kernel
  · intro _
    refine normalizeWorkspaceLabel_idem (fun name hname => ?_) (by decide) (by decide)
    rw [List.mem_singleton.mp hname]
    constructor <;> decide

theorem gate_inexact :
    ¬ (Passes plainHost smallTables [] unreadableInput ↔
        Sanctioned plainHost smallTables [] unreadableInput) ∧
      ¬ (Passes plainHost smallTables [] driftedInput ↔
        Sanctioned plainHost smallTables [] driftedInput) ∧
      ¬ (Passes plainHost smallTables [] earlyInput ↔
        Sanctioned plainHost smallTables [] earlyInput) := by
  refine ⟨fun hexact => ?_, fun hexact => ?_, fun hexact => ?_⟩
  · have hrefused : ¬ Passes plainHost smallTables [] unreadableInput := by decide +kernel
    exact hrefused (hexact.mpr unreadableInput_sanctioned)
  · exact driftedInput_not_sanctioned (hexact.mp (by decide +kernel))
  · exact earlyInput_not_sanctioned (hexact.mp (by decide +kernel))

end OdinSentinel.DependencyAudit
