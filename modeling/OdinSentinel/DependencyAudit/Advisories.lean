import OdinSentinel.DependencyAudit.Exceptions
import OdinSentinel.DependencyAudit.Report

/-!
# What a report lists

The advisories of a report, the severity and the id of each, apart from how they are read.
-/

namespace OdinSentinel.DependencyAudit

open JsText Host Regex Unicode Validators Readiness

variable {host : HostRuntime} {tables : Tables} {report advisory value : JsValue}
variable {text severity id : JsString}

/-! ## Reports -/

/-- A text with one JSON object and no byte order mark, whose members show that an audit ran. -/
structure ShowsAudit (raw : JsString) (report : JsValue) : Prop where
  unmarked : ∀ blanks rest, raw = blanks ++ 0xFEFF :: rest → ∃ unit ∈ blanks, isSpace unit = false
  parsed : Json.parse (trim raw) = some report
  object : ∃ fields, report = .object fields ∧ ∀ value, (js "error", value) ∉ fields
  advisories : (∃ items, report.field (js "advisories") = .array items) ∨
    ∃ fields, report.field (js "advisories") = .object fields
  vulnerabilities : ∃ fields,
    (report.field (js "metadata")).field (js "vulnerabilities") = .object fields

theorem byteOrderMark_iff {raw : JsString} : byteOrderMark.test raw = true ↔
    ∃ blanks rest, raw = blanks ++ 0xFEFF :: rest ∧ ∀ unit ∈ blanks, isSpace unit = true := by
  refine (test_front [.many 0 isSpace, .one (· == 0xFEFF)] raw).trans ?_
  constructor
  · rintro ⟨stop, mark, ⟨blanks, -, hblanks, hraw, -⟩, last, ⟨unit, hunit, hrest, -⟩, -⟩
    refine ⟨blanks, last.rest, ?_, hblanks⟩
    rw [← eq_of_beq hunit, ← hrest]
    exact hraw
  · rintro ⟨blanks, rest, rfl, hblanks⟩
    exact ⟨⟨_, rest⟩, ⟨_, 0xFEFF :: rest⟩, ⟨blanks, Nat.zero_le _, hblanks, rfl, rfl⟩, ⟨_, rest⟩,
      ⟨0xFEFF, rfl, rfl, rfl⟩, rfl⟩

theorem any_member {fields : List (JsString × JsValue)} {name : JsString} :
    (fields.any fun entry => entry.1 == name) = false ↔ ∀ value, (name, value) ∉ fields := by
  rw [List.any_eq_false]
  constructor
  · intro hnone value hmem
    exact hnone _ hmem (beq_self_eq_true _)
  · rintro hnone ⟨other, value⟩ hmem hname
    obtain rfl : other = name := eq_of_beq hname
    exact hnone value hmem

theorem isAdvisories_iff : isAdvisories value = true ↔
    (∃ items, value = .array items) ∨ ∃ fields, value = .object fields := by
  cases value <;> simp [isAdvisories]

theorem isObject_iff : isObject value = true ↔ ∃ fields, value = .object fields := by
  cases value <;> simp [isObject]

theorem checkReport_verified : checkReport host value = .verified report ↔ value = report ∧
    (∃ fields, report = .object fields ∧ ∀ value, (js "error", value) ∉ fields) ∧
    isAdvisories (report.field (js "advisories")) = true ∧
    isObject ((report.field (js "metadata")).field (js "vulnerabilities")) = true := by
  cases value with
  | object fields =>
      have hobject : ∀ report, JsValue.object fields = report →
          ((∃ fields, report = .object fields ∧ ∀ value, (js "error", value) ∉ fields) ↔
            (fields.any fun entry => entry.1 == js "error") = false) := by
        rintro report rfl
        simp only [any_member, JsValue.object.injEq, exists_eq_left']
      rw [checkReport]
      split_ifs with herror hproof
      · refine iff_of_false id ?_
        rintro ⟨hreport, hnone, -⟩
        rw [(hobject _ hreport).mp hnone] at herror
        cases herror
      · refine iff_of_false id ?_
        rintro ⟨rfl, -, hadvisories, hvulnerabilities⟩
        rw [hadvisories, hvulnerabilities] at hproof
        cases hproof
      · rw [Bool.not_eq_true, Bool.or_eq_false_iff, Bool.not_eq_false', Bool.not_eq_false'] at hproof
        rw [ReportVerdict.verified.injEq]
        constructor
        · rintro rfl
          exact ⟨rfl, (hobject _ rfl).mpr (Bool.eq_false_iff.mpr herror), hproof⟩
        · exact fun hreport => hreport.1
  | _ =>
      refine iff_of_false ReportVerdict.noConfusion ?_
      rintro ⟨rfl, ⟨fields, hfields, -⟩, -⟩
      cases hfields

/-- A report is verified where its text shows an audit. -/
theorem validateAuditReport_verified {text : Option JsString} :
    validateAuditReport host text = .verified report ↔
      ∃ raw, text = some raw ∧ ShowsAudit raw report := by
  have htext : ∀ raw, validateAuditReport host (some raw) = .verified report ↔
      ShowsAudit raw report := by
    intro raw
    rw [validateAuditReport, Option.getD_some]
    by_cases hmark : byteOrderMark.test raw = true
    · rw [if_pos hmark]
      refine iff_of_false ReportVerdict.noConfusion fun hshows => ?_
      obtain ⟨blanks, rest, hraw, hblanks⟩ := byteOrderMark_iff.mp hmark
      obtain ⟨unit, hunit, hspace⟩ := hshows.unmarked blanks rest hraw
      rw [hblanks unit hunit] at hspace
      cases hspace
    · rw [if_neg hmark]
      have hunmarked : ∀ blanks rest, raw = blanks ++ 0xFEFF :: rest →
          ∃ unit ∈ blanks, isSpace unit = false := by
        intro blanks rest hraw
        by_contra hnone
        push Not at hnone
        refine hmark (byteOrderMark_iff.mpr ⟨blanks, rest, hraw, fun unit hunit => ?_⟩)
        exact Bool.not_eq_false _ ▸ hnone unit hunit
      cases hparse : Json.parse (trim raw) with
      | none =>
          refine iff_of_false ReportVerdict.noConfusion fun hshows => ?_
          rw [hshows.parsed] at hparse
          cases hparse
      | some value =>
          dsimp only
          rw [checkReport_verified, isAdvisories_iff, isObject_iff]
          constructor
          · rintro ⟨rfl, hobject, hadvisories, hvulnerabilities⟩
            exact ⟨hunmarked, hparse, hobject, hadvisories, hvulnerabilities⟩
          · intro hshows
            refine ⟨?_, hshows.object, hshows.advisories, hshows.vulnerabilities⟩
            exact Option.some.inj (hparse.symm.trans hshows.parsed)
  cases text with
  | none =>
      have hempty : Json.parse (trim []) = none := rfl
      rw [validateAuditReport, Option.getD_none, hempty, if_neg (by decide)]
      exact iff_of_false ReportVerdict.noConfusion fun ⟨raw, hraw, _⟩ => by cases hraw
  | some raw =>
      rw [htext]
      simp only [Option.some.injEq, exists_eq_left']

/-! ## Members of the list -/

theorem mem_objectValues {fields : List (JsString × JsValue)} {value : JsValue} :
    value ∈ objectValues fields ↔ ∃ name, (name, value) ∈ fields := by
  simp only [objectValues, List.mem_map, List.mem_append, List.mem_mergeSort, List.mem_filter,
    Bool.not_eq_true', Prod.exists, exists_eq_right]
  refine exists_congr fun name => ?_
  cases isArrayIndex name <;> simp

/-- An item of a report's array of advisories or a member of its object of them. -/
def Lists (report advisory : JsValue) : Prop :=
  (∃ items, report.field (js "advisories") = .array items ∧ advisory ∈ items) ∨
    ∃ fields name, report.field (js "advisories") = .object fields ∧ (name, advisory) ∈ fields

theorem mem_advisoryValues {report advisory : JsValue} :
    advisory ∈ advisoryValues report ↔ Lists report advisory := by
  rw [advisoryValues, Lists]
  cases report.field (js "advisories") with
  | array items => simp
  | object fields => simp [mem_objectValues]
  | _ => simp

/-! ## Texts of values -/

mutual

/-- The text that a value is turned into.  An object with a `toString` of its own has none. -/
inductive Prints (host : HostRuntime) : JsValue → JsString → Prop
  | undefined : Prints host .undefined (js "undefined")
  | null : Prints host .null (js "null")
  | yes : Prints host (.bool true) (js "true")
  | no : Prints host (.bool false) (js "false")
  | number (value : JsNumber) : Prints host (.number value) (host.numberText value)
  | string (text : JsString) : Prints host (.string text) text
  | array {items : List JsValue} {texts : List JsString} (hitems : PrintsItems host items texts) :
      Prints host (.array items) (List.intercalate (js ",") texts)
  | object {fields : List (JsString × JsValue)}
      (hfields : ∀ value, (js "toString", value) ∉ fields) :
      Prints host (.object fields) (js "[object Object]")

/-- The texts of an array's items, where what is not there has the empty one. -/
inductive PrintsItems (host : HostRuntime) : List JsValue → List JsString → Prop
  | nil : PrintsItems host [] []
  | undefined {items : List JsValue} {texts : List JsString} (hitems : PrintsItems host items texts) :
      PrintsItems host (.undefined :: items) ([] :: texts)
  | null {items : List JsValue} {texts : List JsString} (hitems : PrintsItems host items texts) :
      PrintsItems host (.null :: items) ([] :: texts)
  | item {item : JsValue} {items : List JsValue} {text : JsString} {texts : List JsString}
      (hthere : isNullish item = false) (hitem : Prints host item text)
      (hitems : PrintsItems host items texts) : PrintsItems host (item :: items) (text :: texts)

end

theorem isNullish_iff : isNullish value = true ↔ value = .undefined ∨ value = .null := by
  cases value <;> simp [isNullish]

theorem itemTexts_cons {item : JsValue} {items : List JsValue} {texts : List JsString} :
    itemTexts host (item :: items) = some texts ↔ ∃ text rest,
      (if isNullish item = true then some [] else stringOf host item) = some text ∧
      itemTexts host items = some rest ∧ texts = text :: rest := by
  rw [itemTexts]
  generalize (if isNullish item = true then some [] else stringOf host item) = first
  cases first with
  | none => simp
  | some first =>
      cases itemTexts host items with
      | none => simp
      | some rest => simp [eq_comm]

mutual

theorem stringOf_prints : ∀ {value : JsValue} {text : JsString},
    stringOf host value = some text → Prints host value text
  | .undefined, _, htext => by
      obtain rfl := Option.some.inj htext
      exact .undefined
  | .null, _, htext => by
      obtain rfl := Option.some.inj htext
      exact .null
  | .bool value, _, htext => by
      obtain rfl := Option.some.inj htext
      cases value
      · exact .no
      · exact .yes
  | .number value, _, htext => by
      obtain rfl := Option.some.inj htext
      exact .number value
  | .string text, _, htext => by
      obtain rfl := Option.some.inj htext
      exact .string text
  | .array items, _, htext => by
      rw [stringOf] at htext
      obtain ⟨texts, htexts, rfl⟩ := Option.map_eq_some_iff.mp htext
      exact .array (itemTexts_prints htexts)
  | .object fields, _, htext => by
      rw [stringOf] at htext
      split_ifs at htext with hany
      obtain rfl := Option.some.inj htext
      exact .object (any_member.mp (Bool.eq_false_iff.mpr hany))

theorem itemTexts_prints : ∀ {items : List JsValue} {texts : List JsString},
    itemTexts host items = some texts → PrintsItems host items texts
  | [], _, htexts => by
      obtain rfl := Option.some.inj htexts
      exact .nil
  | item :: items, _, htexts => by
      obtain ⟨text, rest, htext, hrest, rfl⟩ := itemTexts_cons.mp htexts
      have hitems := itemTexts_prints hrest
      by_cases hnone : isNullish item = true
      · rw [if_pos hnone] at htext
        obtain rfl : [] = text := Option.some.inj htext
        rcases isNullish_iff.mp hnone with rfl | rfl
        · exact .undefined hitems
        · exact .null hitems
      · rw [if_neg hnone] at htext
        exact .item (Bool.eq_false_iff.mpr hnone) (stringOf_prints htext) hitems

end

mutual

theorem Prints.stringOf {value : JsValue} {text : JsString} :
    Prints host value text → stringOf host value = some text
  | .undefined => rfl
  | .null => rfl
  | .yes => rfl
  | .no => rfl
  | .number _ => rfl
  | .string _ => rfl
  | .array hitems => by
      rw [DependencyAudit.stringOf, hitems.itemTexts]
      rfl
  | .object hfields => by
      rw [DependencyAudit.stringOf, any_member.mpr hfields]
      rfl

theorem PrintsItems.itemTexts {items : List JsValue} {texts : List JsString} :
    PrintsItems host items texts → itemTexts host items = some texts
  | .nil => rfl
  | .undefined hitems => itemTexts_cons.mpr ⟨[], _, rfl, hitems.itemTexts, rfl⟩
  | .null hitems => itemTexts_cons.mpr ⟨[], _, rfl, hitems.itemTexts, rfl⟩
  | .item hthere hitem hitems => by
      refine itemTexts_cons.mpr ⟨_, _, ?_, hitems.itemTexts, rfl⟩
      rw [hthere]
      exact hitem.stringOf

end

theorem stringOf_eq_some : stringOf host value = some text ↔ Prints host value text :=
  ⟨stringOf_prints, Prints.stringOf⟩

/-! ## Severities -/

/-- The severity of an advisory in lower case, the empty text where it has none. -/
def HasSeverity (host : HostRuntime) (tables : Tables) (advisory : JsValue)
    (severity : JsString) : Prop :=
  (advisory.field (js "severity") = .undefined ∨ advisory.field (js "severity") = .null) ∧
      severity = [] ∨
    advisory.field (js "severity") ≠ .undefined ∧ advisory.field (js "severity") ≠ .null ∧
      ∃ text, Prints host (advisory.field (js "severity")) text ∧
        severity = toLowerCase tables (trim text)

theorem severityOf_eq_some :
    severityOf host tables advisory = some severity ↔ HasSeverity host tables advisory severity := by
  rw [severityOf, HasSeverity]
  generalize advisory.field (js "severity") = value
  by_cases hnone : isNullish value = true
  · have hboth := isNullish_iff.mp hnone
    rw [if_pos hnone, Option.some.injEq, eq_comm]
    constructor
    · intro hempty
      exact .inl ⟨hboth, hempty⟩
    · rintro (⟨-, hempty⟩ | ⟨hthere, hthere', -⟩)
      · exact hempty
      · exact absurd hboth (not_or.mpr ⟨hthere, hthere'⟩)
  · have hthere := not_or.mp (mt isNullish_iff.mpr hnone)
    rw [if_neg hnone, Option.map_eq_some_iff]
    simp only [stringOf_eq_some]
    constructor
    · rintro ⟨text, htext, rfl⟩
      exact .inr ⟨hthere.1, hthere.2, text, htext, rfl⟩
    · rintro (⟨hnullish, -⟩ | ⟨-, -, text, htext, rfl⟩)
      · exact absurd hnullish (not_or.mpr hthere)
      · exact ⟨text, htext, rfl⟩

/-! ## Ids -/

/-- The id of an advisory: the one that GitHub gives it, or where it has none its own. -/
def CarriesId (advisory : JsValue) (id : JsString) : Prop :=
  HasText advisory "github_advisory_id" id ∨
    (∀ other, ¬HasText advisory "github_advisory_id" other) ∧ HasText advisory "ghsaId" id

theorem isNonBlankText_of_trimmedText (hsome : trimmedText value ≠ []) :
    isNonBlankText value = true := by
  cases value with
  | string text => exact bne_iff_ne.mpr hsome
  | _ => exact absurd rfl hsome

theorem carriesId_iff (hid : id ≠ []) : CarriesId advisory id ↔ id = advisoryId advisory := by
  rw [CarriesId, advisoryId]
  simp only [HasText]
  by_cases hgithub : isNonBlankText (advisory.field (js "github_advisory_id")) = true
  · rw [if_pos hgithub]
    constructor
    · rintro (⟨-, hsame⟩ | ⟨hnone, -⟩)
      · exact hsame.symm
      · exact absurd rfl fun hsame => hnone _ ⟨hgithub, hsame⟩
    · rintro rfl
      exact .inl ⟨hgithub, rfl⟩
  · rw [if_neg hgithub]
    constructor
    · rintro (⟨hother, -⟩ | ⟨-, -, hsame⟩)
      · exact absurd hother hgithub
      · exact hsame.symm
    · rintro rfl
      exact .inr ⟨fun other hother => hgithub hother.1, isNonBlankText_of_trimmedText hid, rfl⟩

end OdinSentinel.DependencyAudit
