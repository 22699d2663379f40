import OdinSentinel.Core.Fallible
import OdinSentinel.DependencyAudit.Manifest

/-!
# What a valid manifest records

Exceptions as data: an advisory id, an owner, a day of expiry, a rationale and a pin.  A
manifest is reported without errors exactly where each of its entries is one, no advisory
comes twice and every expiry lies within the horizon.
-/

namespace OdinSentinel.DependencyAudit

open JsText Calendar Host Regex Validators Readiness

variable {text : JsString} {value : JsValue} {named : JsString} {start stop : Cursor UInt16}

/-! ## Advisory ids -/

/-- Four digits or small letters. -/
def IsIdGroup (group : JsString) : Prop :=
  group.length = 4 ∧ ∀ unit ∈ group, (isDigit unit || isLower unit) = true

def IsAdvisoryId (text : JsString) : Prop :=
  ∃ first second third, IsIdGroup first ∧ IsIdGroup second ∧ IsIdGroup third ∧
    text = js "GHSA-" ++ first ++ js "-" ++ second ++ js "-" ++ third

theorem forall₂_replicate {accept : UInt16 → Bool} {count : Nat} {group : JsString} :
    List.Forall₂ (fun accept unit => accept unit = true) (List.replicate count accept) group ↔
      group.length = count ∧ ∀ unit ∈ group, accept unit = true := by
  induction count generalizing group with
  | zero => cases group <;> simp
  | succ count ih =>
      cases group with
      | nil => simp [List.replicate_succ]
      | cons unit group =>
          rw [List.replicate_succ, List.forall₂_cons, ih, List.length_cons, List.forall_mem_cons,
            Nat.add_right_cancel_iff]
          exact and_left_comm

theorem idGroup_matches : idGroup.Matches start stop ↔
    ∃ group, IsIdGroup group ∧ start.rest = group ++ stop.rest ∧
      stop.before = group.getLast?.or start.before := by
  rw [idGroup, ← List.map_replicate, classes_matches]
  simp only [forall₂_replicate, IsIdGroup]

theorem advisoryIdPattern_test_iff : advisoryIdPattern.test text = true ↔ IsAdvisoryId text := by
  refine (test_whole
    [exactly (js "GHSA-"), idGroup, exactly (js "-"), idGroup, exactly (js "-"), idGroup]
    text).trans ?_
  constructor
  · rintro ⟨_, afterLead, hlead, afterFirst, hfirst, afterDash, hdash, afterSecond, hsecond,
      afterDash', hdash', _, hthird, hend⟩
    cases hend
    obtain ⟨first, hfirstId, hfirst, -⟩ := idGroup_matches.mp hfirst
    obtain ⟨second, hsecondId, hsecond, -⟩ := idGroup_matches.mp hsecond
    obtain ⟨third, hthirdId, hthird, -⟩ := idGroup_matches.mp hthird
    have hlead : text = js "GHSA-" ++ afterLead.rest := (literal_matches.mp hlead).1
    have hdash := (literal_matches.mp hdash).1
    have hdash' := (literal_matches.mp hdash').1
    refine ⟨first, second, third, hfirstId, hsecondId, hthirdId, ?_⟩
    rw [hlead, hfirst, hdash, hsecond, hdash', hthird, List.append_nil]
    simp only [List.append_assoc]
  · rintro ⟨first, second, third, hfirst, hsecond, hthird, rfl⟩
    simp only [List.append_assoc]
    exact ⟨_, ⟨_, _⟩, literal_matches.mpr ⟨rfl, rfl⟩,
      ⟨_, _⟩, idGroup_matches.mpr ⟨first, hfirst, rfl, rfl⟩,
      ⟨_, _⟩, literal_matches.mpr ⟨rfl, rfl⟩,
      ⟨_, _⟩, idGroup_matches.mpr ⟨second, hsecond, rfl, rfl⟩,
      ⟨_, _⟩, literal_matches.mpr ⟨rfl, rfl⟩,
      ⟨_, []⟩, idGroup_matches.mpr ⟨third, hthird, (List.append_nil third).symm, rfl⟩, rfl⟩

/-! ## Texts -/

/-- A member that is a text with something in it; `text` is it without the blanks around. -/
def HasText (value : JsValue) (name : String) (text : JsString) : Prop :=
  isNonBlankText (value.field (js name)) = true ∧ trimmedText (value.field (js name)) = text

theorem isNonBlankText_iff {value : JsValue} :
    isNonBlankText value = true ↔ ∃ raw, value = .string raw ∧ trim raw ≠ [] := by
  cases value with
  | string raw => simp [isNonBlankText]
  | _ => simp [isNonBlankText]

/-! ## Expiries -/

/-- A day of the calendar behind today, at most the horizon away. -/
def Expires (today : Int) (text : JsString) : Prop :=
  ∃ date, isoDate text = some date ∧ date.Valid ∧ today < daysFromCivil date ∧
    daysFromCivil date ≤ today + maxExpiryHorizonDays

theorem parseIsoUtcDate_eq_some {raw : JsString} {midnight : Int} :
    parseIsoUtcDate (.string raw) = some midnight ↔
      ∃ date, isoDate (trim raw) = some date ∧ date.Valid ∧ 99 < date.year ∧
        daysFromCivil date * msPerDay = midnight := by
  rw [parseIsoUtcDate]
  cases hdate : isoDate (trim raw) with
  | none => simp
  | some date =>
      simp only [Option.ite_none_right_eq_some, utcDate_dateUtc_iff hdate, Option.some.injEq,
        exists_eq_left']
      constructor
      · rintro ⟨⟨hvalid, hyear⟩, hmidnight⟩
        exact ⟨hvalid, hyear, by rw [← dateUtc_eq hvalid (by omega), hmidnight]⟩
      · rintro ⟨hvalid, hyear, hmidnight⟩
        exact ⟨⟨hvalid, hyear⟩, by rw [dateUtc_eq hvalid (by omega), hmidnight]⟩

theorem checkMidnight_eq_ok {now : Int} (hnow : 99 < (utcDate now).year) {expires : JsString}
    {day : Int} :
    checkMidnight now named expires (day * msPerDay) = .ok () ↔
      now / msPerDay < day ∧ day ≤ now / msPerDay + maxExpiryHorizonDays := by
  have htoday : utcMidnight now = now / msPerDay * msPerDay := utcMidnight_eq (by omega)
  have hexpired : day * msPerDay ≤ utcMidnight now ↔ day ≤ now / msPerDay := by
    rw [htoday]
    exact Int.mul_le_mul_right (by decide)
  have hfar : utcMidnight now + maxExpiryHorizonDays * msPerDay < day * msPerDay ↔
      now / msPerDay + maxExpiryHorizonDays < day := by
    rw [htoday, ← add_mul]
    exact Int.mul_lt_mul_right (by decide)
  simp only [checkMidnight, hexpired, hfar]
  split_ifs
  · exact iff_of_false id (by omega)
  · exact iff_of_false id (by omega)
  · exact iff_of_true rfl (by omega)

/-- From the year 100 on an expiry passes where it lies within the horizon. -/
theorem checkExpiry_eq_ok {now : Int} (hnow : 99 < (utcDate now).year) {raw : JsString} :
    checkExpiry (some now) named (.string raw) = .ok () ↔
      Expires (now / msPerDay) (trim raw) := by
  have hpasses : checkExpiry (some now) named (.string raw) = .ok () ↔
      ∃ midnight, parseIsoUtcDate (.string raw) = some midnight ∧
        checkMidnight now named (trim raw) midnight = .ok () := by
    unfold checkExpiry
    generalize parseIsoUtcDate (.string raw) = parsed
    cases parsed with
    | none => exact iff_of_false Fallible.error_ne_ok (by simp)
    | some midnight => simp [trimmedText]
  rw [hpasses]
  constructor
  · rintro ⟨midnight, hparse, hmidnight⟩
    obtain ⟨date, hdate, hvalid, -, rfl⟩ := parseIsoUtcDate_eq_some.mp hparse
    obtain ⟨hbehind, hwithin⟩ := (checkMidnight_eq_ok hnow).mp hmidnight
    exact ⟨date, hdate, hvalid, hbehind, hwithin⟩
  · rintro ⟨date, hdate, hvalid, hbehind, hwithin⟩
    -- Behind a today of three digits or more there is no year of two.
    have hyear : 99 < date.year := by
      by_contra hold
      have hearly := daysFromCivil_lt_of_year_lt hvalid (valid_civilFromDays (now / msPerDay))
        (by rw [utcDate] at hnow; omega)
      rw [daysFromCivil_civilFromDays] at hearly
      omega
    exact ⟨_, parseIsoUtcDate_eq_some.mpr ⟨date, hdate, hvalid, hyear, rfl⟩,
      (checkMidnight_eq_ok hnow).mpr ⟨hbehind, hwithin⟩⟩

/-! ## Pins -/

structure IsPin (value : JsValue) (pin : Pin) : Prop where
  object : ∃ fields, value = .object fields
  package : HasText value "package" pin.package
  range : HasText value "range" pin.range
  workspace : HasText value "workspace" pin.workspace ∨
    value.field (js "workspace") = .undefined ∧ pin.workspace = js "."

/-- No pin, or a well-formed one. -/
def IsPinOption (value : JsValue) : Option Pin → Prop
  | none => value = .undefined
  | some pin => IsPin value pin

/-- What stands for a pin's workspace. -/
theorem workspace_iff {pin : JsValue} {workspace : JsString} :
    isPresentNotText (pin.field (js "workspace")) = false ∧
        (if isNonBlankText (pin.field (js "workspace")) then
          trimmedText (pin.field (js "workspace"))
        else js ".") = workspace ↔
      HasText pin "workspace" workspace ∨
        pin.field (js "workspace") = .undefined ∧ workspace = js "." := by
  rw [HasText]
  cases pin.field (js "workspace") with
  | undefined => simp [isPresentNotText, isNonBlankText, eq_comm]
  | string raw =>
      have hpresent : isPresentNotText (.string raw) = !isNonBlankText (.string raw) := rfl
      rw [hpresent, Bool.not_eq_false']
      constructor
      · rintro ⟨hthere, hworkspace⟩
        rw [if_pos hthere] at hworkspace
        exact .inl ⟨hthere, hworkspace⟩
      · rintro (⟨hthere, hworkspace⟩ | ⟨hnone, -⟩)
        · exact ⟨hthere, by rw [if_pos hthere]; exact hworkspace⟩
        · cases hnone
  | _ => simp [isPresentNotText, isNonBlankText]

/-- The pin of an object that passes. -/
theorem checkPin_object {fields : List (JsString × JsValue)} (hvalue : value = .object fields)
    {pin : Option Pin} :
    checkPin named value = .ok pin ↔ ∃ found, pin = some found ∧ IsPin value found := by
  have hpin : ∀ found, IsPin value found ↔ HasText value "package" found.package ∧
      HasText value "range" found.range ∧
      isPresentNotText (value.field (js "workspace")) = false ∧
      (if isNonBlankText (value.field (js "workspace")) then
        trimmedText (value.field (js "workspace"))
      else js ".") = found.workspace := by
    intro found
    rw [workspace_iff]
    constructor
    · intro hfound
      exact ⟨hfound.package, hfound.range, hfound.workspace⟩
    · rintro ⟨hpackage, hrange, hworkspace⟩
      exact ⟨⟨fields, hvalue⟩, hpackage, hrange, hworkspace⟩
  simp only [hpin, HasText]
  subst hvalue
  unfold checkPin
  dsimp only
  generalize JsValue.field (.object fields) (js "package") = package
  generalize JsValue.field (.object fields) (js "range") = range
  generalize JsValue.field (.object fields) (js "workspace") = workspace
  generalize (if isNonBlankText workspace = true then trimmedText workspace else js ".") = place
  by_cases hmissing : (!isNonBlankText package || !isNonBlankText range) = true
  · rw [if_pos hmissing]
    refine iff_of_false Fallible.error_ne_ok ?_
    rintro ⟨found, -, ⟨hpackage, -⟩, ⟨hrange, -⟩, -⟩
    rw [hpackage, hrange] at hmissing
    cases hmissing
  · rw [if_neg hmissing]
    rw [Bool.not_eq_true, Bool.or_eq_false_iff, Bool.not_eq_false', Bool.not_eq_false'] at hmissing
    by_cases hpresent : isPresentNotText workspace = true
    · rw [if_pos hpresent]
      refine iff_of_false Fallible.error_ne_ok ?_
      rintro ⟨found, -, -, -, habsent, -⟩
      rw [hpresent] at habsent
      cases habsent
    · rw [if_neg hpresent]
      constructor
      · intro hpin
        exact ⟨_, (Except.ok.inj hpin).symm, ⟨hmissing.1, rfl⟩, ⟨hmissing.2, rfl⟩,
          Bool.eq_false_iff.mpr hpresent, rfl⟩
      · rintro ⟨found, rfl, ⟨-, hpackage⟩, ⟨-, hrange⟩, -, hplace⟩
        rw [hpackage, hrange, hplace]

theorem checkPin_eq_ok {pin : Option Pin} :
    checkPin named value = .ok pin ↔ IsPinOption value pin := by
  cases value with
  | undefined =>
      cases pin with
      | none => exact iff_of_true rfl rfl
      | some pin =>
          refine iff_of_false (by simp [checkPin]) ?_
          rintro ⟨⟨fields, hfields⟩, -⟩
          cases hfields
  | object fields =>
      rw [checkPin_object rfl]
      cases pin with
      | none => simp [IsPinOption]
      | some pin => simp [IsPinOption]
  | _ =>
      refine iff_of_false Fallible.error_ne_ok ?_
      cases pin with
      | none => simp [IsPinOption]
      | some pin =>
          rintro ⟨⟨fields, hfields⟩, -⟩
          cases hfields

/-! ## Entries -/

/-- A value that records an exception. -/
structure IsException (today : Int) (value : JsValue) (entry : ExceptionEntry) : Prop where
  object : ∃ fields, value = .object fields
  advisory : HasText value "advisory" entry.advisory
  owner : HasText value "owner" entry.owner
  expires : HasText value "expires" entry.expires
  rationale : HasText value "rationale" entry.rationale
  id : IsAdvisoryId entry.advisory
  expiry : Expires today entry.expires
  pin : IsPinOption (value.field (js "pin")) entry.pin

variable {now : Int} {entry : ExceptionEntry} {seen : List JsString} {index : Nat}

theorem readEntry_eq_ok (hnow : 99 < (utcDate now).year) {raw : JsString}
    (hexpires : value.field (js "expires") = .string raw) :
    readEntry (some now) named value = .ok entry ↔
      Expires (now / msPerDay) (trim raw) ∧ IsPinOption (value.field (js "pin")) entry.pin ∧
      trimmedText (value.field (js "advisory")) = entry.advisory ∧
      trimmedText (value.field (js "owner")) = entry.owner ∧
      trimmedText (value.field (js "expires")) = entry.expires ∧
      trimmedText (value.field (js "rationale")) = entry.rationale := by
  rw [readEntry]
  constructor
  · intro hread
    obtain ⟨⟨⟩, hexpiry, hread⟩ := Fallible.do_eq_ok.mp hread
    obtain ⟨pin, hpin, hread⟩ := Fallible.do_eq_ok.mp hread
    obtain rfl := Except.ok.inj hread
    rw [hexpires] at hexpiry
    exact ⟨(checkExpiry_eq_ok hnow).mp hexpiry, checkPin_eq_ok.mp hpin, rfl, rfl, rfl, rfl⟩
  · rintro ⟨hexpiry, hpin, hadvisory, howner, htext, hrationale⟩
    refine Fallible.do_eq_ok.mpr ⟨(), ?_, Fallible.do_eq_ok.mpr ⟨entry.pin, ?_, ?_⟩⟩
    · rw [hexpires]
      exact (checkExpiry_eq_ok hnow).mpr hexpiry
    · exact checkPin_eq_ok.mpr hpin
    · rw [hadvisory, howner, htext, hrationale]

/-- What an entry that passes has passed. -/
theorem checkEntry_cases {instant : Option Int} {fields : List (JsString × JsValue)}
    (hvalue : value = .object fields) :
    (checkEntry instant seen index value).result = .ok entry ↔
      (∀ field ∈ requiredExceptionFields, isNonBlankText (value.field field) = true) ∧
      advisoryIdPattern.test (trimmedText (value.field (js "advisory"))) = true ∧
      trimmedText (value.field (js "advisory")) ∉ seen ∧
      readEntry instant (js "exceptions[" ++ natText index ++ js "]" ++ js " (" ++
        sanitizeRendered (trimmedText (value.field (js "advisory"))) ++ js ")") value =
        .ok entry := by
  have hmissing : (requiredExceptionFields.filter fun field => !isNonBlankText (value.field field)) =
      [] ↔ ∀ field ∈ requiredExceptionFields, isNonBlankText (value.field field) = true := by
    simp only [List.filter_eq_nil_iff, Bool.not_eq_true', Bool.not_eq_false]
  rw [← hmissing]
  subst hvalue
  unfold checkEntry
  dsimp only
  generalize trimmedText (JsValue.field (.object fields) (js "advisory")) = advisory
  by_cases hfields : (requiredExceptionFields.filter fun field =>
      !isNonBlankText (JsValue.field (.object fields) field)) = []
  · rw [if_neg (not_not_intro hfields)]
    by_cases hid : advisoryIdPattern.test advisory = true
    · rw [if_neg (by rw [hid]; decide)]
      by_cases hseen : advisory ∈ seen
      · rw [if_pos (List.contains_iff_mem.mpr hseen)]
        exact iff_of_false Fallible.error_ne_ok fun hpasses => hpasses.2.2.1 hseen
      · rw [if_neg (fun hmem => hseen (List.contains_iff_mem.mp hmem))]
        exact ⟨fun hread => ⟨hfields, hid, hseen, hread⟩, fun hpasses => hpasses.2.2.2⟩
    · rw [if_pos (by rw [Bool.eq_false_iff.mpr hid, Bool.not_false])]
      exact iff_of_false Fallible.error_ne_ok fun hpasses => hid hpasses.2.1
  · rw [if_pos hfields]
    exact iff_of_false Fallible.error_ne_ok fun hpasses => hfields hpasses.1

/-- An entry that passes has been seen from then on. -/
theorem checkEntry_seen {instant : Option Int}
    (hpasses : (checkEntry instant seen index value).result = .ok entry) :
    (checkEntry instant seen index value).seen =
      trimmedText (value.field (js "advisory")) :: seen := by
  cases value with
  | object fields =>
      obtain ⟨hfields, hid, hseen, -⟩ := (checkEntry_cases rfl).mp hpasses
      have hnone : (requiredExceptionFields.filter fun field =>
          !isNonBlankText (JsValue.field (.object fields) field)) = [] := by
        simpa only [List.filter_eq_nil_iff, Bool.not_eq_true', Bool.not_eq_false] using hfields
      unfold checkEntry
      dsimp only
      rw [if_neg (not_not_intro hnone), if_neg (by rw [hid]; decide),
        if_neg (fun hmem => hseen (List.contains_iff_mem.mp hmem))]
  | _ => exact absurd hpasses Fallible.error_ne_ok

/-- An entry passes where it records an exception whose advisory is a new one. -/
theorem checkEntry_eq_ok (hnow : 99 < (utcDate now).year) :
    (checkEntry (some now) seen index value).result = .ok entry ↔
      IsException (now / msPerDay) value entry ∧ entry.advisory ∉ seen := by
  cases value with
  | object fields =>
      obtain ⟨value, hvalue⟩ : ∃ value, value = JsValue.object fields := ⟨_, rfl⟩
      rw [← hvalue, checkEntry_cases hvalue, advisoryIdPattern_test_iff]
      simp only [requiredExceptionFields, List.forall_mem_cons]
      constructor
      · rintro ⟨⟨hadvisory, howner, hexpires, hrationale, -⟩, hid, hseen, hread⟩
        obtain ⟨raw, hraw, -⟩ := isNonBlankText_iff.mp hexpires
        obtain ⟨hexpiry, hpin, hadvisoryText, hownerText, hexpiresText, hrationaleText⟩ :=
          (readEntry_eq_ok hnow hraw).mp hread
        rw [hadvisoryText] at hid hseen
        rw [hraw, trimmedText] at hexpiresText
        rw [hexpiresText] at hexpiry
        exact ⟨⟨⟨fields, hvalue⟩, ⟨hadvisory, hadvisoryText⟩, ⟨howner, hownerText⟩,
          ⟨hexpires, by rw [hraw]; exact hexpiresText⟩, ⟨hrationale, hrationaleText⟩, hid, hexpiry,
          hpin⟩, hseen⟩
      · rintro ⟨hentry, hseen⟩
        obtain ⟨raw, hraw, -⟩ := isNonBlankText_iff.mp hentry.expires.1
        have hexpires := hentry.expires.2
        have hexpiry := hentry.expiry
        rw [← hexpires, hraw, trimmedText] at hexpiry
        refine ⟨⟨hentry.advisory.1, hentry.owner.1, hentry.expires.1, hentry.rationale.1, by simp⟩,
          ?_, ?_, (readEntry_eq_ok hnow hraw).mpr ⟨hexpiry, hentry.pin, hentry.advisory.2,
            hentry.owner.2, hexpires, hentry.rationale.2⟩⟩
        · rw [hentry.advisory.2]
          exact hentry.id
        · rw [hentry.advisory.2]
          exact hseen
  | _ =>
      refine iff_of_false Fallible.error_ne_ok ?_
      rintro ⟨hentry, -⟩
      obtain ⟨fields, hfields⟩ := hentry.object
      cases hfields

/-! ## The manifest -/

theorem ManifestCheck.add_eq {later : ManifestCheck} {result : Except JsString ExceptionEntry}
    {entries : List ExceptionEntry} :
    later.add result = { errors := [], entries } ↔ ∃ first rest, entries = first :: rest ∧
      result = .ok first ∧ later = { errors := [], entries := rest } := by
  obtain ⟨errors, others⟩ := later
  cases result with
  | error error => simp [add]
  | ok first =>
      simp only [add, ManifestCheck.mk.injEq, Except.ok.injEq]
      constructor
      · rintro ⟨rfl, rfl⟩
        exact ⟨first, others, rfl, rfl, rfl, rfl⟩
      · rintro ⟨_, _, rfl, rfl, rfl, rfl⟩
        exact ⟨rfl, rfl⟩

/-- Entries pass where each of them records an exception, none comes twice and none was seen
before. -/
theorem checkEntries_eq {items : List JsValue} {entries : List ExceptionEntry}
    (hnow : items ≠ [] → 99 < (utcDate now).year) :
    checkEntries (some now) seen index items = { errors := [], entries } ↔
      List.Forall₂ (IsException (now / msPerDay)) items entries ∧
      (entries.map ExceptionEntry.advisory).Nodup ∧ ∀ entry ∈ entries, entry.advisory ∉ seen := by
  induction items generalizing seen index entries with
  | nil =>
      rw [checkEntries, ManifestCheck.mk.injEq, List.forall₂_nil_left_iff]
      constructor
      · rintro ⟨-, rfl⟩
        exact ⟨rfl, List.nodup_nil, by simp⟩
      · rintro ⟨rfl, -⟩
        exact ⟨rfl, rfl⟩
  | cons item items ih =>
      have hnow := hnow (List.cons_ne_nil item items)
      rw [checkEntries, ManifestCheck.add_eq, List.forall₂_cons_left_iff]
      constructor
      · rintro ⟨first, rest, rfl, hfirst, hrest⟩
        obtain ⟨hentry, hnew⟩ := (checkEntry_eq_ok hnow).mp hfirst
        rw [checkEntry_seen hfirst, hentry.advisory.2] at hrest
        obtain ⟨hothers, hnodup, hunseen⟩ := (ih fun _ => hnow).mp hrest
        refine ⟨⟨first, rest, hentry, hothers, rfl⟩, ?_, ?_⟩
        · rw [List.map_cons, List.nodup_cons]
          refine ⟨fun hmem => ?_, hnodup⟩
          obtain ⟨other, hother, hsame⟩ := List.mem_map.mp hmem
          exact hunseen other hother (hsame ▸ List.mem_cons_self)
        · refine List.forall_mem_cons.mpr ⟨hnew, fun other hother hmem => ?_⟩
          exact hunseen other hother (List.mem_cons_of_mem _ hmem)
      · rintro ⟨⟨first, rest, hentry, hothers, rfl⟩, hnodup, hunseen⟩
        rw [List.map_cons, List.nodup_cons] at hnodup
        obtain ⟨hnew, hunseen⟩ := List.forall_mem_cons.mp hunseen
        have hfirst : (checkEntry (some now) seen index item).result = .ok first :=
          (checkEntry_eq_ok hnow).mpr ⟨hentry, hnew⟩
        refine ⟨first, rest, rfl, hfirst, ?_⟩
        rw [checkEntry_seen hfirst, hentry.advisory.2]
        refine (ih fun _ => hnow).mpr ⟨hothers, hnodup.2, fun other hother hmem => ?_⟩
        rcases List.mem_cons.mp hmem with hsame | hmem
        · exact hnodup.1 (hsame ▸ List.mem_map_of_mem hother)
        · exact hunseen other hother hmem

/-- A manifest that records exceptions, none of them twice. -/
structure IsManifest (today : Int) (manifest : JsValue) (entries : List ExceptionEntry) :
    Prop where
  object : ∃ fields, manifest = .object fields
  listed : ∃ items, manifest.field (js "exceptions") = .array items ∧
    List.Forall₂ (IsException today) items entries
  distinct : (entries.map ExceptionEntry.advisory).Nodup

/-- A manifest with an exception in its list. -/
def ListsException (manifest : JsValue) : Prop :=
  ∃ items, manifest.field (js "exceptions") = .array items ∧ items ≠ []

/-- A manifest with an exception that has a pin. -/
def RecordsPin (manifest : JsValue) : Prop :=
  ∃ items, manifest.field (js "exceptions") = .array items ∧
    ∃ item ∈ items, item.field (js "pin") ≠ .undefined

/-- Every entry is recorded by an item. -/
theorem IsManifest.recorded {today : Int} {manifest : JsValue} {entries : List ExceptionEntry}
    (hmanifest : IsManifest today manifest entries) (hentry : entry ∈ entries) :
    ∃ items item, manifest.field (js "exceptions") = .array items ∧ item ∈ items ∧
      IsException today item entry := by
  obtain ⟨items, hitems, hall⟩ := hmanifest.listed
  suffices hitem : ∃ item ∈ items, IsException today item entry by
    obtain ⟨item, hmem, hexception⟩ := hitem
    exact ⟨items, item, hitems, hmem, hexception⟩
  clear hitems hmanifest
  induction hall with
  | nil => cases hentry
  | cons hfirst _ ih =>
      rcases List.mem_cons.mp hentry with rfl | hentry
      · exact ⟨_, List.mem_cons_self, hfirst⟩
      · obtain ⟨item, hmem, hexception⟩ := ih hentry
        exact ⟨item, List.mem_cons_of_mem _ hmem, hexception⟩

theorem IsManifest.recordsPin {today : Int} {manifest : JsValue} {entries : List ExceptionEntry}
    (hmanifest : IsManifest today manifest entries) (hentry : entry ∈ entries)
    (hpin : entry.pin ≠ none) : RecordsPin manifest := by
  obtain ⟨items, item, hitems, hitem, hexception⟩ := hmanifest.recorded hentry
  refine ⟨items, hitems, item, hitem, fun hnone => ?_⟩
  obtain ⟨pin, hsome⟩ := Option.ne_none_iff_exists'.mp hpin
  have hrecorded := hexception.pin
  rw [hsome] at hrecorded
  obtain ⟨fields, hfields⟩ := hrecorded.object
  rw [hnone] at hfields
  cases hfields

theorem validateExceptionManifest_eq {manifest : JsValue} {entries : List ExceptionEntry}
    (hnow : ListsException manifest → 99 < (utcDate now).year) :
    validateExceptionManifest (some now) manifest = { errors := [], entries } ↔
      IsManifest (now / msPerDay) manifest entries := by
  have hlisted : ∀ fields, manifest = .object fields →
      (validateExceptionManifest (some now) manifest = { errors := [], entries } ↔
        ∃ items, manifest.field (js "exceptions") = .array items ∧
          checkEntries (some now) [] 0 items = { errors := [], entries }) := by
    rintro fields rfl
    rw [validateExceptionManifest]
    generalize JsValue.field (.object fields) (js "exceptions") = exceptions
    cases exceptions <;> simp
  constructor
  · intro hvalid
    cases manifest with
    | object fields =>
        obtain ⟨items, hitems, hentries⟩ := (hlisted fields rfl).mp hvalid
        obtain ⟨hall, hdistinct, -⟩ :=
          (checkEntries_eq fun hsome => hnow ⟨items, hitems, hsome⟩).mp hentries
        exact ⟨⟨fields, rfl⟩, ⟨items, hitems, hall⟩, hdistinct⟩
    | _ => simp [validateExceptionManifest] at hvalid
  · rintro ⟨⟨fields, hfields⟩, ⟨items, hitems, hall⟩, hdistinct⟩
    exact (hlisted fields hfields).mpr
      ⟨items, hitems, (checkEntries_eq fun hsome => hnow ⟨items, hitems, hsome⟩).mpr
        ⟨hall, hdistinct, by simp⟩⟩

end OdinSentinel.DependencyAudit
