import OdinSentinel.Telemetry.Worker

/-!
# Two sets of limits

The client and the worker clean the same fields, each with limits of its own.  The worker
has a shorter limit for labels than the client and one for the length of a list, which
the client does not have; the client counts the entries of a list without a limit, and
it trims a version before it cuts it.  Field by field, when the worker leaves alone what
the client made.
-/

namespace OdinSentinel.Telemetry

open JsText

/-! ## Texts -/

theorem shortened_eq_take (maxLen : Nat) (text : JsString) :
    shortened maxLen text = text.take maxLen := by
  rw [shortened]
  split
  · rfl
  · rename_i hshort
    exact (List.take_of_length_le (Nat.le_of_not_lt hshort)).symm

theorem shortened_of_le {maxLen : Nat} {text : JsString} (hlength : text.length ≤ maxLen) :
    shortened maxLen text = text := by
  rw [shortened_eq_take, List.take_of_length_le hlength]

theorem length_shortened (maxLen : Nat) (text : JsString) :
    (shortened maxLen text).length = min maxLen text.length := by
  rw [shortened_eq_take, List.length_take]

theorem shortened_eq_nil_iff {maxLen : Nat} {text : JsString} (hmaxLen : maxLen ≠ 0) :
    shortened maxLen text = [] ↔ text = [] := by
  rw [shortened_eq_take, List.take_eq_nil_iff, or_iff_right hmaxLen]

/-- What the client keeps of a text before it cuts it. -/
def cleaned : JsValue → JsString
  | .string text => trim (redactString text)
  | _ => []

theorem safeString_eq (value : JsValue) (maxLen : Nat) :
    safeString value maxLen = shortened maxLen (cleaned value) := by
  cases value with
  | string text => rfl
  | _ => simp only [safeString, cleaned, shortened, List.length_nil, Nat.not_lt_zero, if_false]

theorem trim_cleaned (value : JsValue) : trim (cleaned value) = cleaned value := by
  cases value with
  | string text => exact Text.trimBy_trimBy isSpace _
  | _ => rfl

/-- Cutting a trimmed text to a shorter length changes it exactly when it is longer. -/
theorem toFiniteString_shortened_iff {short long : Nat} (hlimits : short < long)
    {text : JsString} (htrim : trim text = text) :
    toFiniteString (.string (shortened long text)) short = shortened long text ↔
      text.length ≤ short := by
  constructor
  · intro hsame
    have hlength : min long text.length ≤ short := by
      calc min long text.length
          = (toFiniteString (.string (shortened long text)) short).length := by
            rw [hsame, length_shortened]
        _ ≤ short := by
            rw [toFiniteString, length_shortened]
            exact min_le_left _ _
    omega
  · intro hlength
    rw [shortened_of_le (hlength.trans hlimits.le), toFiniteString, htrim,
      shortened_of_le hlength]

/-- The cut of a trimmed text is trimmed exactly when it does not end in a blank. -/
theorem trim_shortened_iff {maxLen : Nat} {text : JsString} (htrim : trim text = text) :
    trim (shortened (maxLen + 1) text) = shortened (maxLen + 1) text ↔
      ∀ unit ∈ text[maxLen]?, isSpace unit = false := by
  obtain ⟨hfront, hback⟩ := Text.trimBy_eq_self_iff.mp htrim
  have hend : (text.take (maxLen + 1)).getLast? = text[maxLen]?.or text.getLast? := by
    rw [List.getLast?_take, if_neg (Nat.succ_ne_zero maxLen), Nat.add_sub_cancel]
  have hopen : (text.take (maxLen + 1)).head? = text.head? := by
    rw [List.head?_take, if_neg (Nat.succ_ne_zero maxLen)]
  rw [shortened_eq_take, trim, Text.trimBy_eq_self_iff, hopen, hend]
  cases hunit : text[maxLen]? with
  | none =>
      simp only [Option.none_or, Option.mem_def, reduceCtorEq, false_implies, implies_true,
        iff_true]
      exact ⟨hfront, hback⟩
  | some unit =>
      rw [Option.some_or]
      exact and_iff_right hfront

/-- The worker keeps the client's version exactly when the client's cut does not end in a
blank. -/
theorem toFiniteString_version_iff (value : JsValue) :
    toFiniteString (.string (safeString value 32)) 32 = safeString value 32 ↔
      ∀ unit ∈ (cleaned value)[31]?, isSpace unit = false := by
  have hlength : (trim (shortened 32 (cleaned value))).length ≤ 32 := by
    calc (trim (shortened 32 (cleaned value))).length
        ≤ (shortened 32 (cleaned value)).length := (Text.trimBy_infix_self isSpace _).length_le
      _ ≤ 32 := by
          rw [length_shortened]
          exact min_le_left _ _
  rw [safeString_eq, toFiniteString, shortened_of_le hlength]
  exact trim_shortened_iff (trim_cleaned value)

/-! ## Lists -/

theorem map_take_eq_self_iff {Entry : Type*} {again : Entry → Entry} {most : Nat}
    {entries : List Entry} :
    (entries.take most).map again = entries ↔
      entries.length ≤ most ∧ ∀ entry ∈ entries, again entry = entry := by
  have hmap : entries.map again = entries ↔ ∀ entry ∈ entries, again entry = entry := by
    conv_lhs => rhs; rw [← List.map_id entries]
    exact List.map_inj_left
  constructor
  · intro hsame
    have hfew : entries.length ≤ most := by
      calc entries.length = ((entries.take most).map again).length := by rw [hsame]
        _ ≤ most := by rw [List.length_map]; exact List.length_take_le most entries
    rw [List.take_of_length_le hfew] at hsame
    exact ⟨hfew, hmap.mp hsame⟩
  · rintro ⟨hfew, hsame⟩
    rw [List.take_of_length_le hfew, hmap.mpr hsame]

/-- The worker keeps a list of non-empty texts exactly when it has room for it and for each
of them. -/
theorem stringArray_eq_self_iff {texts : List JsString} (hshown : ∀ text ∈ texts, text ≠ []) :
    stringArray (.array (texts.map .string)) = texts ↔
      texts.length ≤ 100 ∧ ∀ text ∈ texts, toFiniteString (.string text) = text := by
  rw [← map_take_eq_self_iff, stringArray, ← List.map_take, List.map_map]
  constructor
  · intro hsame
    have hall : ((texts.take 100).map fun text => toFiniteString (.string text)).filter
        (· ≠ []) = (texts.take 100).map fun text => toFiniteString (.string text) := by
      apply List.filter_sublist.eq_of_length_le
      calc ((texts.take 100).map fun text => toFiniteString (.string text)).length
          = (texts.take 100).length := List.length_map _
        _ ≤ texts.length := List.length_take_le' 100 texts
        _ = _ := (congrArg List.length hsame).symm
    exact hall.symm.trans hsame
  · intro hsame
    have hkept : texts.filter (· ≠ []) = texts := by
      rw [List.filter_eq_self]
      exact fun text htext => decide_eq_true (hshown text htext)
    calc ((texts.take 100).map _).filter (· ≠ [])
        = texts.filter (· ≠ []) := congrArg _ hsame
      _ = texts := hkept

theorem mem_distinct_iff {text : JsString} {texts : List JsString} :
    text ∈ distinct texts ↔ text ∈ texts ∧ text ≠ [] := by
  rw [distinct, List.mem_eraseDups, List.mem_filter, decide_eq_true_eq]

theorem distinct_eq_nil_iff {texts : List JsString} :
    distinct texts = [] ↔ ∀ text ∈ texts, text = [] := by
  rw [List.eq_nil_iff_forall_not_mem]
  simp only [mem_distinct_iff, not_and, not_not]

/-- The labels of a list that a payload carries whole: none has more than 64 units and
at most 100 of them differ. -/
structure LabelsFit (labels : List JsString) : Prop where
  short : ∀ label ∈ labels, label.length ≤ 64
  few : (distinct labels).length ≤ 100

theorem stringArray_labels_iff {labels : List JsString}
    (htrim : ∀ label ∈ labels, trim label = label) :
    stringArray (.array ((distinct (labels.map (shortened 96))).map .string)) =
        distinct (labels.map (shortened 96)) ↔
      LabelsFit labels := by
  have hcut : (∀ label ∈ labels, label.length ≤ 64) → labels.map (shortened 96) = labels := by
    intro hshort
    conv_rhs => rw [← List.map_id labels]
    exact List.map_congr_left fun label hlabel =>
      shortened_of_le ((hshort label hlabel).trans (by decide))
  rw [stringArray_eq_self_iff fun label hlabel => (mem_distinct_iff.mp hlabel).2]
  constructor
  · rintro ⟨hfew, hsame⟩
    have hshort : ∀ label ∈ labels, label.length ≤ 64 := by
      intro label hlabel
      by_cases hempty : shortened 96 label = []
      · rw [(shortened_eq_nil_iff (by decide)).mp hempty]
        exact Nat.zero_le 64
      · exact (toFiniteString_shortened_iff (by decide) (htrim label hlabel)).mp
          (hsame _ (mem_distinct_iff.mpr ⟨List.mem_map_of_mem hlabel, hempty⟩))
    rw [hcut hshort] at hfew
    exact ⟨hshort, hfew⟩
  · intro hfit
    rw [hcut hfit.short]
    refine ⟨hfit.few, fun label hlabel => ?_⟩
    have hmem := (mem_distinct_iff.mp hlabel).1
    have hkept := (@toFiniteString_shortened_iff 64 96 (by decide) label
      (htrim label hmem)).mpr (hfit.short label hmem)
    rwa [shortened_of_le ((hfit.short label hmem).trans (by decide))] at hkept

/-! ## Counts -/

theorem trunc_intCast (value : Int) : trunc value = value := by
  rw [trunc, Rat.floor_intCast, Rat.ceil_intCast, ite_self]

section SafeInt

variable {value : JsValue} {fallback least most : Int}

theorem le_safeInt (hrange : least ≤ most) (hfallback : least ≤ fallback) :
    least ≤ safeInt value fallback least most := by
  rw [safeInt.eq_def]
  split
  · dsimp only
    split_ifs <;> omega
  · exact hfallback

theorem safeInt_le (hrange : least ≤ most) (hfallback : fallback ≤ most) :
    safeInt value fallback least most ≤ most := by
  rw [safeInt.eq_def]
  split
  · dsimp only
    split_ifs <;> omega
  · exact hfallback

end SafeInt

/-- The worker keeps a count exactly when it is in range. -/
theorem toFiniteInt_ofInt_iff {count most : Int} :
    toFiniteInt (.number (.ofInt count)) 0 most = count ↔ 0 ≤ count ∧ count ≤ most := by
  have hread : toFiniteInt (.number (.ofInt count)) 0 most =
      if trunc count < 0 then 0 else if most < trunc count then most else trunc count := rfl
  rw [hread, trunc_intCast]
  split_ifs <;> omega

theorem toFiniteInt_safeInt {value : JsValue} {most : Int} (hmost : 0 ≤ most) :
    toFiniteInt (.number (.ofInt (safeInt value 0 0 most))) 0 most = safeInt value 0 0 most :=
  toFiniteInt_ofInt_iff.mpr ⟨le_safeInt hmost le_rfl, safeInt_le hmost hmost⟩

/-- A count that a payload carries whole: the report states it, or the list that is counted
in its place has at most 10000 entries. -/
def CountFits (stated counted : JsValue) : Prop :=
  (∃ number, stated = .number (.finite number)) ∨ lengthOf counted ≤ 10000

theorem lengthOf_nonneg (value : JsValue) : 0 ≤ lengthOf value := by
  cases value <;> simp [lengthOf]

theorem safeInt_lengthOf_le_iff {stated counted : JsValue} :
    safeInt stated (lengthOf counted) 0 10000 ≤ 10000 ↔ CountFits stated counted := by
  by_cases hnumber : ∃ number, stated = .number (.finite number)
  · obtain ⟨number, rfl⟩ := hnumber
    have hstated : safeInt (.number (.finite number)) 0 0 10000 ≤ 10000 :=
      safeInt_le (by decide) (by decide)
    exact iff_of_true hstated (.inl ⟨number, rfl⟩)
  · have hfallback : safeInt stated (lengthOf counted) 0 10000 = lengthOf counted := by
      rw [safeInt.eq_def]
      split
      · exact absurd ⟨_, rfl⟩ hnumber
      · rfl
    rw [hfallback, CountFits, or_iff_right hnumber]

theorem toFiniteInt_lengthOf_iff {stated counted : JsValue} :
    toFiniteInt (.number (.ofInt (safeInt stated (lengthOf counted) 0 10000))) 0 10000 =
        safeInt stated (lengthOf counted) 0 10000 ↔
      CountFits stated counted := by
  rw [toFiniteInt_ofInt_iff, safeInt_lengthOf_le_iff]
  exact and_iff_right (le_safeInt (by decide) (lengthOf_nonneg counted))

/-! ## Model signals -/

/-- The entries that the client reads signals from. -/
def signalEntries : JsValue → List JsValue
  | .array entries => entries.filter isRecord
  | _ => []

/-- What the client reads from one of them. -/
def modelSignal (entry : JsValue) : ModelSignal :=
  { role := safeString (entry.field (js "role"))
    model := safeString (entry.field (js "model"))
    violations := safeInt (entry.field (js "violations")) 0 0 10000 }

theorem modelSignals_eq (report : JsValue) :
    modelSignals report = (signalEntries (report.field (js "modelSignals"))).map modelSignal := by
  rw [modelSignals]
  cases report.field (js "modelSignals") <;> rfl

/-- The signals that a payload carries whole. -/
structure SignalsFit (entries : List JsValue) : Prop where
  short : ∀ entry ∈ entries, (cleaned (entry.field (js "role"))).length ≤ 64 ∧
    (cleaned (entry.field (js "model"))).length ≤ 64
  few : entries.length ≤ 100

/-- What the worker reads back of a signal. -/
def ModelSignal.again (signal : ModelSignal) : ModelSignal :=
  { role := toFiniteString (.string signal.role)
    model := toFiniteString (.string signal.model)
    violations := toFiniteInt (.number (.ofInt signal.violations)) 0 10000 }

theorem modelSignalSummaries_toJson (signals : List ModelSignal) :
    modelSignalSummaries (.array (signals.map ModelSignal.toJson)) =
      (signals.take 100).map ModelSignal.again := by
  have hrecords : ((signals.take 100).map ModelSignal.toJson).filter isRecord =
      (signals.take 100).map ModelSignal.toJson := by
    rw [List.filter_eq_self]
    intro entry hentry
    obtain ⟨signal, -, rfl⟩ := List.mem_map.mp hentry
    rfl
  rw [modelSignalSummaries, ← List.map_take, hrecords, List.map_map]
  rfl

/-- The client's limit for a label is longer than the worker's. -/
theorem toFiniteString_safeString_iff (value : JsValue) :
    toFiniteString (.string (safeString value)) = safeString value ↔
      (cleaned value).length ≤ 64 := by
  rw [safeString_eq]
  exact toFiniteString_shortened_iff (by decide) (trim_cleaned value)

theorem modelSignal_again_iff (entry : JsValue) :
    (modelSignal entry).again = modelSignal entry ↔
      (cleaned (entry.field (js "role"))).length ≤ 64 ∧
        (cleaned (entry.field (js "model"))).length ≤ 64 := by
  rw [ModelSignal.again, modelSignal, ModelSignal.mk.injEq, toFiniteString_safeString_iff,
    toFiniteString_safeString_iff, toFiniteInt_safeInt (by decide)]
  simp only [and_true]

theorem modelSignals_again_iff (entries : List JsValue) :
    modelSignalSummaries (.array ((entries.map modelSignal).map ModelSignal.toJson)) =
        entries.map modelSignal ↔
      SignalsFit entries := by
  rw [modelSignalSummaries_toJson, map_take_eq_self_iff, List.length_map, List.forall_mem_map]
  simp only [modelSignal_again_iff]
  exact ⟨fun hsame => ⟨hsame.2, hsame.1⟩, fun hfit => ⟨hfit.few, hfit.short⟩⟩

end OdinSentinel.Telemetry
