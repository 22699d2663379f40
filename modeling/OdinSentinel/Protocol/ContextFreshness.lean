import OdinSentinel.Core.Fallible
import OdinSentinel.Protocol.ContextScript

/-!
# Freshness of a governed-context proof

A verified proof is fresh where "now" denotes an instant.  Where it does not, every age is
`NaN`, no age is above the limit, and what is verified is what the other checks let pass.
-/

namespace OdinSentinel.ContextScript

open JsText Host Regex Validators Readiness

/-! ## Ages as numbers -/

theorem toDouble_ne_nan (value : ℚ) : toDouble value ≠ .nan := by
  rw [toDouble_eq]
  split_ifs <;> simp

theorem le_of_not_lt {left right : JsNumber} (hleft : left ≠ .nan) (hright : right ≠ .nan)
    (hlt : right.lt left = false) : left.le right = true := by
  cases left with
  | nan => exact absurd rfl hleft
  | negInfinity => cases right <;> first | rfl | exact absurd rfl hright
  | infinity => cases right <;> first | rfl | exact absurd rfl hright | cases hlt
  | finite leftValue =>
      cases right with
      | nan => exact absurd rfl hright
      | negInfinity => cases hlt
      | infinity => rfl
      | finite rightValue =>
          rw [JsNumber.lt_finite, decide_eq_false_iff_not, not_lt] at hlt
          rw [JsNumber.le]
          exact decide_eq_true hlt

theorem ageAt_ne_nan (now instant : Int) : ageAt (.ofInt now) instant ≠ .nan := by
  have hdifference : ((JsNumber.ofInt now).sub (.ofInt instant)) ≠ .nan :=
    toDouble_ne_nan _
  rw [ageAt]
  generalize (JsNumber.ofInt now).sub (.ofInt instant) = difference at hdifference
  cases difference with
  | nan => exact absurd rfl hdifference
  | negInfinity | infinity =>
      simp only [JsNumber.div, JsNumber.ofNat]
      split_ifs <;> simp
  | finite value =>
      simp only [JsNumber.div, JsNumber.ofNat]
      split_ifs
      · simp_all
      · exact toDouble_ne_nan _

theorem ageAt_nan (instant : Int) : ageAt .nan instant = .nan := rfl

theorem lt_nan (left : JsNumber) : left.lt .nan = false := by
  cases left <;> rfl

theorem maxAge_ne_nan (options : VerifyOptions) : maxAge options ≠ .nan := by
  rw [maxAge]
  split
  · rename_i seconds _
    split_ifs with hfinite
    · rintro rfl
      cases hfinite
    · simp [defaultMaxAgeSeconds, JsNumber.ofNat]
  · simp [defaultMaxAgeSeconds, JsNumber.ofNat]

/-- Differences of instants below 2^53 are exact; only the division rounds. -/
theorem ageAt_of_close {now instant : Int} (hclose : (now - instant).natAbs < 2 ^ 53) :
    ageAt (.ofInt now) instant = toDouble ((now - instant : Int) / 1000) := by
  have hdifference : (JsNumber.ofInt now).sub (.ofInt instant) = .finite (now - instant : Int) := by
    have hexact := toDouble_intCast hclose
    push_cast at hexact ⊢
    rw [sub_eq_add_neg] at hexact ⊢
    exact hexact
  rw [ageAt, hdifference]
  rfl

/-- A limit in seconds has a double behind it that no age in milliseconds passes over. -/
theorem toDouble_beyond {seconds : Nat} (hseconds : seconds < 2 ^ 40) :
    toDouble (seconds + 1 / 1024 : ℚ) = .finite (seconds + 1 / 1024) := by
  have hgrid : (seconds + 1 / 1024 : ℚ) = (seconds * 1024 + 1 : Int) * 2 ^ (-10 : Int) := by
    push_cast
    norm_num
    ring
  have hpos : (0 : ℚ) < seconds + 1 / 1024 := by positivity
  have hcast : (seconds : ℚ) < 1099511627776 := by exact_mod_cast hseconds
  apply toDouble_multiple (gridExponent_le hpos _ (by decide)) hgrid
  · rw [abs_of_pos hpos]
    calc (seconds : ℚ) + 1 / 1024 < 2 ^ 41 := by norm_num; linarith
      _ ≤ 2 ^ 1024 := pow_le_pow_right₀ one_le_two (by decide)
  · have hpower : (2 : ℚ) ^ ((-10 : Int) + 53) = 8796093022208 := by norm_num
    rw [hpower]
    linarith

/-- Up to some thousand years the numbers compare as the milliseconds do, where the limit is a
whole number of seconds. -/
theorem ageAt_le_iff {now instant : Int} (hclose : (now - instant).natAbs < 2 ^ 53)
    {seconds : Nat} (hseconds : seconds < 2 ^ 40) :
    (ageAt (.ofInt now) instant).le (.ofNat seconds) = true ↔ now - instant ≤ 1000 * seconds := by
  have hlimit : toDouble (seconds : ℚ) = .ofNat seconds := by
    have hsmall : ((seconds : Int)).natAbs < 2 ^ 53 := by
      rw [Int.natAbs_natCast]
      exact hseconds.trans (by decide)
    have hexact := toDouble_intCast hsmall
    push_cast at hexact
    exact hexact
  constructor
  · intro hle
    by_contra habove
    have habove : (1000 * seconds + 1 : Int) ≤ now - instant := by omega
    have hmore : (1000 * seconds + 1 : ℚ) ≤ (now - instant : Int) := by exact_mod_cast habove
    have hlater : (seconds + 1 / 1024 : ℚ) ≤ ((now - instant : Int) : ℚ) / 1000 := by
      rw [le_div_iff₀ (by norm_num)]
      linarith
    have hmono := toDouble_mono hlater
    rw [toDouble_beyond hseconds, ← ageAt_of_close hclose] at hmono
    have hcompare := JsNumber.le_of_le_of_le hmono hle
    rw [JsNumber.ofNat, JsNumber.le, decide_eq_true_eq] at hcompare
    linarith
  · intro hle
    rw [ageAt_of_close hclose, ← hlimit]
    apply toDouble_mono
    rw [div_le_iff₀ (by norm_num)]
    have hcast : ((now - instant : Int) : ℚ) ≤ (1000 * seconds : Int) := by exact_mod_cast hle
    push_cast at hcast ⊢
    linarith

/-! ## What is verified -/

/-- A text that is there and that `Date.parse` reads. -/
def Dates (runtime : ScriptRuntime) (value : JsValue) (instant : Int) : Prop :=
  ∃ text, value = .string text ∧ trim text ≠ [] ∧ runtime.dateParse text = some instant

variable {runtime : ScriptRuntime} {disk : Disk} {options : VerifyOptions} {clock : Int}
variable {proof : JsValue} {nowMs limit : JsNumber}

/-- The checks that do not look at the clock. -/
structure Standing (runtime : ScriptRuntime) (disk : Disk) (options : VerifyOptions)
    (proof : JsValue) : Prop where
  object : ∃ fields, proof = .object fields
  shape : shapeReasons runtime proof (markerOf proof) = []
  control : ∃ control, checkControlFile runtime disk (baseOf options)
    (asRecord (proof.field (js "control_source"))) (markerOf proof) = .ok control ∧
      control.reasons = []
  receipt : ∃ fields, receiptOf proof = .object fields
  link : linkReasons (markerOf proof) (receiptOf proof) = []
  observed : ∃ instant, Dates runtime ((receiptOf proof).field (js "observed_at")) instant
  generated : ∃ instant, Dates runtime (proof.field (js "generated_at")) instant

/-- None of the two timestamps is stale. -/
def NoneStale (runtime : ScriptRuntime) (nowMs limit : JsNumber) (proof : JsValue) : Prop :=
  ∀ stamp ∈ [(receiptOf proof).field (js "observed_at"), proof.field (js "generated_at")],
    ∀ instant, Dates runtime stamp instant → limit.lt (ageAt nowMs instant) = false

theorem timestampReasons_eq_nil {iso invalid stale : JsString} :
    timestampReasons runtime iso nowMs limit invalid stale = [] ↔
      ∃ instant, runtime.dateParse iso = some instant ∧
        limit.lt (ageAt nowMs instant) = false := by
  rw [timestampReasons, ageSeconds]
  cases runtime.dateParse iso with
  | none => simp
  | some instant => simp

theorem observedReasons_eq_nil {uptake : JsValue} :
    observedReasons runtime nowMs limit uptake = [] ↔
      ∃ instant, Dates runtime (uptake.field (js "observed_at")) instant ∧
        limit.lt (ageAt nowMs instant) = false := by
  rw [observedReasons]
  cases uptake.field (js "observed_at") with
  | string text =>
      by_cases hblank : trim text = []
      · simp [Dates, hblank]
      · simp [Dates, hblank, timestampReasons_eq_nil]
  | _ => simp [Dates]

theorem generatedReasons_eq_nil (hthere : isNonBlankText (proof.field (js "generated_at")) = true) :
    generatedReasons runtime nowMs limit proof = [] ↔
      ∃ instant, Dates runtime (proof.field (js "generated_at")) instant ∧
        limit.lt (ageAt nowMs instant) = false := by
  rw [generatedReasons]
  cases hfield : proof.field (js "generated_at") with
  | string text =>
      rw [hfield, isNonBlankText, bne_iff_ne] at hthere
      simp [Dates, hthere, timestampReasons_eq_nil]
  | _ =>
      rw [hfield] at hthere
      cases hthere

theorem Dates.unique {value : JsValue} {first second : Int} (hfirst : Dates runtime value first)
    (hsecond : Dates runtime value second) : first = second := by
  obtain ⟨text, rfl, -, hparse⟩ := hfirst
  obtain ⟨_, hsame, -, hparse'⟩ := hsecond
  cases hsame
  exact Option.some.inj (hparse.symm.trans hparse')

theorem shapeReasons_generated {marker : JsString} (hshape : shapeReasons runtime proof marker = []) :
    isNonBlankText (proof.field (js "generated_at")) = true := by
  simp only [shapeReasons, List.append_eq_nil_iff, List.flatMap_cons, List.flatMap_nil,
    reasonIf_eq_nil] at hshape
  simpa using hshape.1.1.2.2.2.2.1

/-- The script reports the proof as verified. -/
def Verified (runtime : ScriptRuntime) (disk : Disk) (options : VerifyOptions) (clock : Int)
    (proof : JsValue) : Prop :=
  ∃ report, verifyGovernedContextProof runtime disk options clock proof = .ok report ∧
    report.ok = true

theorem verified_object {fields : List (JsString × JsValue)} (hproof : proof = .object fields) :
    Verified runtime disk options clock proof ↔ ∃ control,
      checkControlFile runtime disk (baseOf options)
        (asRecord (proof.field (js "control_source"))) (markerOf proof) = .ok control ∧
      verifyReasons runtime options clock proof control = [] := by
  have hok : ∀ control, (reportOf runtime options clock proof control).ok =
      (verifyReasons runtime options clock proof control).isEmpty := fun control => rfl
  rw [Verified, hproof, verifyGovernedContextProof, ← hproof]
  constructor
  · rintro ⟨report, hreport, hreportOk⟩
    obtain ⟨control, hcontrol, hreport⟩ := Fallible.do_eq_ok.mp hreport
    rw [← Except.ok.inj hreport, hok] at hreportOk
    exact ⟨control, hcontrol, List.isEmpty_iff.mp hreportOk⟩
  · rintro ⟨control, hcontrol, hreasons⟩
    refine ⟨_, Fallible.do_eq_ok.mpr ⟨control, hcontrol, rfl⟩, ?_⟩
    rw [hok]
    exact List.isEmpty_iff.mpr hreasons

/-- A proof that declares no path is verified where nothing else is wrong with it. -/
theorem verified_of_pathless {fields : List (JsString × JsValue)} (hproof : proof = .object fields)
    (hpath : declaredPath (asRecord (proof.field (js "control_source"))) = none)
    (hreasons : verifyReasons runtime options clock proof
      { diskBytes := none, diskSha := none, reasons := [] } = []) :
    Verified runtime disk options clock proof := by
  refine (verified_object hproof).mpr ⟨_, ?_, hreasons⟩
  rw [checkControlFile, hpath]

/-- What is verified stands without the clock, and neither timestamp is stale. -/
theorem verified_iff : Verified runtime disk options clock proof ↔
    Standing runtime disk options proof ∧
      NoneStale runtime (numberOrNaN (nowInstant runtime options clock)) (maxAge options)
        proof := by
  cases proof with
  | object fields =>
      obtain ⟨proof, hproof⟩ : ∃ proof, proof = JsValue.object fields := ⟨_, rfl⟩
      rw [← hproof]
      rw [verified_object hproof]
      simp only [verifyReasons, List.append_eq_nil_iff]
      constructor
      · rintro ⟨control, hcontrol, ⟨⟨hshape, hfile⟩, hreceipt⟩, hgenerated⟩
        rw [generatedReasons_eq_nil (shapeReasons_generated hshape)] at hgenerated
        obtain ⟨generated, hgenerated, hyoung⟩ := hgenerated
        cases hreceiptOf : receiptOf proof with
        | object members =>
            rw [hreceiptOf] at hreceipt
            obtain ⟨hlink, hobserved⟩ := List.append_eq_nil_iff.mp hreceipt
            obtain ⟨observed, hobserved, hrecent⟩ := observedReasons_eq_nil.mp hobserved
            rw [← hreceiptOf] at hlink hobserved
            refine ⟨⟨⟨fields, hproof⟩, hshape, ⟨control, hcontrol, hfile⟩, ⟨members, hreceiptOf⟩,
              hlink, ⟨observed, hobserved⟩, ⟨generated, hgenerated⟩⟩, ?_⟩
            intro stamp hstamp instant hdates
            simp only [List.mem_cons, List.not_mem_nil, or_false] at hstamp
            rcases hstamp with rfl | rfl
            · rwa [hdates.unique hobserved]
            · rwa [hdates.unique hgenerated]
        | _ =>
            rw [hreceiptOf] at hreceipt
            cases hreceipt
      · rintro ⟨hstanding, hyoung⟩
        obtain ⟨control, hcontrol, hfile⟩ := hstanding.control
        obtain ⟨members, hreceipt⟩ := hstanding.receipt
        obtain ⟨observed, hobserved⟩ := hstanding.observed
        obtain ⟨generated, hgenerated⟩ := hstanding.generated
        refine ⟨control, hcontrol, ⟨⟨hstanding.shape, hfile⟩, ?_⟩, ?_⟩
        · have hlink := hstanding.link
          have hrecent := observedReasons_eq_nil.mpr
            ⟨observed, hobserved, hyoung _ (by simp) observed hobserved⟩
          rw [hreceipt] at hlink hrecent ⊢
          exact List.append_eq_nil_iff.mpr ⟨hlink, hrecent⟩
        · rw [generatedReasons_eq_nil (shapeReasons_generated hstanding.shape)]
          exact ⟨generated, hgenerated, hyoung _ (by simp) generated hgenerated⟩
  | _ =>
      constructor
      · rintro ⟨report, hreport, hok⟩
        cases hreport
        cases hok
      · rintro ⟨hstanding, -⟩
        obtain ⟨fields, hfields⟩ := hstanding.object
        cases hfields

/-- An instant is at most the limit before "now": as numbers, and up to some thousand years in
milliseconds where the limit is a whole number of seconds. -/
structure Within (now instant : Int) (limit : JsNumber) : Prop where
  age : (ageAt (.ofInt now) instant).le limit = true
  milliseconds : ∀ seconds : Nat, limit = .ofNat seconds → seconds < 2 ^ 40 →
    (now - instant).natAbs < 2 ^ 53 → now - instant ≤ 1000 * seconds

theorem within_of_le {now instant : Int} (hle : (ageAt (.ofInt now) instant).le limit = true) :
    Within now instant limit := by
  refine ⟨hle, fun seconds hlimit hseconds hclose => ?_⟩
  rw [hlimit] at hle
  exact (ageAt_le_iff hclose hseconds).mp hle

/-- "Now" denotes an instant, both timestamps do, and neither lies further before it than the
limit. -/
def Fresh (runtime : ScriptRuntime) (options : VerifyOptions) (clock : Int) (proof : JsValue) :
    Prop :=
  ∃ now, nowInstant runtime options clock = some now ∧
    ∀ stamp ∈ [(receiptOf proof).field (js "observed_at"), proof.field (js "generated_at")],
      ∃ instant, Dates runtime stamp instant ∧ Within now instant (maxAge options)

/-- What is verified is fresh exactly where "now" denotes an instant, or where another check
refuses the proof. -/
theorem verified_fresh_iff (runtime : ScriptRuntime) (disk : Disk) (options : VerifyOptions)
    (clock : Int) (proof : JsValue) :
    (Verified runtime disk options clock proof → Fresh runtime options clock proof) ↔
      (nowInstant runtime options clock).isSome = true ∨
        ¬Standing runtime disk options proof := by
  rw [verified_iff]
  cases hnow : nowInstant runtime options clock with
  | none =>
      have hyoung : NoneStale runtime (numberOrNaN none) (maxAge options) proof := by
        intro stamp _ instant _
        rw [numberOrNaN, ageAt_nan]
        exact lt_nan _
      constructor
      · intro hfresh
        refine .inr fun hstanding => ?_
        obtain ⟨now, hsome, -⟩ := hfresh ⟨hstanding, hyoung⟩
        rw [hnow] at hsome
        cases hsome
      · rintro (hsome | hrefused) ⟨hstanding, -⟩
        · cases hsome
        · exact absurd hstanding hrefused
  | some now =>
      refine ⟨fun _ => .inl rfl, fun _ => ?_⟩
      rintro ⟨hstanding, hyoung⟩
      refine ⟨now, hnow, fun stamp hstamp => ?_⟩
      have hdates : ∃ instant, Dates runtime stamp instant := by
        simp only [List.mem_cons, List.not_mem_nil, or_false] at hstamp
        rcases hstamp with rfl | rfl
        · exact hstanding.observed
        · exact hstanding.generated
      obtain ⟨instant, hinstant⟩ := hdates
      have hage : (ageAt (.ofInt now) instant).le (maxAge options) = true :=
        le_of_not_lt (ageAt_ne_nan now instant) (maxAge_ne_nan options)
          (hyoung stamp hstamp instant hinstant)
      exact ⟨instant, hinstant, within_of_le hage⟩

/-- A proof from the year 2001. -/
def oldProof : JsValue :=
  .object [
    (js "schema", .string schemaId),
    (js "role", .string (js "QA")),
    (js "harness", .string (js "pi")),
    (js "source_type", .string (js "native_skill")),
    (js "control_source", .object [(js "marker", .string (js "v1"))]),
    (js "uptake_receipt", .object [
      (js "method", .string (js "read")),
      (js "evidence_marker", .string (js "v1")),
      (js "observed", .bool true),
      (js "observed_at", .string (js "2001-01-01T00:00:00.000Z"))]),
    (js "generated_at", .string (js "2001-01-01T00:00:00.000Z"))]

/-- A "now" that is no date. -/
def undatedOptions : VerifyOptions :=
  { base := none, now := some (.text (js "tomorrow")), maxAgeSeconds := none }

def plainRuntime : ScriptRuntime :=
  { plainHost with sha256 := fun _ => [], utf8Text := fun bytes => bytes.map UInt8.toUInt16 }

theorem oldProof_reasons : verifyReasons plainRuntime undatedOptions 0 oldProof
    { diskBytes := none, diskSha := none, reasons := [] } = [] := by
  decide +kernel

theorem oldProof_verified :
    Verified plainRuntime (fun _ => .missing) undatedOptions 0 oldProof :=
  verified_of_pathless rfl (by decide) oldProof_reasons

theorem undatedOptions_now : nowInstant plainRuntime undatedOptions 0 = none := by
  decide

theorem undated_now_verifies_old_proof :
    ¬∀ (runtime : ScriptRuntime) (disk : Disk) (options : VerifyOptions) (clock : Int)
        (proof : JsValue),
      Verified runtime disk options clock proof → Fresh runtime options clock proof := by
  intro hclaim
  obtain ⟨now, hnow, -⟩ := hclaim _ _ _ _ _ oldProof_verified
  cases hnow.symm.trans undatedOptions_now

end OdinSentinel.ContextScript
