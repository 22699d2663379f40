import Mathlib.Algebra.Order.Floor.Ring
import Mathlib.Data.Int.Log
import Mathlib.Tactic.Linarith
import OdinSentinel.Core.JsText

/-!
# Rounding to doubles

The double nearest to an exact value, as a numeric literal denotes it, and the
arithmetic on numbers with its rounding.
-/

namespace OdinSentinel.JsText

/-- The nearest integer, halves to even. -/
def roundHalfEven (value : ℚ) : Int :=
  let low := ⌊value⌋
  let part := value - low
  if part < 1 / 2 then low
  else if 1 / 2 < part then low + 1
  else if low % 2 = 0 then low
  else low + 1

/-- The double nearest to an exact value. -/
def toDouble (value : ℚ) : JsNumber :=
  let exponent := max (Int.log 2 |value| - 52) (-1074)
  let rounded := roundHalfEven (value / 2 ^ exponent) * (2 : ℚ) ^ exponent
  if |rounded| < 2 ^ 1024 then .finite rounded
  else if 0 < value then .infinity
  else .negInfinity

theorem roundHalfEven_intCast (value : Int) : roundHalfEven value = value := by
  simp [roundHalfEven]

/-- An integer of at most 53 bits is a double. -/
theorem toDouble_intCast {value : Int} (hvalue : value.natAbs < 2 ^ 53) :
    toDouble value = .finite value := by
  have habs : |(value : ℚ)| = (value.natAbs : ℚ) := by
    rw [Nat.cast_natAbs, Int.cast_abs]
  have hlog : Int.log 2 |(value : ℚ)| ≤ 52 := by
    rw [habs, Int.log_natCast]
    have hlt : Nat.log 2 value.natAbs < 53 := Nat.log_lt_of_lt_pow' (by decide) hvalue
    omega
  obtain ⟨shift, hshift⟩ : ∃ shift : Nat,
      max (Int.log 2 |(value : ℚ)| - 52) (-1074) = -(shift : Int) := by
    refine ⟨(-max (Int.log 2 |(value : ℚ)| - 52) (-1074)).toNat, ?_⟩
    omega
  have hscaled : (value : ℚ) / 2 ^ (-(shift : Int)) = ((value * 2 ^ shift : Int) : ℚ) := by
    rw [zpow_neg, zpow_natCast, div_inv_eq_mul]
    push_cast
    rfl
  have hrounded : (roundHalfEven ((value : ℚ) / 2 ^ (-(shift : Int))) : ℚ) *
      (2 : ℚ) ^ (-(shift : Int)) = value := by
    rw [hscaled, roundHalfEven_intCast, zpow_neg, zpow_natCast]
    push_cast
    field_simp
  have hsmall : |(value : ℚ)| < 2 ^ 1024 := by
    rw [habs]
    calc (value.natAbs : ℚ) < 2 ^ 53 := by exact_mod_cast hvalue
      _ ≤ 2 ^ 1024 := pow_le_pow_right₀ one_le_two (by decide)
  unfold toDouble
  rw [hshift]
  dsimp only
  rw [hrounded, if_pos hsmall]

/-! ## Rounding keeps the order -/

theorem roundHalfEven_bounds (value : ℚ) :
    ⌊value⌋ ≤ roundHalfEven value ∧ roundHalfEven value ≤ ⌊value⌋ + 1 := by
  unfold roundHalfEven
  dsimp only
  split_ifs <;> omega

theorem roundHalfEven_mono {left right : ℚ} (hle : left ≤ right) :
    roundHalfEven left ≤ roundHalfEven right := by
  obtain ⟨-, hleft⟩ := roundHalfEven_bounds left
  obtain ⟨hright, -⟩ := roundHalfEven_bounds right
  rcases (Int.floor_le_floor hle).lt_or_eq with hlow | hlow
  · omega
  · -- On one integer part the fractional parts decide.
    unfold roundHalfEven
    dsimp only
    rw [hlow]
    have hpart : left - ⌊right⌋ ≤ right - ⌊right⌋ := sub_le_sub_right hle _
    split_ifs <;> first | omega | linarith

/-- A value rounded to the multiples of a power of two. -/
def roundAt (exponent : Int) (value : ℚ) : ℚ :=
  roundHalfEven (value / 2 ^ exponent) * (2 : ℚ) ^ exponent

theorem roundAt_mono (exponent : Int) {left right : ℚ} (hle : left ≤ right) :
    roundAt exponent left ≤ roundAt exponent right := by
  have hpos : (0 : ℚ) < 2 ^ exponent := zpow_pos (by norm_num) _
  apply mul_le_mul_of_nonneg_right _ hpos.le
  exact_mod_cast roundHalfEven_mono (div_le_div_of_nonneg_right hle hpos.le)

/-- A multiple of the power rounds to itself. -/
theorem roundAt_multiple (exponent count : Int) :
    roundAt exponent (count * 2 ^ exponent) = count * 2 ^ exponent := by
  have hpos : (0 : ℚ) < 2 ^ exponent := zpow_pos (by norm_num) _
  rw [roundAt, mul_div_cancel_right₀ _ hpos.ne', roundHalfEven_intCast]

theorem roundAt_zero (exponent : Int) : roundAt exponent 0 = 0 := by
  simpa using roundAt_multiple exponent 0

/-- A bound that both grids have parts the rounded values. -/
theorem roundAt_le_roundAt {left right bound : ℚ} {low high : Int} (hleft : left ≤ bound)
    (hright : bound ≤ right) (hlow : roundAt low bound = bound)
    (hhigh : roundAt high bound = bound) : roundAt low left ≤ roundAt high right :=
  calc roundAt low left ≤ roundAt low bound := roundAt_mono low hleft
    _ = roundAt high bound := hlow.trans hhigh.symm
    _ ≤ roundAt high right := roundAt_mono high hright

/-- The exponent of the doubles around a value. -/
def gridExponent (value : ℚ) : Int := max (Int.log 2 |value| - 52) (-1074)

/-- A multiple of a power of two is one of every smaller power. -/
theorem multiple_of_le {exponent high : Int} (hle : exponent ≤ high) (count : Int) :
    ∃ finer : Int, (count : ℚ) * 2 ^ high = finer * 2 ^ exponent := by
  obtain ⟨shift, rfl⟩ := Int.le.dest hle
  refine ⟨count * 2 ^ shift, ?_⟩
  rw [zpow_add₀ (by norm_num), zpow_natCast]
  push_cast
  ring

theorem roundAt_power {exponent high : Int} (hle : exponent ≤ high) (sign : Int) :
    roundAt exponent (sign * 2 ^ high) = sign * 2 ^ high := by
  obtain ⟨finer, hpower⟩ := multiple_of_le hle sign
  rw [hpower]
  exact roundAt_multiple exponent finer

/-- Between grids that differ lies the power at which the coarser begins. -/
theorem power_between {small large : ℚ} (hlarge : large ≠ 0)
    (hgrid : gridExponent small < gridExponent large) :
    |small| ≤ 2 ^ (gridExponent large + 52) ∧ (2 : ℚ) ^ (gridExponent large + 52) ≤ |large| := by
  have hlog : gridExponent large = Int.log 2 |large| - 52 := by
    unfold gridExponent at hgrid ⊢
    omega
  have hsmall : Int.log 2 |small| + 1 ≤ gridExponent large + 52 := by
    rw [gridExponent] at hgrid ⊢
    omega
  constructor
  · calc |small| ≤ 2 ^ (Int.log 2 |small| + 1) := (Int.lt_zpow_succ_log_self (by decide) _).le
      _ ≤ 2 ^ (gridExponent large + 52) := zpow_le_zpow_right₀ (by norm_num) hsmall
  · rw [hlog, sub_add_cancel]
    exact Int.zpow_log_le_self (by decide) (abs_pos.mpr hlarge)

/-- A value rounded to the doubles of an unbounded range. -/
def roundedValue (value : ℚ) : ℚ := roundAt (gridExponent value) value

theorem roundedValue_nonneg {value : ℚ} (hvalue : 0 ≤ value) : 0 ≤ roundedValue value := by
  rw [← roundAt_zero (gridExponent value)]
  exact roundAt_mono _ hvalue

theorem roundedValue_nonpos {value : ℚ} (hvalue : value ≤ 0) : roundedValue value ≤ 0 := by
  rw [← roundAt_zero (gridExponent value)]
  exact roundAt_mono _ hvalue

/-- Rounding keeps the order of values on one side of zero. -/
theorem roundedValue_mono_of_ne {left right : ℚ} (hle : left ≤ right) (hside : 0 < left ∨ right < 0) :
    roundedValue left ≤ roundedValue right := by
  rcases lt_trichotomy (gridExponent left) (gridExponent right) with hgrid | hgrid | hgrid
  · rcases hside with hleft | hright
    · obtain ⟨hsmall, hlarge⟩ := power_between (hleft.trans_le hle).ne' hgrid
      rw [abs_of_pos hleft] at hsmall
      rw [abs_of_pos (hleft.trans_le hle)] at hlarge
      have hpower := fun exponent hexponent =>
        @roundAt_power exponent (gridExponent right + 52) hexponent 1
      simp only [Int.cast_one, one_mul] at hpower
      exact roundAt_le_roundAt hsmall hlarge (hpower _ (by omega)) (hpower _ (by omega))
    · -- The coarser grid is the one of the greater magnitude.
      obtain ⟨hsmall, hlarge⟩ := power_between hright.ne hgrid
      rw [abs_of_neg (hle.trans_lt hright)] at hsmall
      rw [abs_of_neg hright] at hlarge
      obtain rfl : left = right := by linarith
      exact absurd hgrid (lt_irrefl _)
  · rw [roundedValue, roundedValue, hgrid]
    exact roundAt_mono _ hle
  · rcases hside with hleft | hright
    · obtain ⟨hsmall, hlarge⟩ := power_between hleft.ne' hgrid
      rw [abs_of_pos (hleft.trans_le hle)] at hsmall
      rw [abs_of_pos hleft] at hlarge
      obtain rfl : left = right := by linarith
      exact absurd hgrid (lt_irrefl _)
    · obtain ⟨hsmall, hlarge⟩ := power_between (hle.trans_lt hright).ne hgrid
      rw [abs_of_neg hright] at hsmall
      rw [abs_of_neg (hle.trans_lt hright)] at hlarge
      have hpower := fun exponent hexponent =>
        @roundAt_power exponent (gridExponent left + 52) hexponent (-1)
      simp only [Int.cast_neg, Int.cast_one, neg_mul, one_mul] at hpower
      apply roundAt_le_roundAt _ _ (hpower _ (by omega)) (hpower _ (by omega))
      · linarith
      · linarith

theorem roundedValue_mono {left right : ℚ} (hle : left ≤ right) :
    roundedValue left ≤ roundedValue right := by
  by_cases hleft : left ≤ 0
  · by_cases hright : 0 ≤ right
    · exact (roundedValue_nonpos hleft).trans (roundedValue_nonneg hright)
    · exact roundedValue_mono_of_ne hle (.inr (not_le.mp hright))
  · exact roundedValue_mono_of_ne hle (.inl (not_le.mp hleft))

theorem toDouble_eq (value : ℚ) : toDouble value =
    if |roundedValue value| < 2 ^ 1024 then .finite (roundedValue value)
    else if 0 < value then .infinity else .negInfinity := rfl

/-- Rounding to doubles keeps the order. -/
theorem toDouble_mono {left right : ℚ} (hle : left ≤ right) :
    (toDouble left).le (toDouble right) = true := by
  have hrounded := roundedValue_mono hle
  rw [toDouble_eq, toDouble_eq]
  by_cases hleft : |roundedValue left| < 2 ^ 1024
  · rw [if_pos hleft]
    by_cases hright : |roundedValue right| < 2 ^ 1024
    · rw [if_pos hright]
      exact decide_eq_true hrounded
    · -- Beyond the range, and not below what is in it.
      have hpos : 0 < right := by
        by_contra hneg
        have hnonpos := roundedValue_nonpos (not_lt.mp hneg)
        rw [abs_of_nonpos hnonpos] at hright
        rw [abs_of_nonpos (hrounded.trans hnonpos)] at hleft
        exact hright (lt_of_le_of_lt (neg_le_neg hrounded) hleft)
      rw [if_neg hright, if_pos hpos]
      rfl
  · rw [if_neg hleft]
    by_cases hsign : 0 < left
    · have hright : ¬|roundedValue right| < 2 ^ 1024 := by
        have hnonneg := roundedValue_nonneg hsign.le
        rw [abs_of_nonneg hnonneg] at hleft
        rw [abs_of_nonneg (hnonneg.trans hrounded)]
        exact fun hlt => hleft (lt_of_le_of_lt hrounded hlt)
      rw [if_pos hsign, if_neg hright, if_pos (hsign.trans_le hle)]
      rfl
    · rw [if_neg hsign]
      split_ifs <;> rfl

/-! ## Differences that are exact -/

theorem roundedValue_of_toDouble {value : ℚ} (hdouble : toDouble value = .finite value) :
    roundedValue value = value := by
  rw [toDouble_eq] at hdouble
  split_ifs at hdouble
  exact JsNumber.finite.inj hdouble

theorem gridExponent_mono {left right : ℚ} (hleft : 0 < left) (hle : left ≤ right) :
    gridExponent left ≤ gridExponent right := by
  have hlog : Int.log 2 |left| ≤ Int.log 2 |right| := by
    rw [abs_of_pos hleft, abs_of_pos (hleft.trans_le hle)]
    exact Int.log_mono_right hleft hle
  unfold gridExponent
  omega

theorem gridExponent_le {value : ℚ} {high : Int} (hpos : 0 < value) (hsmall : value < 2 ^ (high + 53))
    (hhigh : -1074 ≤ high) : gridExponent value ≤ high := by
  have hlog : Int.log 2 |value| < high + 53 := by
    rw [abs_of_pos hpos]
    exact (Int.lt_zpow_iff_log_lt (by decide) hpos).mp (by exact_mod_cast hsmall)
  rw [gridExponent]
  omega

/-- A value on its own grid is a double. -/
theorem toDouble_multiple {value : ℚ} {exponent count : Int} (hgrid : gridExponent value ≤ exponent)
    (hvalue : value = count * 2 ^ exponent) (hrange : |value| < 2 ^ 1024) :
    toDouble value = .finite value := by
  have hrounded : roundedValue value = value := by
    rw [roundedValue]
    nth_rewrite 2 [hvalue]
    nth_rewrite 2 [hvalue]
    exact roundAt_power hgrid count
  rw [toDouble_eq, hrounded, if_pos hrange]

/-- What an integer leaves of a double is a double: no finer, and not above it. -/
theorem toDouble_sub_int {value : ℚ} (hdouble : toDouble value = .finite value) {amount : Int}
    (hamount : 0 ≤ amount) (hlt : (amount : ℚ) < value) (hsmall : value - amount < 2 ^ 53) :
    toDouble (value - amount) = .finite (value - amount) := by
  have hpos : 0 < value - amount := sub_pos.mpr hlt
  have hle : value - amount ≤ value := sub_le_self value (by exact_mod_cast hamount)
  have hgrid : gridExponent (value - amount) ≤ min (gridExponent value) 0 :=
    le_min (gridExponent_mono hpos hle) (gridExponent_le hpos (by exact_mod_cast hsmall) (by decide))
  obtain ⟨whole, hwhole⟩ := multiple_of_le (min_le_left (gridExponent value) 0)
    (roundHalfEven (value / 2 ^ gridExponent value))
  obtain ⟨part, hpart⟩ := multiple_of_le (min_le_right (gridExponent value) 0) amount
  have hmultiple : value - amount = (whole - part : Int) * 2 ^ min (gridExponent value) 0 := by
    have hvalue : value = whole * 2 ^ min (gridExponent value) 0 :=
      (roundedValue_of_toDouble hdouble).symm.trans hwhole
    rw [zpow_zero, mul_one] at hpart
    push_cast
    rw [sub_mul, ← hpart, ← hvalue]
  apply toDouble_multiple hgrid hmultiple
  rw [abs_of_pos hpos]
  exact hsmall.trans_le (pow_le_pow_right₀ one_le_two (by decide))

theorem toDouble_half : toDouble (1 / 2) = .finite (1 / 2) := by
  apply @toDouble_multiple _ (-1) 1
  · exact gridExponent_le (by norm_num) (by norm_num) (by decide)
  · norm_num
  · rw [abs_of_pos (by norm_num)]
    exact lt_of_lt_of_le (by norm_num) (one_le_pow₀ one_le_two)

namespace JsNumber

/-- `left + right`, rounded. -/
def plus (left right : JsNumber) : JsNumber :=
  match left.add right with
  | .finite value => toDouble value
  | other => other

/-- `left - right`. -/
def sub (left right : JsNumber) : JsNumber :=
  match left.add right.neg with
  | .finite value => toDouble value
  | other => other

/-- An infinity with the sign of a factor; `NaN` for zero. -/
def infinityOf (sign : ℚ) : JsNumber :=
  if 0 < sign then .infinity else if sign < 0 then .negInfinity else .nan

/-- `left * right`. -/
def mul : JsNumber → JsNumber → JsNumber
  | .finite left, .finite right => toDouble (left * right)
  | .nan, _ | _, .nan => .nan
  | .finite factor, .infinity | .infinity, .finite factor => infinityOf factor
  | .finite factor, .negInfinity | .negInfinity, .finite factor => infinityOf (-factor)
  | .infinity, .infinity | .negInfinity, .negInfinity => .infinity
  | .infinity, .negInfinity | .negInfinity, .infinity => .negInfinity

/-- `left / right`; a zero on the right is taken as positive. -/
def div : JsNumber → JsNumber → JsNumber
  | .finite left, .finite right => if right = 0 then infinityOf left else toDouble (left / right)
  | .nan, _ | _, .nan => .nan
  | .finite _, _ => .finite 0
  | .infinity, .finite right => if right < 0 then .negInfinity else .infinity
  | .negInfinity, .finite right => if right < 0 then .infinity else .negInfinity
  | _, _ => .nan

/-- `left < right`. -/
def lt (left right : JsNumber) : Bool := left.le right && !right.le left

theorem lt_finite (left right : ℚ) :
    (JsNumber.finite left).lt (.finite right) = decide (left < right) := by
  rw [lt, le, le, Bool.eq_iff_iff]
  simp only [Bool.and_eq_true, Bool.not_eq_true', decide_eq_true_eq, decide_eq_false_iff_not]
  constructor
  · exact fun hlt => not_le.mp hlt.2
  · exact fun hlt => ⟨hlt.le, not_le.mpr hlt⟩

theorem lt_of_lt_of_le {left middle right : JsNumber} (hleft : left.lt middle = true)
    (hright : middle.le right = true) : left.lt right = true := by
  rw [lt, Bool.and_eq_true, Bool.not_eq_true'] at hleft ⊢
  refine ⟨le_of_le_of_le hleft.1 hright, ?_⟩
  by_contra hback
  rw [le_of_le_of_le hright (Bool.not_eq_false _ ▸ hback)] at hleft
  cases hleft.2

/-- A later instant less an amount is not before an earlier one less that amount. -/
theorem sub_mono {earlier later : Int} (hle : earlier ≤ later) {amount : JsNumber}
    (hamount : amount ≠ .nan) :
    ((ofInt earlier).sub amount).le ((ofInt later).sub amount) = true := by
  cases amount with
  | nan => exact absurd rfl hamount
  | negInfinity => rfl
  | infinity => rfl
  | finite value =>
      apply toDouble_mono
      have hcast : (earlier : ℚ) ≤ later := by exact_mod_cast hle
      linarith

/-- `Math.min(left, right)`. -/
def minimum (left right : JsNumber) : JsNumber :=
  if left = .nan ∨ right = .nan then .nan else if left.le right then left else right

/-- `Math.max(left, right)`. -/
def maximum (left right : JsNumber) : JsNumber :=
  if left = .nan ∨ right = .nan then .nan else if left.le right then right else left

@[simp]
theorem minimum_finite (left right : ℚ) :
    (JsNumber.finite left).minimum (.finite right) = .finite (min left right) := by
  simp only [minimum, reduceCtorEq, or_self, if_false, le, decide_eq_true_eq, min_def]
  split_ifs <;> rfl

@[simp]
theorem maximum_finite (left right : ℚ) :
    (JsNumber.finite left).maximum (.finite right) = .finite (max left right) := by
  simp only [maximum, reduceCtorEq, or_self, if_false, le, decide_eq_true_eq, max_def]
  split_ifs <;> rfl

/-- What lies between two finite numbers is finite. -/
theorem exists_finite_between {value : JsNumber} {low high : ℚ}
    (hlow : (JsNumber.finite low).le value = true) (hhigh : value.le (.finite high) = true) :
    ∃ between, value = .finite between ∧ low ≤ between ∧ between ≤ high := by
  cases value with
  | nan => cases hlow
  | negInfinity => cases hlow
  | infinity => cases hhigh
  | finite between => exact ⟨between, rfl, of_decide_eq_true hlow, of_decide_eq_true hhigh⟩

/-- `Math.round(value)`. -/
def round : JsNumber → JsNumber
  | .finite value => .finite ⌊value + 1 / 2⌋
  | other => other

end JsNumber

end OdinSentinel.JsText
