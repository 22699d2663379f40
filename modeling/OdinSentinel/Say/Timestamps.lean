import Mathlib.Algebra.Group.Nat.Defs
import OdinSentinel.Core.Gregorian
import OdinSentinel.Say.Screen

/-!
# The sender's timestamps

`format_utc` step by step in 64-bit arithmetic.  No step leaves the range, and the text is
that of the Gregorian date and time of day.
-/

namespace OdinSentinel.Say

open RustText Calendar

/-! ## Signed 64-bit steps -/

namespace I64

/-- The result of a step, if it is in range. -/
def fit (exact : Int) : Option Int :=
  if -2 ^ 63 ≤ exact ∧ exact < 2 ^ 63 then some exact else none

theorem fit_eq {exact : Int} (hlow : -2 ^ 63 ≤ exact) (hhigh : exact < 2 ^ 63) :
    fit exact = some exact := by
  rw [fit, if_pos ⟨hlow, hhigh⟩]

def add (left right : Int) : Option Int := fit (left + right)

def sub (left right : Int) : Option Int := fit (left - right)

def mul (left right : Int) : Option Int := fit (left * right)

/-- Rust's `/` rounds towards zero. -/
def div (left right : Int) : Option Int := if right = 0 then none else fit (left.tdiv right)

def divEuclid (left right : Int) : Option Int :=
  if right = 0 then none else fit (left / right)

/-- The remainder of the least value by -1 overflows, as its quotient does. -/
def remEuclid (left right : Int) : Option Int :=
  if right = 0 then none else (fit (left / right)).map fun _ => left % right

/-- `as i64`: the same bits. -/
def ofU64 (value : UInt64) : Int := value.toBitVec.toInt

variable {left right : Int}

theorem div_eq (hleft : 0 ≤ left) (hright : 0 < right) (hhigh : left < 2 ^ 63) :
    div left right = some (left / right) := by
  have hquotient := Int.ediv_nonneg hleft hright.le
  have hle := Int.ediv_le_self right hleft
  rw [div, if_neg hright.ne', Int.tdiv_eq_ediv_of_nonneg hleft]
  exact fit_eq (by omega) (by omega)

theorem divEuclid_eq (hleft : 0 ≤ left) (hright : 0 < right) (hhigh : left < 2 ^ 63) :
    divEuclid left right = some (left / right) := by
  have hquotient := Int.ediv_nonneg hleft hright.le
  have hle := Int.ediv_le_self right hleft
  rw [divEuclid, if_neg hright.ne']
  exact fit_eq (by omega) (by omega)

theorem remEuclid_eq (hleft : 0 ≤ left) (hright : 0 < right) (hhigh : left < 2 ^ 63) :
    remEuclid left right = some (left % right) := by
  have hquotient := Int.ediv_nonneg hleft hright.le
  have hle := Int.ediv_le_self right hleft
  rw [remEuclid, if_neg hright.ne', fit_eq (by omega) (by omega)]
  rfl

theorem ofU64_eq {value : UInt64} (hsmall : value.toNat < 2 ^ 63) :
    ofU64 value = value.toNat := by
  have hbits : 2 * value.toBitVec.toNat < 2 ^ 64 := by
    change 2 * value.toNat < 2 ^ 64
    omega
  rw [ofU64, BitVec.toInt_eq_toNat_of_lt hbits]
  rfl

end I64

/-! ## The date and the text -/

/-- `yoe`, the year of its era that a day is in. -/
def utcYearOfEra (doe : Int) : Option Int := do
  let leapless ← I64.sub doe (← I64.div doe 1460)
  let centuries ← I64.add leapless (← I64.div doe 36524)
  let whole ← I64.sub centuries (← I64.div doe 146096)
  I64.div whole 365

/-- The date of the day `doy` of the year `y` that begins in March. -/
def utcDateOfYear (y doy : Int) : Option Civil := do
  let mp ← I64.div (← I64.add (← I64.mul 5 doy) 2) 153
  let before ← I64.div (← I64.add (← I64.mul 153 mp) 2) 5
  let day ← I64.add (← I64.sub doy before) 1
  let month ← if mp < 10 then I64.add mp 3 else I64.sub mp 9
  let year ← if month ≤ 2 then I64.add y 1 else some y
  some { year, month, day }

/-- The date of `format_utc`, each step in the range of an `i64` or nothing. -/
def utcDate (days : Int) : Option Civil := do
  let z ← I64.add days 719468
  let era ← I64.divEuclid z 146097
  let doe ← I64.remEuclid z 146097
  let yoe ← utcYearOfEra doe
  let y ← I64.add yoe (← I64.mul era 400)
  let leaps ← I64.add (← I64.mul 365 yoe) (← I64.div yoe 4)
  let doy ← I64.sub doe (← I64.sub leaps (← I64.div yoe 100))
  utcDateOfYear y doy

/-- A step whose result is known. -/
theorem bind_known {α β : Type} {first : Option α} {value : α} (hfirst : first = some value)
    (next : α → Option β) : (first >>= next) = next value := by
  rw [hfirst]
  rfl

theorem utcYearOfEra_eq (day : EraDay) :
    utcYearOfEra day.count = some (100 * day.century + 4 * day.cycle + day.year) := by
  have hyear := day.yearOfEra
  obtain ⟨doe, hdoe⟩ : ∃ doe, doe = day.count := ⟨_, rfl⟩
  have hbounds : 0 ≤ doe ∧ doe < 146097 := by
    obtain ⟨century, cycle, year, day, hcentury, hcycle, hyear, hday, hleap⟩ := day
    simp only [EraDay.count] at hdoe
    omega
  rw [← hdoe] at hyear ⊢
  have hfourth : I64.div doe 1460 = some (doe / 1460) :=
    I64.div_eq hbounds.1 (by decide) (by omega)
  have hleapless : I64.sub doe (doe / 1460) = some (doe - doe / 1460) :=
    I64.fit_eq (by omega) (by omega)
  have hcentury : I64.div doe 36524 = some (doe / 36524) :=
    I64.div_eq hbounds.1 (by decide) (by omega)
  have hcenturies : I64.add (doe - doe / 1460) (doe / 36524) =
      some (doe - doe / 1460 + doe / 36524) := I64.fit_eq (by omega) (by omega)
  have hera : I64.div doe 146096 = some (doe / 146096) :=
    I64.div_eq hbounds.1 (by decide) (by omega)
  have hwhole : I64.sub (doe - doe / 1460 + doe / 36524) (doe / 146096) =
      some (doe - doe / 1460 + doe / 36524 - doe / 146096) := I64.fit_eq (by omega) (by omega)
  rw [utcYearOfEra, bind_known hfourth, bind_known hleapless, bind_known hcentury,
    bind_known hcenturies, bind_known hera, bind_known hwhole, I64.div_eq (by omega) (by decide)
      (by omega), hyear]

theorem utcDateOfYear_eq {era yearOfEra doy : Int} (hdoy : 0 ≤ doy ∧ doy ≤ 365)
    (hyear : 0 ≤ yearOfEra + era * 400 ∧ yearOfEra + era * 400 < 2 ^ 62) :
    utcDateOfYear (yearOfEra + era * 400) doy = some (dateIn era yearOfEra doy) := by
  rw [dateIn]
  generalize yearOfEra + era * 400 = y at hyear
  obtain ⟨mp, hmp⟩ : ∃ mp, mp = (5 * doy + 2) / 153 := ⟨_, rfl⟩
  have hmonth : 0 ≤ mp ∧ mp ≤ 11 := by omega
  have hscaled : I64.mul 5 doy = some (5 * doy) := I64.fit_eq (by omega) (by omega)
  have hshifted : I64.add (5 * doy) 2 = some (5 * doy + 2) := I64.fit_eq (by omega) (by omega)
  have hquotient : I64.div (5 * doy + 2) 153 = some mp := by
    rw [hmp]
    exact I64.div_eq (by omega) (by decide) (by omega)
  have hdays : I64.mul 153 mp = some (153 * mp) := I64.fit_eq (by omega) (by omega)
  have hrounded : I64.add (153 * mp) 2 = some (153 * mp + 2) := I64.fit_eq (by omega) (by omega)
  have hbefore : I64.div (153 * mp + 2) 5 = some ((153 * mp + 2) / 5) :=
    I64.div_eq (by omega) (by decide) (by omega)
  have hrest : I64.sub doy ((153 * mp + 2) / 5) = some (doy - (153 * mp + 2) / 5) :=
    I64.fit_eq (by omega) (by omega)
  have hday : I64.add (doy - (153 * mp + 2) / 5) 1 = some (doy - (153 * mp + 2) / 5 + 1) :=
    I64.fit_eq (by omega) (by omega)
  rw [utcDateOfYear, bind_known hscaled, bind_known hshifted, bind_known hquotient,
    bind_known hdays, bind_known hrounded, bind_known hbefore, bind_known hrest, bind_known hday,
    ← hmp]
  by_cases hlate : mp < 10
  · have hmarch : ¬mp + 3 ≤ 2 := by omega
    have hmonthOf : I64.add mp 3 = some (mp + 3) := I64.fit_eq (by omega) (by omega)
    simp only [if_pos hlate, bind_known hmonthOf, if_neg hmarch]
    rfl
  · have hjanuary : mp - 9 ≤ 2 := by omega
    have hmonthOf : I64.sub mp 9 = some (mp - 9) := I64.fit_eq (by omega) (by omega)
    have hnext : I64.add y 1 = some (y + 1) := I64.fit_eq (by omega) (by omega)
    simp only [if_neg hlate, bind_known hmonthOf, if_pos hjanuary, bind_known hnext]

/-- The steps up to the day of the year, where the year of the era is known. -/
theorem utcDate_of_yearOfEra {days yearOfEra : Int} (hlow : 0 ≤ days) (hhigh : days < 2 ^ 60)
    (hbounds : 0 ≤ yearOfEra ∧ yearOfEra < 400)
    (hyear : utcYearOfEra ((days + 719468) % 146097) = some yearOfEra) :
    utcDate days =
      utcDateOfYear (yearOfEra + (days + 719468) / 146097 * 400)
        ((days + 719468) % 146097 - (365 * yearOfEra + yearOfEra / 4 - yearOfEra / 100)) := by
  have hz : I64.add days 719468 = some (days + 719468) := I64.fit_eq (by omega) (by omega)
  have hera : I64.divEuclid (days + 719468) 146097 = some ((days + 719468) / 146097) :=
    I64.divEuclid_eq (by omega) (by decide) (by omega)
  have hdoe : I64.remEuclid (days + 719468) 146097 = some ((days + 719468) % 146097) :=
    I64.remEuclid_eq (by omega) (by decide) (by omega)
  have heraBounds : 0 ≤ (days + 719468) / 146097 ∧ (days + 719468) / 146097 < 2 ^ 44 := by omega
  have hdoeBounds : 0 ≤ (days + 719468) % 146097 ∧ (days + 719468) % 146097 < 146097 := by omega
  rw [utcDate, bind_known hz, bind_known hera, bind_known hdoe, bind_known hyear]
  generalize (days + 719468) / 146097 = era at heraBounds
  generalize (days + 719468) % 146097 = doe at hdoeBounds
  have hcenturies : I64.mul era 400 = some (era * 400) := I64.fit_eq (by omega) (by omega)
  have hy : I64.add yearOfEra (era * 400) = some (yearOfEra + era * 400) :=
    I64.fit_eq (by omega) (by omega)
  have hwhole : I64.mul 365 yearOfEra = some (365 * yearOfEra) := I64.fit_eq (by omega) (by omega)
  have hfourth : I64.div yearOfEra 4 = some (yearOfEra / 4) :=
    I64.div_eq hbounds.1 (by decide) (by omega)
  have hleaps : I64.add (365 * yearOfEra) (yearOfEra / 4) = some (365 * yearOfEra + yearOfEra / 4) :=
    I64.fit_eq (by omega) (by omega)
  have hhundredth : I64.div yearOfEra 100 = some (yearOfEra / 100) :=
    I64.div_eq hbounds.1 (by decide) (by omega)
  have hgone : I64.sub (365 * yearOfEra + yearOfEra / 4) (yearOfEra / 100) =
      some (365 * yearOfEra + yearOfEra / 4 - yearOfEra / 100) := I64.fit_eq (by omega) (by omega)
  have hdoy : I64.sub doe (365 * yearOfEra + yearOfEra / 4 - yearOfEra / 100) =
      some (doe - (365 * yearOfEra + yearOfEra / 4 - yearOfEra / 100)) :=
    I64.fit_eq (by omega) (by omega)
  rw [bind_known hcenturies, bind_known hy, bind_known hwhole, bind_known hfourth,
    bind_known hleaps, bind_known hhundredth, bind_known hgone, bind_known hdoy]

/-- No step overflows: a `u64` of seconds has far fewer days than that. -/
theorem utcDate_eq {days : Int} (hlow : 0 ≤ days) (hhigh : days < 2 ^ 60) :
    utcDate days = some (civilFromDays days) := by
  obtain ⟨day, hcount, hdate⟩ := civilFromDays_eq days
  have hbounds : 0 ≤ 100 * day.century + 4 * day.cycle + day.year ∧
      100 * day.century + 4 * day.cycle + day.year < 400 := by
    have hcentury := day.hcentury
    have hcycle := day.hcycle
    have hyear := day.hyear
    omega
  have hyear := utcYearOfEra_eq day
  rw [hcount] at hyear
  rw [utcDate_of_yearOfEra hlow hhigh hbounds hyear, ← hcount, day.dayOfYear, hdate]
  apply utcDateOfYear_eq day.hday
  omega

/-- `{value:0width}` of an `i64`, where the sign counts as a digit. -/
def zeroPaddedSigned (width : Nat) : Int → RustString
  | .ofNat value => zeroPadded width value
  | .negSucc value => '-' :: zeroPadded (width - 1) (value + 1)

theorem zeroPaddedSigned_eq {value : Int} (width : Nat) (hvalue : 0 ≤ value) :
    zeroPaddedSigned width value = zeroPadded width value.toNat := by
  obtain ⟨count, rfl⟩ := Int.eq_ofNat_of_zero_le hvalue
  rfl

/-- `format_utc` in the arithmetic of its types: nothing where a step overflows. -/
def formatUtcSteps (unixSeconds : UInt64) : Option RustString :=
  (utcDate (I64.ofU64 (unixSeconds / 86400))).map fun date =>
    let sod := unixSeconds % 86400
    zeroPaddedSigned 4 date.year ++ rs "-" ++ zeroPaddedSigned 2 date.month ++ rs "-" ++
      zeroPaddedSigned 2 date.day ++ rs "T" ++ zeroPadded 2 (sod / 3600).toNat ++ rs ":" ++
      zeroPadded 2 (sod % 3600 / 60).toNat ++ rs ":" ++ zeroPadded 2 (sod % 60).toNat ++ rs "Z"

/-- A Gregorian date and a time of day, written as ISO 8601 has them in UTC. -/
structure UtcTime where
  date : Civil
  hour : Nat
  minute : Nat
  second : Nat
  hdate : date.Valid
  hyear : 0 ≤ date.year
  hhour : hour < 24
  hminute : minute < 60
  hsecond : second < 60

/-- The seconds since the epoch. -/
def UtcTime.seconds (time : UtcTime) : Int :=
  86400 * daysFromCivil time.date + 3600 * time.hour + 60 * time.minute + time.second

def UtcTime.text (time : UtcTime) : RustString :=
  zeroPadded 4 time.date.year.toNat ++ rs "-" ++ zeroPadded 2 time.date.month.toNat ++ rs "-" ++
    zeroPadded 2 time.date.day.toNat ++ rs "T" ++ zeroPadded 2 time.hour ++ rs ":" ++
    zeroPadded 2 time.minute ++ rs ":" ++ zeroPadded 2 time.second ++ rs "Z"

theorem toNat_days (seconds : UInt64) : (seconds / 86400).toNat = seconds.toNat / 86400 := by
  rw [UInt64.toNat_div]
  rfl

theorem toNat_timeOfDay (seconds : UInt64) : (seconds % 86400).toNat = seconds.toNat % 86400 := by
  rw [UInt64.toNat_mod]
  rfl

theorem formatUtcSteps_eq (seconds : UInt64) :
    formatUtcSteps seconds = some (formatUtc seconds) := by
  have hrange := seconds.toNat_lt
  have hdays := toNat_days seconds
  have hyear := year_civilFromDays (seconds / 86400).toNat
  obtain ⟨⟨hmonth, -⟩, hday, -⟩ := civilFromDays_bounds (seconds / 86400).toNat
  rw [formatUtcSteps, I64.ofU64_eq (by omega), utcDate_eq (by omega) (by omega), Option.map_some,
    formatUtc]
  dsimp only
  rw [zeroPaddedSigned_eq _ (by omega), zeroPaddedSigned_eq _ (by omega),
    zeroPaddedSigned_eq _ (by omega), UInt64.toNat_div, UInt64.toNat_div, UInt64.toNat_mod,
    UInt64.toNat_mod]
  rfl

/-- The timestamp of every `u64` of seconds: no step overflows, and its text is that of the
valid date that so many days lead to from 1970-01-01 and of the time of day. -/
theorem formatUtc_gregorian (seconds : UInt64) :
    formatUtcSteps seconds = some (formatUtc seconds) ∧
      ∃ time : UtcTime, formatUtc seconds = time.text ∧ time.seconds = seconds.toNat ∧
        time.date = dateAfter (seconds.toNat / 86400) ∧
          daysFromCivil time.date = (seconds.toNat / 86400 : Nat) := by
  have hdate := civilFromDays_eq_dateAfter (seconds.toNat / 86400)
  have hback := daysFromCivil_civilFromDays (seconds.toNat / 86400 : Nat)
  have hyear := year_civilFromDays (seconds.toNat / 86400)
  refine ⟨formatUtcSteps_eq seconds,
    { date := civilFromDays (seconds.toNat / 86400 : Nat)
      hour := seconds.toNat % 86400 / 3600
      minute := seconds.toNat % 86400 % 3600 / 60
      second := seconds.toNat % 86400 % 60
      hdate := valid_civilFromDays _
      hyear := by omega
      hhour := by omega
      hminute := by omega
      hsecond := by omega }, ?_, ?_, hdate, hback⟩
  · rw [formatUtc, toNat_days, toNat_timeOfDay]
    rfl
  · rw [UtcTime.seconds]
    dsimp only
    omega

end OdinSentinel.Say
