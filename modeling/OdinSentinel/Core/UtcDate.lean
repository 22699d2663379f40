import OdinSentinel.Core.Gregorian
import OdinSentinel.Core.JsonParse

/-!
# Dates in UTC

`Date.UTC` of a day, with its reading of two-digit years, the day of an instant and dates
of the form `YYYY-MM-DD`.
-/

namespace OdinSentinel.Calendar

open JsText

def msPerDay : Int := 86400000

/-- The year that `Date.UTC` takes a number for: 0 to 99 are years of the twentieth century. -/
def fullYear (year : Int) : Int := if 0 ≤ year ∧ year ≤ 99 then 1900 + year else year

/-- `Date.UTC(year, month - 1, day)`; months and days beyond their year and month run on. -/
def dateUtc (date : Civil) : Int :=
  (daysFromCivil
      { year := fullYear date.year + (date.month - 1) / 12
        month := (date.month - 1) % 12 + 1
        day := 1 } + date.day - 1) * msPerDay

/-- The date in UTC of an instant. -/
def utcDate (ms : Int) : Civil := civilFromDays (ms / msPerDay)

/-- `Date.UTC(date.getUTCFullYear(), date.getUTCMonth(), date.getUTCDate())`. -/
def utcMidnight (ms : Int) : Int := dateUtc (utcDate ms)

theorem utcDate_mul (days : Int) : utcDate (days * msPerDay) = civilFromDays days := by
  rw [utcDate, Int.mul_ediv_cancel days (by decide)]

theorem civilFromDays_daysFromCivil {date : Civil} (hdate : date.Valid) :
    civilFromDays (daysFromCivil date) = date := by
  apply daysFromCivil_injOn (valid_civilFromDays _) hdate
  rw [daysFromCivil_civilFromDays]

theorem dateUtc_eq {date : Civil} (hdate : date.Valid) (hyear : ¬(0 ≤ date.year ∧ date.year ≤ 99)) :
    dateUtc date = daysFromCivil date * msPerDay := by
  obtain ⟨hlow, hhigh⟩ := hdate.month
  have hmonth : (date.month - 1) / 12 = 0 ∧ (date.month - 1) % 12 + 1 = date.month := by omega
  rw [dateUtc, fullYear, if_neg hyear, hmonth.1, hmonth.2, add_zero]
  rw [Civil.daysFromCivil_eq, Civil.daysFromCivil_eq]
  simp only [Civil.marchYear, Civil.dayOfYear, Civil.shiftedMonth]
  congr 1
  omega

/-- The midnight before an instant, where its year has more than two digits. -/
theorem utcMidnight_eq {ms : Int} (hyear : ¬(0 ≤ (utcDate ms).year ∧ (utcDate ms).year ≤ 99)) :
    utcMidnight ms = ms / msPerDay * msPerDay := by
  have hvalid : (utcDate ms).Valid := valid_civilFromDays _
  rw [utcMidnight, dateUtc_eq hvalid hyear, utcDate, daysFromCivil_civilFromDays]

/-- A date lies behind the first of January of its year and before that of the next one. -/
theorem Civil.Valid.year_bounds {date : Civil} (hdate : date.Valid) :
    daysBefore (date.year - 1) + 306 ≤ daysFromCivil date + 719468 ∧
      daysFromCivil date + 719468 < daysBefore date.year + 306 := by
  have hbounds := hdate.dayOfYear_bounds
  obtain ⟨hlow, hhigh⟩ := hdate.month
  obtain ⟨hfirst, hlast⟩ := hdate.day
  have hyear := daysBefore_mono (show date.year - 1 ≤ date.year by omega)
  have hnext := daysBefore_succ (date.year - 1)
  have hlength : daysInMonth date.year date.month ≤ 31 := by
    rw [daysInMonth]
    split_ifs <;> omega
  rw [sub_add_cancel] at hnext
  rw [Civil.daysFromCivil_eq]
  simp only [Civil.marchYear, Civil.dayOfYear, Civil.shiftedMonth] at hbounds ⊢
  by_cases hearly : date.month ≤ 2
  · simp only [if_pos hearly, sub_add_cancel] at hbounds ⊢
    omega
  · simp only [if_neg hearly] at hbounds ⊢
    split_ifs at hnext <;> omega

theorem daysFromCivil_lt_of_year_lt {first second : Civil} (hfirst : first.Valid)
    (hsecond : second.Valid) (hyear : first.year < second.year) :
    daysFromCivil first < daysFromCivil second := by
  have hmono := daysBefore_mono (show first.year ≤ second.year - 1 by omega)
  have hbefore := hfirst.year_bounds.2
  have hafter := hsecond.year_bounds.1
  omega

/-- The days that `Date.UTC` makes of two-digit years are in no year of two digits. -/
theorem year_dateUtc {date : Civil} (hyear : 0 ≤ date.year ∧ date.year ≤ 99)
    (hmonth : 0 ≤ date.month) (hday : 0 ≤ date.day) : 99 < (utcDate (dateUtc date)).year := by
  rw [dateUtc, utcDate_mul]
  obtain ⟨first, hfirst⟩ : ∃ first : Civil, first =
    { year := fullYear date.year + (date.month - 1) / 12
      month := (date.month - 1) % 12 + 1
      day := 1 } := ⟨_, rfl⟩
  have hvalid : first.Valid := by
    have hlength : 1 ≤ daysInMonth first.year first.month := by
      rw [daysInMonth]
      split_ifs <;> omega
    rw [hfirst] at hlength ⊢
    exact ⟨⟨by dsimp only; omega, by dsimp only; omega⟩, le_refl 1, hlength⟩
  have hyears : 1899 ≤ first.year := by
    rw [hfirst]
    simp only [fullYear, if_pos hyear]
    omega
  rw [← hfirst]
  have hfound := valid_civilFromDays (daysFromCivil first + date.day - 1)
  have hback := daysFromCivil_civilFromDays (daysFromCivil first + date.day - 1)
  generalize civilFromDays (daysFromCivil first + date.day - 1) = found at hfound hback ⊢
  by_contra hold
  have hlate := daysBefore_mono (show 1898 ≤ first.year - 1 by omega)
  have hearly := daysBefore_mono (show found.year ≤ 99 by omega)
  have hfar : daysBefore 99 + 1 < daysBefore 1898 := by decide
  have hafter := hvalid.year_bounds.1
  have hbefore := hfound.year_bounds.2
  omega

/-! ## Dates as text -/

/-- `/^(\d{4})-(\d{2})-(\d{2})$/`, its groups as numbers. -/
def isoDate (text : JsString) : Option Civil :=
  let year := text.take 4
  let month := (text.drop 5).take 2
  let day := text.drop 8
  if text.length = 10 ∧ (year ++ month ++ day).all isDigit = true ∧
      text[4]? = some 45 ∧ text[7]? = some 45 then
    some
      { year := Json.decimal year
        month := Json.decimal month
        day := Json.decimal day }
  else none

theorem isoDate_nonneg {text : JsString} {date : Civil} (hdate : isoDate text = some date) :
    0 ≤ date.year ∧ 0 ≤ date.month ∧ 0 ≤ date.day := by
  rw [isoDate] at hdate
  split_ifs at hdate
  obtain rfl := Option.some.inj hdate
  exact ⟨Int.natCast_nonneg _, Int.natCast_nonneg _, Int.natCast_nonneg _⟩

/-- A date that `Date.UTC` takes for itself is one of the calendar, in no year of two digits. -/
theorem utcDate_dateUtc_iff {text : JsString} {date : Civil} (hdate : isoDate text = some date) :
    utcDate (dateUtc date) = date ↔ date.Valid ∧ 99 < date.year := by
  obtain ⟨hyear, hmonth, hday⟩ := isoDate_nonneg hdate
  constructor
  · intro hsame
    have hvalid : date.Valid := by
      rw [← hsame]
      exact valid_civilFromDays _
    refine ⟨hvalid, ?_⟩
    by_contra hold
    have hlate := year_dateUtc ⟨hyear, by omega⟩ hmonth hday
    rw [hsame] at hlate
    exact hold hlate
  · rintro ⟨hvalid, hlate⟩
    rw [dateUtc_eq hvalid (by omega), utcDate_mul, civilFromDays_daysFromCivil hvalid]

end OdinSentinel.Calendar
