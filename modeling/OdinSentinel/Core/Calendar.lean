import Mathlib.Algebra.Order.Group.Int
import Mathlib.Tactic.Common

/-!
# Civil dates

The proleptic Gregorian date of a day number and back, counted from 1970-01-01
in eras of four hundred years whose years begin in March.
-/

namespace OdinSentinel.Calendar

/-- A calendar date. -/
structure Civil where
  year : Int
  month : Int
  day : Int
  deriving DecidableEq

/-- The date `days` days after 1970-01-01. -/
def civilFromDays (days : Int) : Civil :=
  let shifted := days + 719468
  let era := shifted / 146097
  let dayOfEra := shifted % 146097
  let yearOfEra := (dayOfEra - dayOfEra / 1460 + dayOfEra / 36524 - dayOfEra / 146096) / 365
  let dayOfYear := dayOfEra - (365 * yearOfEra + yearOfEra / 4 - yearOfEra / 100)
  let shiftedMonth := (5 * dayOfYear + 2) / 153
  let month := if shiftedMonth < 10 then shiftedMonth + 3 else shiftedMonth - 9
  let year := yearOfEra + era * 400
  { year := if month ≤ 2 then year + 1 else year
    month
    day := dayOfYear - (153 * shiftedMonth + 2) / 5 + 1 }

/-- The day number of a date. -/
def daysFromCivil (date : Civil) : Int :=
  let year := if date.month ≤ 2 then date.year - 1 else date.year
  let era := year / 400
  let yearOfEra := year % 400
  let shiftedMonth := if date.month ≤ 2 then date.month + 9 else date.month - 3
  let dayOfYear := (153 * shiftedMonth + 2) / 5 + date.day - 1
  let dayOfEra := yearOfEra * 365 + yearOfEra / 4 - yearOfEra / 100 + dayOfYear
  era * 146097 + dayOfEra - 719468

/-! ## Back and forth -/

/-- A day of an era by its century, its four years, its year and its day; the last day of
a leap year stands behind the four years that have one. -/
structure EraDay where
  century : Int
  cycle : Int
  year : Int
  day : Int
  hcentury : 0 ≤ century ∧ century ≤ 3
  hcycle : 0 ≤ cycle ∧ cycle ≤ 24
  hyear : 0 ≤ year ∧ year ≤ 3
  hday : 0 ≤ day ∧ day ≤ 365
  hleap : day = 365 → year = 3 ∧ (cycle < 24 ∨ century = 3)

def EraDay.count (day : EraDay) : Int :=
  36524 * day.century + 1461 * day.cycle + 365 * day.year + day.day

theorem exists_eraDay {count : Int} (hlow : 0 ≤ count) (hhigh : count < 146097) :
    ∃ day : EraDay, day.count = count := by
  obtain ⟨century, hcentury⟩ : ∃ century, century = min 3 (count / 36524) := ⟨_, rfl⟩
  obtain ⟨inCentury, hin⟩ : ∃ inCentury, inCentury = count - 36524 * century := ⟨_, rfl⟩
  obtain ⟨cycle, hcycle⟩ : ∃ cycle, cycle = min 24 (inCentury / 1461) := ⟨_, rfl⟩
  obtain ⟨inCycle, hinCycle⟩ : ∃ inCycle, inCycle = inCentury - 1461 * cycle := ⟨_, rfl⟩
  obtain ⟨year, hyear⟩ : ∃ year, year = min 3 (inCycle / 365) := ⟨_, rfl⟩
  have hboundCentury : 0 ≤ inCentury ∧ (inCentury < 36524 ∨ inCentury = 36524 ∧ century = 3) := by
    omega
  have hboundCycle : 0 ≤ inCycle ∧ (inCycle < 1460 ∨ inCycle = 1460 ∧ (cycle < 24 ∨ century = 3)) := by
    omega
  refine ⟨⟨century, cycle, year, inCycle - 365 * year, ?_, ?_, ?_, ?_, ?_⟩, ?_⟩
  · omega
  · omega
  · omega
  · omega
  · omega
  · simp only [EraDay.count]
    omega

/-- The corrections of the year's quotient: leap days passed, centuries without one, and the
last day of the era. -/
theorem EraDay.corrections (day : EraDay) :
    day.count - day.count / 1460 + day.count / 36524 - day.count / 146096 =
      365 * (100 * day.century + 4 * day.cycle + day.year) + min day.day 364 -
        if day.day < 365 ∧ 1460 ≤ 24 * day.century + day.cycle + 365 * day.year + day.day then 1
        else 0 := by
  obtain ⟨century, cycle, year, day, hcentury, hcycle, hyear, hday, hleap⟩ := day
  simp only [EraDay.count]
  have hcycles : (36524 * century + 1461 * cycle + 365 * year + day) / 1460 =
      25 * century + cycle + (24 * century + cycle + 365 * year + day) / 1460 := by omega
  have hcenturies : (36524 * century + 1461 * cycle + 365 * year + day) / 36524 =
      century + (1461 * cycle + 365 * year + day) / 36524 := by omega
  rw [hcycles, hcenturies]
  rcases hday.2.lt_or_eq with hless | rfl
  · have hcentury' : (1461 * cycle + 365 * year + day) / 36524 = 0 := by omega
    have hera : (36524 * century + 1461 * cycle + 365 * year + day) / 146096 = 0 := by omega
    have hcycle' : (24 * century + cycle + 365 * year + day) / 1460 =
        if 1460 ≤ 24 * century + cycle + 365 * year + day then 1 else 0 := by
      split_ifs <;> omega
    rw [hcentury', hera, hcycle']
    split_ifs <;> omega
  · obtain ⟨rfl, hwhen⟩ := hleap rfl
    have hcycle' : (24 * century + cycle + 365 * 3 + 365) / 1460 = 1 := by omega
    have hlast : (1461 * cycle + 365 * 3 + 365) / 36524 =
        (36524 * century + 1461 * cycle + 365 * 3 + 365) / 146096 := by
      rcases hwhen with hless | rfl
      · omega
      · rcases hcycle.2.lt_or_eq with hless | rfl
        · have hcentury' : (1461 * cycle + 365 * 3 + 365) / 36524 = 0 := by omega
          have hera : (36524 * 3 + 1461 * cycle + 365 * 3 + 365) / 146096 = 0 := by omega
          rw [hcentury', hera]
        · rfl
    rw [hcycle', hlast]
    split_ifs <;> omega

theorem EraDay.yearOfEra (day : EraDay) :
    (day.count - day.count / 1460 + day.count / 36524 - day.count / 146096) / 365 =
      100 * day.century + 4 * day.cycle + day.year := by
  rw [day.corrections]
  obtain ⟨century, cycle, year, day, hcentury, hcycle, hyear, hday, hleap⟩ := day
  dsimp only
  split_ifs <;> omega

theorem EraDay.dayOfYear (day : EraDay) :
    let year := 100 * day.century + 4 * day.cycle + day.year
    day.count - (365 * year + year / 4 - year / 100) = day.day := by
  obtain ⟨century, cycle, year, day, hcentury, hcycle, hyear, hday, hleap⟩ := day
  simp only [EraDay.count]
  have hfours : (100 * century + 4 * cycle + year) / 4 = 25 * century + cycle := by omega
  have hcenturies : (100 * century + 4 * cycle + year) / 100 = century := by omega
  rw [hfours, hcenturies]
  omega

/-- The date of a day of a year that begins in March. -/
def dateIn (era yearOfEra dayOfYear : Int) : Civil :=
  let shiftedMonth := (5 * dayOfYear + 2) / 153
  let month := if shiftedMonth < 10 then shiftedMonth + 3 else shiftedMonth - 9
  let year := yearOfEra + era * 400
  { year := if month ≤ 2 then year + 1 else year
    month
    day := dayOfYear - (153 * shiftedMonth + 2) / 5 + 1 }

theorem daysFromCivil_dateIn (era : Int) {yearOfEra dayOfYear : Int}
    (hyear : 0 ≤ yearOfEra ∧ yearOfEra < 400) (hday : 0 ≤ dayOfYear ∧ dayOfYear ≤ 365) :
    daysFromCivil (dateIn era yearOfEra dayOfYear) =
      era * 146097 + (yearOfEra * 365 + yearOfEra / 4 - yearOfEra / 100 + dayOfYear) - 719468 := by
  have hmonth : 0 ≤ (5 * dayOfYear + 2) / 153 ∧ (5 * dayOfYear + 2) / 153 ≤ 11 := by omega
  have hquotient : (yearOfEra + era * 400) / 400 = era := by omega
  have hremainder : (yearOfEra + era * 400) % 400 = yearOfEra := by omega
  by_cases hearly : (5 * dayOfYear + 2) / 153 < 10
  · have hlate : ¬(5 * dayOfYear + 2) / 153 + 3 ≤ 2 := by omega
    simp only [dateIn, daysFromCivil, if_pos hearly, if_neg hlate, hquotient, hremainder,
      add_sub_cancel_right]
    omega
  · have hlate : (5 * dayOfYear + 2) / 153 - 9 ≤ 2 := by omega
    simp only [dateIn, daysFromCivil, if_neg hearly, if_pos hlate, hquotient, hremainder,
      add_sub_cancel_right, sub_add_cancel]
    omega

/-- A day number is that of a day of its era. -/
theorem civilFromDays_eq (days : Int) :
    ∃ day : EraDay, day.count = (days + 719468) % 146097 ∧
      civilFromDays days = dateIn ((days + 719468) / 146097)
        (100 * day.century + 4 * day.cycle + day.year) day.day := by
  obtain ⟨day, hcount⟩ := @exists_eraDay ((days + 719468) % 146097) (by omega) (by omega)
  have hyear := day.yearOfEra
  have hday := day.dayOfYear
  simp only [hcount] at hyear hday
  refine ⟨day, hcount, ?_⟩
  simp only [civilFromDays, dateIn, hyear, hday]

/-- A day number is that of its date. -/
theorem daysFromCivil_civilFromDays (days : Int) : daysFromCivil (civilFromDays days) = days := by
  obtain ⟨day, hcount, hdate⟩ := civilFromDays_eq days
  have hday := day.dayOfYear
  have hcentury := day.hcentury
  have hcycle := day.hcycle
  have hyear := day.hyear
  rw [hdate, daysFromCivil_dateIn _ (by omega) day.hday]
  omega

/-- Months and days have at most two digits. -/
theorem civilFromDays_bounds (days : Int) :
    (1 ≤ (civilFromDays days).month ∧ (civilFromDays days).month ≤ 12) ∧
      1 ≤ (civilFromDays days).day ∧ (civilFromDays days).day ≤ 31 := by
  obtain ⟨day, -, hdate⟩ := civilFromDays_eq days
  have hday := day.hday
  rw [hdate, dateIn]
  dsimp only
  split_ifs <;> omega

/-- A hundred million days are fewer than three hundred thousand years. -/
theorem civilFromDays_year {days : Int} (hdays : days.natAbs ≤ 100000000) :
    (civilFromDays days).year.natAbs < 1000000 := by
  obtain ⟨day, -, hdate⟩ := civilFromDays_eq days
  have hcentury := day.hcentury
  have hcycle := day.hcycle
  have hyear := day.hyear
  rw [hdate, dateIn]
  dsimp only
  split_ifs <;> omega

end OdinSentinel.Calendar
