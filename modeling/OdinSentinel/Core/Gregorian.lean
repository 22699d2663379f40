import OdinSentinel.Core.Calendar

/-!
# The Gregorian calendar

Valid dates and the day behind each of them.  Day numbers count them: the date of a day
number is the one that so many days of the calendar lead to.
-/

namespace OdinSentinel.Calendar

/-- Every fourth year but the centuries that four hundred does not divide. -/
def IsLeap (year : Int) : Prop := year % 4 = 0 ∧ (year % 100 ≠ 0 ∨ year % 400 = 0)

instance (year : Int) : Decidable (IsLeap year) := inferInstanceAs (Decidable (_ ∧ _))

def daysInMonth (year month : Int) : Int :=
  if month = 2 then if IsLeap year then 29 else 28
  else if month = 4 ∨ month = 6 ∨ month = 9 ∨ month = 11 then 30
  else 31

structure Civil.Valid (date : Civil) : Prop where
  month : 1 ≤ date.month ∧ date.month ≤ 12
  day : 1 ≤ date.day ∧ date.day ≤ daysInMonth date.year date.month

/-- The day behind a date. -/
def Civil.next (date : Civil) : Civil :=
  if date.day < daysInMonth date.year date.month then { date with day := date.day + 1 }
  else if date.month < 12 then { date with month := date.month + 1, day := 1 }
  else { year := date.year + 1, month := 1, day := 1 }

/-- 1970-01-01. -/
def epoch : Civil := { year := 1970, month := 1, day := 1 }

/-- The date so many days behind the epoch, one day after the other. -/
def dateAfter : Nat → Civil
  | 0 => epoch
  | count + 1 => (dateAfter count).next

/-! ## Years that begin in March -/

/-- The days in front of a year that begins in March. -/
def daysBefore (year : Int) : Int := 365 * year + year / 4 - year / 100 + year / 400

theorem daysBefore_succ (year : Int) :
    daysBefore (year + 1) = daysBefore year + if IsLeap (year + 1) then 366 else 365 := by
  simp only [daysBefore, IsLeap]
  split_ifs <;> omega

theorem daysBefore_mono {first second : Int} (hle : first ≤ second) :
    daysBefore first ≤ daysBefore second := by
  simp only [daysBefore]
  omega

/-- A day is in one year only. -/
theorem year_unique {first second before after : Int}
    (hbefore : 0 ≤ before ∧ daysBefore first + before < daysBefore (first + 1))
    (hafter : 0 ≤ after ∧ daysBefore second + after < daysBefore (second + 1))
    (hsame : daysBefore first + before = daysBefore second + after) :
    first = second ∧ before = after := by
  have hyear : first = second := by
    rcases lt_trichotomy first second with hlt | heq | hgt
    · have hle := @daysBefore_mono (first + 1) second (by omega)
      omega
    · exact heq
    · have hle := @daysBefore_mono (second + 1) first (by omega)
      omega
  subst hyear
  omega

namespace Civil

/-- The year, begun in March, that a date is in. -/
def marchYear (date : Civil) : Int := if date.month ≤ 2 then date.year - 1 else date.year

/-- The months since March. -/
def shiftedMonth (date : Civil) : Int :=
  if date.month ≤ 2 then date.month + 9 else date.month - 3

def dayOfYear (date : Civil) : Int := (153 * date.shiftedMonth + 2) / 5 + date.day - 1

theorem daysFromCivil_eq (date : Civil) :
    daysFromCivil date = daysBefore date.marchYear + date.dayOfYear - 719468 := by
  have hyear : ∀ year : Int, year / 400 * 146097 +
      (year % 400 * 365 + year % 400 / 4 - year % 400 / 100) = daysBefore year := by
    intro year
    rw [daysBefore]
    omega
  have hdays := hyear date.marchYear
  simp only [marchYear, dayOfYear, shiftedMonth, daysFromCivil] at hdays ⊢
  omega

theorem Valid.dayOfYear_bounds {date : Civil} (hdate : date.Valid) :
    0 ≤ date.dayOfYear ∧
      daysBefore date.marchYear + date.dayOfYear < daysBefore (date.marchYear + 1) := by
  obtain ⟨year, month, day⟩ := date
  obtain ⟨⟨hlow, hhigh⟩, hday, hlast⟩ := hdate
  rw [daysBefore_succ]
  simp only [daysInMonth] at hlow hhigh hday hlast
  by_cases hearly : month ≤ 2
  · simp only [dayOfYear, shiftedMonth, marchYear, if_pos hearly, sub_add_cancel]
    split_ifs at hlast ⊢ <;> omega
  · simp only [dayOfYear, shiftedMonth, marchYear, if_neg hearly]
    split_ifs at hlast ⊢ <;> omega

/-- The month of a date from its day of the year. -/
theorem Valid.shiftedMonth_eq {date : Civil} (hdate : date.Valid) :
    (5 * date.dayOfYear + 2) / 153 = date.shiftedMonth := by
  obtain ⟨year, month, day⟩ := date
  obtain ⟨⟨hlow, hhigh⟩, hday, hlast⟩ := hdate
  simp only [daysInMonth] at hlow hhigh hday hlast
  simp only [dayOfYear, shiftedMonth]
  -- July and August have 31 days both, where the lengths of the months change their turn.
  rcases le_or_gt month 7 with hfirst | hsecond
  · split_ifs at hlast ⊢ <;> omega
  · split_ifs at hlast ⊢ <;> omega

end Civil

/-- Two valid dates with the same day number are the same. -/
theorem daysFromCivil_injOn {first second : Civil} (hfirst : first.Valid) (hsecond : second.Valid)
    (hsame : daysFromCivil first = daysFromCivil second) : first = second := by
  rw [first.daysFromCivil_eq, second.daysFromCivil_eq] at hsame
  obtain ⟨hyear, hday⟩ := year_unique hfirst.dayOfYear_bounds hsecond.dayOfYear_bounds (by omega)
  have hmonth : first.shiftedMonth = second.shiftedMonth := by
    rw [← hfirst.shiftedMonth_eq, ← hsecond.shiftedMonth_eq, hday]
  have hfirstMonth := hfirst.month
  have hsecondMonth := hsecond.month
  have hmonths : first.month = second.month := by
    simp only [Civil.shiftedMonth] at hmonth
    split_ifs at hmonth <;> omega
  simp only [Civil.marchYear, Civil.dayOfYear, Civil.shiftedMonth, hmonths] at hyear hday
  have hyears : first.year = second.year := by
    split_ifs at hyear <;> omega
  have hdays : first.day = second.day := by omega
  cases first
  cases second
  simp_all

/-! ## Dates of day numbers -/

/-- The last day of a leap year, begun in March, is the one that the others lack. -/
theorem valid_dateIn {era yearOfEra dayOfYear : Int} (hday : 0 ≤ dayOfYear ∧ dayOfYear ≤ 365)
    (hleap : dayOfYear = 365 → IsLeap (yearOfEra + era * 400 + 1)) :
    (dateIn era yearOfEra dayOfYear).Valid := by
  obtain ⟨shifted, hshifted⟩ : ∃ shifted, shifted = (5 * dayOfYear + 2) / 153 := ⟨_, rfl⟩
  have hbounds : 0 ≤ shifted ∧ shifted ≤ 11 := by omega
  rw [dateIn, ← hshifted]
  by_cases hfebruary : shifted = 11
  · subst hfebruary
    refine ⟨(show (1 : Int) ≤ 2 ∧ (2 : Int) ≤ 12 by decide), ?_, ?_⟩
    · dsimp only
      omega
    · change dayOfYear - 337 + 1 ≤ if IsLeap (yearOfEra + era * 400 + 1) then 29 else 28
      split_ifs with hlast
      · omega
      · have hne : dayOfYear ≠ 365 := fun hlong => hlast (hleap hlong)
        omega
  · have hmonth : ¬(if shifted < 10 then shifted + 3 else shifted - 9) = 2 := by
      split_ifs <;> omega
    refine ⟨?_, ?_, ?_⟩
    · dsimp only
      split_ifs <;> omega
    · dsimp only
      omega
    · simp only [daysInMonth, if_neg hmonth]
      rcases le_or_gt shifted 4 with hfirst | hsecond
      · split_ifs <;> omega
      · split_ifs <;> omega

theorem valid_civilFromDays (days : Int) : (civilFromDays days).Valid := by
  obtain ⟨day, -, hdate⟩ := civilFromDays_eq days
  have hcentury := day.hcentury
  have hcycle := day.hcycle
  have hyear := day.hyear
  rw [hdate]
  apply valid_dateIn day.hday
  intro hlast
  have hleap := day.hleap hlast
  rw [IsLeap]
  omega

theorem Civil.Valid.next {date : Civil} (hdate : date.Valid) : date.next.Valid := by
  obtain ⟨year, month, day⟩ := date
  obtain ⟨⟨hlow, hhigh⟩, hday, hlast⟩ := hdate
  have hpositive : ∀ year month : Int, 1 ≤ daysInMonth year month := by
    intro year month
    rw [daysInMonth]
    split_ifs <;> omega
  dsimp only at hlow hhigh hday hlast
  rw [Civil.next]
  split_ifs with hwithin hmonth
  · exact ⟨⟨hlow, hhigh⟩, by dsimp only; omega, hwithin⟩
  · dsimp only at hmonth
    exact ⟨⟨by dsimp only; omega, hmonth⟩, le_refl 1, hpositive _ _⟩
  · exact ⟨⟨le_refl 1, by dsimp only; omega⟩, le_refl 1, hpositive _ _⟩

theorem daysFromCivil_next {date : Civil} (hdate : date.Valid) :
    daysFromCivil date.next = daysFromCivil date + 1 := by
  obtain ⟨year, month, day⟩ := date
  obtain ⟨⟨hlow, hhigh⟩, hday, hlast⟩ := hdate
  have hfebruary := daysBefore_succ (year - 1)
  rw [sub_add_cancel] at hfebruary
  dsimp only at hlow hhigh hday hlast
  rw [Civil.daysFromCivil_eq, Civil.daysFromCivil_eq, Civil.next]
  dsimp only
  split_ifs with hwithin hmonth
  · simp only [Civil.marchYear, Civil.dayOfYear, Civil.shiftedMonth]
    omega
  · simp only [Civil.marchYear, Civil.dayOfYear, Civil.shiftedMonth, daysInMonth] at *
    rcases le_or_gt month 7 with hfirst | hsecond
    · split_ifs at * <;> omega
    · split_ifs at * <;> omega
  · simp only [Civil.marchYear, Civil.dayOfYear, Civil.shiftedMonth, daysInMonth,
      add_sub_cancel_right] at *
    split_ifs at * <;> omega

/-- The date of a day number is the one that so many days of the calendar lead to. -/
theorem civilFromDays_eq_dateAfter (count : Nat) : civilFromDays count = dateAfter count := by
  have hvalid := valid_civilFromDays
  induction count with
  | zero => decide
  | succ count ih =>
      apply daysFromCivil_injOn (hvalid _)
      · rw [dateAfter, ← ih]
        exact (hvalid count).next
      · rw [dateAfter, ← ih, daysFromCivil_next (hvalid count), daysFromCivil_civilFromDays,
          daysFromCivil_civilFromDays]
        push_cast
        rfl

theorem year_dateAfter (count : Nat) : 1970 ≤ (dateAfter count).year := by
  induction count with
  | zero => decide
  | succ count ih =>
      rw [dateAfter, Civil.next]
      split_ifs
      · exact ih
      · exact ih
      · dsimp only
        omega

theorem year_civilFromDays (count : Nat) : 1970 ≤ (civilFromDays count).year := by
  rw [civilFromDays_eq_dateAfter]
  exact year_dateAfter count

end OdinSentinel.Calendar
