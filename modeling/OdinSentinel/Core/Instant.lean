import OdinSentinel.Core.Host
import OdinSentinel.Core.JsonRoundTrip

/-!
# Instants as text

A host prints the instants that a date can hold, and reads back what it prints.  The
plain host with a reader of every year is such a host.
-/

namespace OdinSentinel.Host

open JsText Json Calendar

/-- What a host promises of the text of an instant. -/
structure LawfulInstants (host : HostRuntime) : Prop where
  printed : ∀ number, host.toISOString number = none ↔ clipTime number = none
  reread : ∀ number text, host.toISOString number = some text →
    host.dateParse text = clipTime number

/-! ## Digits -/

theorem length_natText_le {value width : Nat} (hwidth : 0 < width) (hvalue : value < 10 ^ width) :
    (natText value).length ≤ width := by
  induction width generalizing value with
  | zero => cases hwidth
  | succ width ih =>
      rcases Nat.lt_or_ge value 10 with hsmall | hlarge
      · rw [natText_of_lt hsmall]
        exact hwidth
      · have hwidth' : 0 < width := by
          by_contra hzero
          obtain rfl : width = 0 := by omega
          omega
        have hfront : value / 10 < 10 ^ width := by
          rw [Nat.div_lt_iff_lt_mul (by decide), ← pow_succ]
          exact hvalue
        rw [natText_of_ge hlarge, List.length_append]
        exact Nat.succ_le_succ (ih hwidth' hfront)

theorem length_padded {value width : Nat} (hwidth : 0 < width) (hvalue : value < 10 ^ width) :
    (padded width value).length = width := by
  have hle := length_natText_le hwidth hvalue
  rw [padded, List.length_append, List.length_replicate]
  omega

theorem isDigit_of_mem_padded {width value : Nat} :
    ∀ unit ∈ padded width value, isDigit unit = true := by
  intro unit hmem
  rcases List.mem_append.mp hmem with hmem | hmem
  · rw [(List.mem_replicate.mp hmem).2]
    rfl
  · exact isDigit_of_mem_natText value unit hmem

theorem decimal_replicate (count : Nat) (digits : JsString) :
    decimal (List.replicate count 48 ++ digits) = decimal digits := by
  induction count with
  | zero => rfl
  | succ count ih => exact ih

theorem decimal_padded (width value : Nat) : decimal (padded width value) = value := by
  rw [padded, decimal_replicate, decimal_natText]

/-- A number of a fixed width, and what stands behind it. -/
def readDigits (width : Nat) (text : JsString) : Option (Nat × JsString) :=
  if (text.take width).all isDigit then some (decimal (text.take width), text.drop width) else none

theorem readDigits_padded {value width : Nat} (hwidth : 0 < width) (hvalue : value < 10 ^ width)
    (rest : JsString) : readDigits width (padded width value ++ rest) = some (value, rest) := by
  have hlength := length_padded hwidth hvalue
  have htake : (padded width value ++ rest).take width = padded width value :=
    List.take_left' hlength
  have hdrop : (padded width value ++ rest).drop width = rest := List.drop_left' hlength
  rw [readDigits, htake, hdrop, decimal_padded,
    if_pos (List.all_eq_true.mpr isDigit_of_mem_padded)]

/-! ## Instants -/

/-- The year in front of a text: four digits, or a sign and six digits. -/
def readYear (text : JsString) : Option (Int × JsString) :=
  if text.head? = some 43 then
    (readDigits 6 (text.drop 1)).map fun read => ((read.1 : Int), read.2)
  else if text.head? = some 45 then
    (readDigits 6 (text.drop 1)).map fun read => (-(read.1 : Int), read.2)
  else (readDigits 4 text).map fun read => ((read.1 : Int), read.2)

/-- The instant that a text of the printed form denotes. -/
def readIso (text : JsString) : Option Int := do
  let year ← readYear text
  let month ← readDigits 2 (year.2.drop 1)
  let day ← readDigits 2 (month.2.drop 1)
  let hour ← readDigits 2 (day.2.drop 1)
  let minute ← readDigits 2 (hour.2.drop 1)
  let second ← readDigits 2 (minute.2.drop 1)
  let milli ← readDigits 3 (second.2.drop 1)
  let ms := daysFromCivil { year := year.1, month := month.1, day := day.1 } * 86400000 +
    (hour.1 * 3600000 + minute.1 * 60000 + second.1 * 1000 + milli.1 : Nat)
  if isoText ms = text then some ms else none

/-- The year of a printed instant. -/
def yearText (year : Int) : JsString :=
  if 0 ≤ year ∧ year ≤ 9999 then padded 4 year.toNat
  else (if 0 ≤ year then js "+" else js "-") ++ padded 6 year.natAbs

theorem readYear_yearText {year : Int} (hyear : year.natAbs < 1000000) (rest : JsString) :
    readYear (yearText year ++ rest) = some (year, rest) := by
  have hsix : year.natAbs < 10 ^ 6 := hyear
  rw [yearText]
  by_cases hshort : 0 ≤ year ∧ year ≤ 9999
  · have hfour : year.toNat < 10 ^ 4 := by omega
    rw [if_pos hshort]
    cases hdigits : padded 4 year.toNat with
    | nil =>
        have hlength := length_padded (by decide) hfour
        rw [hdigits] at hlength
        cases hlength
    | cons unit digits =>
        have hdigit : isDigit unit = true :=
          isDigit_of_mem_padded unit (by rw [hdigits]; exact List.mem_cons_self)
        have hplus : ¬unit = 43 := by
          rintro rfl
          cases hdigit
        have hminus : ¬unit = 45 := by
          rintro rfl
          cases hdigit
        rw [readYear, List.cons_append, List.head?_cons, if_neg (by simpa using hplus),
          if_neg (by simpa using hminus), ← List.cons_append, ← hdigits,
          readDigits_padded (by decide) hfour, Option.map_some]
        simp [hshort.1]
  · rw [if_neg hshort]
    by_cases hsign : 0 ≤ year
    · have hplus : js "+" = [43] := by decide
      rw [if_pos hsign, hplus, List.append_assoc, List.singleton_append, readYear,
        List.head?_cons, if_pos rfl, List.drop_one, List.tail_cons,
        readDigits_padded (by decide) hsix, Option.map_some]
      simp [Int.natAbs_of_nonneg hsign]
    · have hminus : js "-" = [45] := by decide
      rw [if_neg hsign, hminus, List.append_assoc, List.singleton_append, readYear,
        List.head?_cons, if_neg (by decide), if_pos rfl, List.drop_one, List.tail_cons,
        readDigits_padded (by decide) hsix, Option.map_some]
      simp [Int.ofNat_natAbs_of_nonpos (not_le.mp hsign).le]

/-- A part of a printed instant behind a separator. -/
theorem readDigits_behind {value width : Nat} (hwidth : 0 < width) (hvalue : value < 10 ^ width)
    (unit : UInt16) (rest : JsString) :
    readDigits width ((unit :: (padded width value ++ rest)).drop 1) = some (value, rest) := by
  rw [List.drop_one, List.tail_cons, readDigits_padded hwidth hvalue]

theorem isoText_eq (ms : Int) :
    isoText ms = yearText (civilFromDays (ms / 86400000)).year ++
      45 :: (padded 2 (civilFromDays (ms / 86400000)).month.toNat ++
      45 :: (padded 2 (civilFromDays (ms / 86400000)).day.toNat ++
      84 :: (padded 2 ((ms % 86400000).toNat / 3600000) ++
      58 :: (padded 2 ((ms % 86400000).toNat / 60000 % 60) ++
      58 :: (padded 2 ((ms % 86400000).toNat / 1000 % 60) ++
      46 :: (padded 3 ((ms % 86400000).toNat % 1000) ++ [90])))))) := by
  have hhyphen : js "-" = [45] := by decide
  have htime : js "T" = [84] := by decide
  have hcolon : js ":" = [58] := by decide
  have hpoint : js "." = [46] := by decide
  have hzone : js "Z" = [90] := by decide
  simp only [isoText, hhyphen, htime, hcolon, hpoint, hzone, yearText, List.append_assoc,
    List.cons_append, List.nil_append]

/-- A printed instant reads back as itself. -/
theorem readIso_isoText {ms : Int} (hrange : ms.natAbs ≤ 8640000000000000) :
    readIso (isoText ms) = some ms := by
  obtain ⟨⟨hmonthLow, hmonth⟩, hdayLow, hday⟩ := civilFromDays_bounds (ms / 86400000)
  have hyear := @civilFromDays_year (ms / 86400000) (by omega)
  have hdays := daysFromCivil_civilFromDays (ms / 86400000)
  have htime : (ms % 86400000).toNat < 86400000 := by omega
  have hdate : ({ year := (civilFromDays (ms / 86400000)).year
                  month := ((civilFromDays (ms / 86400000)).month.toNat : Int)
                  day := ((civilFromDays (ms / 86400000)).day.toNat : Int) } : Civil) =
      civilFromDays (ms / 86400000) := by
    rw [Int.toNat_of_nonneg (by omega), Int.toNat_of_nonneg (by omega)]
  have hsum : ms / 86400000 * 86400000 + (((ms % 86400000).toNat / 3600000 * 3600000 +
      (ms % 86400000).toNat / 60000 % 60 * 60000 + (ms % 86400000).toNat / 1000 % 60 * 1000 +
      (ms % 86400000).toNat % 1000 : Nat) : Int) = ms := by
    omega
  rw [readIso, isoText_eq, readYear_yearText hyear]
  simp only [Option.bind_eq_bind, Option.bind_some]
  rw [readDigits_behind (by decide) (by omega)]
  simp only [Option.bind_some]
  rw [readDigits_behind (by decide) (by omega)]
  simp only [Option.bind_some]
  rw [readDigits_behind (by decide) (by omega)]
  simp only [Option.bind_some]
  rw [readDigits_behind (by decide) (by omega)]
  simp only [Option.bind_some]
  rw [readDigits_behind (by decide) (by omega)]
  simp only [Option.bind_some]
  rw [readDigits_behind (by decide) (by omega)]
  simp only [Option.bind_some]
  rw [← isoText_eq, hdate, hdays, hsum, if_pos rfl]

/-! ## A lawful host -/

/-- The plain host with a reader of every year. -/
def isoHost : HostRuntime := { plainHost with dateParse := readIso }

theorem clipTime_range {number : JsNumber} {ms : Int} (hms : clipTime number = some ms) :
    ms.natAbs ≤ 8640000000000000 := by
  unfold clipTime at hms
  split at hms
  · rename_i value
    split at hms
    · rename_i hrange
      obtain rfl := Option.some.inj hms
      split_ifs with hsign
      · have hlow : 0 ≤ value.floor := Rat.le_floor_iff.mpr (by exact_mod_cast hsign)
        have hhigh : (value.floor : ℚ) ≤ 8640000000000000 := (Rat.floor_le value).trans hrange.2
        have hhigh' : value.floor ≤ 8640000000000000 := by exact_mod_cast hhigh
        omega
      · have hhigh : value.ceil ≤ 0 := Rat.ceil_le_iff.mpr (by exact_mod_cast (not_le.mp hsign).le)
        have hlow : -8640000000000000 ≤ (value.ceil : ℚ) := hrange.1.trans Rat.le_ceil
        have hlow' : -8640000000000000 ≤ value.ceil := by exact_mod_cast hlow
        omega
    · cases hms
  · cases hms

theorem isoHost_lawful : LawfulInstants isoHost where
  printed number := Option.map_eq_none_iff
  reread number text hprinted := by
    obtain ⟨ms, hms, rfl⟩ := Option.map_eq_some_iff.mp hprinted
    rw [hms]
    exact readIso_isoText (clipTime_range hms)

end OdinSentinel.Host
