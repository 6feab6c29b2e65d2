import Mathlib.Tactic.IntervalCases
import PortableSql.Calendar.JulianDay

/-!
# Dates and their Julian day numbers

The arithmetic of `JulianDay` counts in centuries, years and months that begin in March. Each of the
three counts has a closed form for the days before its unit, and a division that finds the unit of a
day; the division is the inverse of the closed form, leap days and all. So the dates of the calendar
whose year can be written down and the day numbers from `least` to `greatest` are two names of the
same days.
-/
namespace PortableSql

namespace JulianDay

/-! ## Units of nearly equal length -/

/-- **The division finds the unit.** Units whose lengths are `p / s` on average, with `k` as the
offset, begin at `(p * q + k) / s`. -/
theorem unit_eq_iff {p s : Int} (hp : 0 < p) (hs : 0 < s) (k q n : Int) :
    (s * n + (s - 1 - k)) / p = q ↔ (p * q + k) / s ≤ n ∧ n < (p * (q + 1) + k) / s := by
  have hbegin : ∀ q, (p * q + k) / s ≤ n ↔ q ≤ (s * n + (s - 1 - k)) / p := by
    intro q
    rw [Int.le_ediv_iff_mul_le hp, ← Int.lt_add_one_iff, Int.ediv_lt_iff_lt_mul hs, Int.mul_comm q p,
      Int.add_mul, Int.mul_comm n s]
    omega
  have hend := hbegin (q + 1)
  rw [hbegin q]
  omega

/-- A day as the arithmetic sees it: the century and the year of the century, which begin in March,
the month counted from March, and the days of the month that are over. -/
structure MarchDay where
  century : Int
  year : Int
  month : Int
  day : Int

namespace MarchDay

/-- Days before a month of a year. -/
def daysBeforeMonth (month : Int) : Int := (153 * month + 2) / 5

/-- Days before a year of a century. -/
def daysBeforeYear (year : Int) : Int := 1461 * year / 4

/-- Days before a century. -/
def daysBeforeCentury (century : Int) : Int := 146097 * century / 4

/-- Days before the day, counted from the first century. -/
def index (t : MarchDay) : Int :=
  daysBeforeCentury t.century + daysBeforeYear t.year + daysBeforeMonth t.month + t.day

/-- The day with a number of days before it. -/
def ofIndex (n : Int) : MarchDay :=
  let century := (4 * n + 3) / 146097
  let inCentury := n - daysBeforeCentury century
  let year := (4 * inCentury + 3) / 1461
  let inYear := inCentury - daysBeforeYear year
  let month := (5 * inYear + 2) / 153
  ⟨century, year, month, inYear - daysBeforeMonth month⟩

/-- The year ends with a leap day: the year after it is divisible by four, and a last year of a
century is so if the next century is. -/
def EndsLeap (t : MarchDay) : Prop :=
  t.year % 4 = 3 ∧ (t.year = 99 → t.century % 4 = 3)

instance (t : MarchDay) : Decidable t.EndsLeap :=
  inferInstanceAs (Decidable (_ ∧ _))

/-- Number of days of the month, of which February is the last. -/
def monthLength (t : MarchDay) : Int :=
  if t.month = 11 then if t.EndsLeap then 29 else 28
  else daysBeforeMonth (t.month + 1) - daysBeforeMonth t.month

/-- Every part lies in the range it has in the calendar. -/
structure Proper (t : MarchDay) : Prop where
  year : 0 ≤ t.year ∧ t.year < 100
  month : 0 ≤ t.month ∧ t.month < 12
  day : 0 ≤ t.day ∧ t.day < t.monthLength

theorem century_eq_iff (n q : Int) :
    (4 * n + 3) / 146097 = q ↔ daysBeforeCentury q ≤ n ∧ n < daysBeforeCentury (q + 1) := by
  have h := unit_eq_iff (p := 146097) (s := 4) (by decide) (by decide) 0 q n
  simpa [daysBeforeCentury] using h

theorem year_eq_iff (n r : Int) :
    (4 * n + 3) / 1461 = r ↔ daysBeforeYear r ≤ n ∧ n < daysBeforeYear (r + 1) := by
  have h := unit_eq_iff (p := 1461) (s := 4) (by decide) (by decide) 0 r n
  simpa [daysBeforeYear] using h

theorem month_eq_iff (n m : Int) :
    (5 * n + 2) / 153 = m ↔ daysBeforeMonth m ≤ n ∧ n < daysBeforeMonth (m + 1) :=
  unit_eq_iff (p := 153) (s := 5) (by decide) (by decide) 2 m n

theorem daysBeforeYear_eq (r : Int) : daysBeforeYear r = 365 * r + r / 4 := by
  simp only [daysBeforeYear]
  omega

theorem daysBeforeCentury_eq (q : Int) : daysBeforeCentury q = 36524 * q + q / 4 := by
  simp only [daysBeforeCentury]
  omega

/-- A year has 365 days, or 366 if it ends with a leap day. -/
theorem Proper.inYear_lt {t : MarchDay} (h : t.Proper) :
    daysBeforeMonth t.month + t.day < if t.EndsLeap then 366 else 365 := by
  obtain ⟨-, ⟨hmonth, hlast⟩, -, hday⟩ := h
  revert hday
  simp only [monthLength, daysBeforeMonth]
  split_ifs <;> omega

theorem Proper.inYear_nonneg {t : MarchDay} (h : t.Proper) :
    0 ≤ daysBeforeMonth t.month + t.day := by
  have hmonth := h.month.1
  have hday := h.day.1
  simp only [daysBeforeMonth]
  omega

/-- **Every proper day is found again from its number.** -/
theorem ofIndex_index {t : MarchDay} (h : t.Proper) : ofIndex t.index = t := by
  obtain ⟨hyear, hyear'⟩ := h.year
  have hstart := h.inYear_nonneg
  have hend := h.inYear_lt
  have hcentury : (4 * t.index + 3) / 146097 = t.century := by
    rw [century_eq_iff]
    simp only [index, daysBeforeCentury_eq, daysBeforeYear_eq, EndsLeap] at hend ⊢
    split_ifs at hend <;> omega
  have hinCentury : t.index - daysBeforeCentury t.century =
      daysBeforeYear t.year + (daysBeforeMonth t.month + t.day) := by
    simp only [index]
    omega
  have hofYear : (4 * (t.index - daysBeforeCentury t.century) + 3) / 1461 = t.year := by
    rw [hinCentury, year_eq_iff]
    simp only [daysBeforeYear_eq, EndsLeap] at hend ⊢
    split_ifs at hend <;> omega
  have hinYear : t.index - daysBeforeCentury t.century - daysBeforeYear t.year =
      daysBeforeMonth t.month + t.day := by
    omega
  have hofMonth : (5 * (t.index - daysBeforeCentury t.century - daysBeforeYear t.year) + 2) / 153 =
      t.month := by
    obtain ⟨hday, hday'⟩ := h.day
    have hmonth := h.month
    rw [hinYear, month_eq_iff]
    revert hday'
    simp only [monthLength, daysBeforeMonth]
    split_ifs <;> omega
  have hofDay : t.index - daysBeforeCentury t.century - daysBeforeYear t.year -
      daysBeforeMonth t.month = t.day := by
    omega
  simp only [ofIndex, hcentury, hofYear, hofMonth, hofDay]

/-- The number of a day is the one it was found from. -/
theorem index_ofIndex (n : Int) : (ofIndex n).index = n := by
  simp only [ofIndex, index]
  omega

/-- **Every number finds a proper day.** -/
theorem proper_ofIndex (n : Int) : (ofIndex n).Proper := by
  obtain ⟨q, hq⟩ : ∃ q, (4 * n + 3) / 146097 = q := ⟨_, rfl⟩
  obtain ⟨r, hr⟩ : ∃ r, (4 * (n - daysBeforeCentury q) + 3) / 1461 = r := ⟨_, rfl⟩
  obtain ⟨m, hm⟩ : ∃ m, (5 * (n - daysBeforeCentury q - daysBeforeYear r) + 2) / 153 = m := ⟨_, rfl⟩
  have hcentury := (century_eq_iff n q).1 hq
  have hyear := (year_eq_iff _ r).1 hr
  have hmonth := (month_eq_iff _ m).1 hm
  simp only [ofIndex, hq, hr, hm]
  simp only [daysBeforeCentury_eq, daysBeforeYear_eq, daysBeforeMonth] at hcentury hyear hmonth
  have hr0 : 0 ≤ r ∧ r < 100 := by omega
  have hm0 : 0 ≤ m ∧ m < 12 := by omega
  refine ⟨hr0, hm0, ?_, ?_⟩
  · simp only [daysBeforeCentury_eq, daysBeforeYear_eq, daysBeforeMonth]
    omega
  · simp only [monthLength, EndsLeap, daysBeforeCentury_eq, daysBeforeYear_eq, daysBeforeMonth]
    split_ifs <;> omega

/-! ## The calendar -/

/-- Year, month and day in the calendar, where the year begins in January and months and days are
counted from one. -/
def civil (t : MarchDay) : Int × Int × Int :=
  (100 * t.century + t.year - 4800 + t.month / 10, t.month + 3 - 12 * (t.month / 10), t.day + 1)

/-- The day of a date of the calendar: January and February belong to the year before. -/
def ofCivil (year month day : Int) : MarchDay :=
  let before := (14 - month) / 12
  let year := year + 4800 - before
  ⟨year / 100, year % 100, month + 12 * before - 3, day - 1⟩

/-- February is the end of the March year that began in the year before. -/
theorem endsLeap_ofCivil (year day : Int) :
    (ofCivil year 2 day).EndsLeap ↔ Date.isLeapYear year = true := by
  simp only [ofCivil, EndsLeap, Date.isLeapYear, decide_eq_true_eq]
  omega

/-- A month is as long as the calendar says. -/
theorem monthLength_ofCivil (year : Int) {month : Nat} (hpos : 1 ≤ month) (hle : month ≤ 12)
    (day : Int) : (ofCivil year month day).monthLength = Date.daysInMonth year month := by
  by_cases hfeb : month = 2
  · subst hfeb
    have hlast : (ofCivil year 2 day).month = 11 := by simp [ofCivil]
    rw [Nat.cast_ofNat, monthLength, if_pos hlast, Date.daysInMonth]
    by_cases hleap : Date.isLeapYear year = true
    · rw [if_pos ((endsLeap_ofCivil year day).2 hleap), if_pos hleap]
      rfl
    · rw [if_neg (mt (endsLeap_ofCivil year day).1 hleap), if_neg hleap]
      rfl
  · interval_cases month <;> simp_all [ofCivil, monthLength, daysBeforeMonth, Date.daysInMonth]

/-- The dates of the calendar are proper days. -/
theorem proper_ofCivil {year : Int} {month day : Nat} (hpos : 1 ≤ month) (hle : month ≤ 12)
    (hday : 1 ≤ day) (hdays : day ≤ Date.daysInMonth year month) :
    (ofCivil year month day).Proper := by
  refine ⟨?_, ?_, ?_, ?_⟩
  · simp only [ofCivil]
    omega
  · simp only [ofCivil]
    omega
  · simp only [ofCivil]
    omega
  · rw [monthLength_ofCivil year hpos hle]
    simp only [ofCivil]
    omega

theorem civil_ofCivil {year month : Int} (hpos : 1 ≤ month) (hle : month ≤ 12) (day : Int) :
    (ofCivil year month day).civil = (year, month, day) := by
  simp only [civil, ofCivil, Prod.mk.injEq]
  omega

theorem ofCivil_civil {t : MarchDay} (h : t.Proper) :
    ofCivil t.civil.1 t.civil.2.1 t.civil.2.2 = t := by
  obtain ⟨hyear, hmonth, -⟩ := h
  obtain ⟨century, year, month, day⟩ := t
  simp only [civil, ofCivil, mk.injEq] at hyear hmonth ⊢
  omega

/-- **What a proper day is read as is a date of the calendar.** -/
theorem Proper.civil_valid {t : MarchDay} (h : t.Proper) :
    ∃ (year : Int) (month day : Nat), t.civil = (year, (month : Int), (day : Int)) ∧
      1 ≤ month ∧ month ≤ 12 ∧ 1 ≤ day ∧ day ≤ Date.daysInMonth year month := by
  obtain ⟨hmonth, hmonth'⟩ := h.month
  obtain ⟨hday, hday'⟩ := h.day
  obtain ⟨month, hm⟩ := Int.eq_ofNat_of_zero_le (a := t.month + 3 - 12 * (t.month / 10)) (by omega)
  obtain ⟨day, hd⟩ := Int.eq_ofNat_of_zero_le (a := t.day + 1) (by omega)
  have hcivil : t.civil = (100 * t.century + t.year - 4800 + t.month / 10, (month : Int),
      (day : Int)) := by rw [civil, hm, hd]
  have hpos : 1 ≤ month := by omega
  have hle : month ≤ 12 := by omega
  have hlength := monthLength_ofCivil (100 * t.century + t.year - 4800 + t.month / 10) hpos hle day
  have hback := ofCivil_civil h
  rw [hcivil] at hback
  rw [hback] at hlength
  exact ⟨_, month, day, hcivil, hpos, hle, by omega, by omega⟩

end MarchDay

open MarchDay

theorem ofDate_eq_index (d : Date) :
    ofDate d = (ofCivil d.year.toInt d.month.toNat d.day.toNat).index - 32044 := by
  simp only [ofDate, ofCivil, index, daysBeforeCentury_eq, daysBeforeYear_eq, daysBeforeMonth]
  omega

theorem civil_eq (jdn : Int) : civil jdn = (ofIndex (jdn + 32044)).civil := rfl

/-! ## Numbers and dates -/

/-- **The date of a number is a date of the calendar, and the number is its number.** -/
theorem exists_civil (jdn : Int) :
    ∃ (year : Int) (month day : Nat), civil jdn = (year, (month : Int), (day : Int)) ∧
      1 ≤ month ∧ month ≤ 12 ∧ 1 ≤ day ∧ day ≤ Date.daysInMonth year month ∧
      (ofCivil year month day).index = jdn + 32044 := by
  have hproper := proper_ofIndex (jdn + 32044)
  obtain ⟨year, month, day, hcivil, hpos, hle, hday, hdays⟩ := hproper.civil_valid
  have hback := ofCivil_civil hproper
  rw [hcivil] at hback
  have hindex := index_ofIndex (jdn + 32044)
  rw [← hback] at hindex
  exact ⟨year, month, day, hcivil, hpos, hle, hday, hdays, hindex⟩

/-- **The date of the number of a date is the date.** -/
theorem civil_ofDate {d : Date} (h : d.Valid) :
    civil (ofDate d) = (d.year.toInt, (d.month.toNat : Int), (d.day.toNat : Int)) := by
  obtain ⟨hpos, hle, hday, hdays⟩ := h
  have hproper := proper_ofCivil hpos hle hday hdays
  have hindex : ofDate d + 32044 = (ofCivil d.year.toInt d.month.toNat d.day.toNat).index := by
    rw [ofDate_eq_index]
    omega
  rw [civil_eq, hindex, ofIndex_index hproper, civil_ofCivil (by omega) (by omega)]

/-- Days before a March year, counted from the first century. -/
def yearStart (year : Int) : Int := 365 * year + year / 4 - year / 100 + year / 400

theorem yearStart_add_le (year later : Int) (h : year < later) :
    yearStart year + 365 ≤ yearStart later := by
  simp only [yearStart]
  omega

theorem index_ofCivil (year month day : Int) :
    (ofCivil year month day).index = yearStart (year + 4800 - (14 - month) / 12) +
      daysBeforeMonth (month + 12 * ((14 - month) / 12) - 3) + day - 1 := by
  simp only [ofCivil, index, yearStart, daysBeforeCentury_eq, daysBeforeYear_eq]
  omega

theorem daysInMonth_le (year : Int) (month : Nat) : Date.daysInMonth year month ≤ 31 := by
  simp only [Date.daysInMonth]
  split
  case h_12 => split_ifs <;> omega
  all_goals omega

theorem least_eq : least = yearStart (-2147483648 + 4799) + 306 - 32044 := by decide

theorem greatest_eq : greatest = yearStart (2147483647 + 4800) + 305 - 32044 := by decide

/-- **The range of the numbers is the range of the years.** -/
theorem mem_range_iff {year : Int} {month day : Nat} (hpos : 1 ≤ month) (hle : month ≤ 12)
    (hday : 1 ≤ day) (hdays : day ≤ Date.daysInMonth year month) :
    (least ≤ (ofCivil year month day).index - 32044 ∧
      (ofCivil year month day).index - 32044 ≤ greatest) ↔ -2 ^ 31 ≤ year ∧ year < 2 ^ 31 := by
  have hbound := daysInMonth_le year month
  rw [least_eq, greatest_eq, index_ofCivil]
  obtain ⟨y, hy⟩ : ∃ y, year + 4800 - (14 - (month : Int)) / 12 = y := ⟨_, rfl⟩
  rw [hy]
  simp only [daysBeforeMonth]
  -- a whole year apart from an end of the range, the days of the year do not matter
  have hbelow := yearStart_add_le y (-2147483648 + 4799)
  have hfrom := yearStart_add_le (-2147483648 + 4799) y
  have hto := yearStart_add_le y (2147483647 + 4800)
  have habove := yearStart_add_le (2147483647 + 4800) y
  by_cases hfirst : y = -2147483648 + 4799
  · subst hfirst
    omega
  · by_cases hlast : y = 2147483647 + 4800
    · subst hlast
      omega
    · omega

/-- Every date that exists has a number in the range. -/
theorem ofDate_mem_range {d : Date} (h : d.Valid) : least ≤ ofDate d ∧ ofDate d ≤ greatest := by
  obtain ⟨hpos, hle, hday, hdays⟩ := h
  rw [ofDate_eq_index, mem_range_iff hpos hle hday hdays]
  exact ⟨Int32.le_toInt d.year, Int32.toInt_lt d.year⟩

theorem toDate_of_mem_range {jdn : Int} (h : least ≤ jdn ∧ jdn ≤ greatest) {d : Date}
    (hcivil : civil jdn = (d.year.toInt, (d.month.toNat : Int), (d.day.toNat : Int))) :
    toDate jdn = .ok d := by
  rw [toDate, if_pos h, hcivil]
  simp only [Int32.ofInt_toInt, Int.toNat_natCast, UInt32.ofNat_toNat]

/-- A date that exists is read back from its number. -/
theorem toDate_ofDate {d : Date} (h : d.Valid) : toDate (ofDate d) = .ok d :=
  toDate_of_mem_range (ofDate_mem_range h) (civil_ofDate h)

/-- **Nothing is lost when the date of a number is written down.** -/
theorem exists_date {jdn : Int} (h : least ≤ jdn ∧ jdn ≤ greatest) :
    ∃ d : Date, civil jdn = (d.year.toInt, (d.month.toNat : Int), (d.day.toNat : Int)) ∧
      d.Valid ∧ ofDate d = jdn := by
  obtain ⟨year, month, day, hcivil, hpos, hle, hday, hdays, hindex⟩ := exists_civil jdn
  have hjdn : (ofCivil year month day).index - 32044 = jdn := by omega
  rw [← hjdn, mem_range_iff hpos hle hday hdays] at h
  have hbound := daysInMonth_le year month
  have hyear : (Int32.ofInt year).toInt = year := Int32.toInt_ofInt_of_le h.1 h.2
  have hmonth : (UInt32.ofNat month).toNat = month := by
    rw [UInt32.toNat_ofNat']
    omega
  have hday' : (UInt32.ofNat day).toNat = day := by
    rw [UInt32.toNat_ofNat']
    omega
  refine ⟨⟨Int32.ofInt year, UInt32.ofNat month, UInt32.ofNat day⟩, ?_, ?_, ?_⟩
  · rw [hyear, hmonth, hday', hcivil]
  · rw [Date.Valid, hyear, hmonth, hday']
    exact ⟨hpos, hle, hday, hdays⟩
  · rw [ofDate_eq_index, hyear, hmonth, hday', hjdn]

/-! ## Years -/

/-- Number of the first of January of a year. -/
def newYear (year : Int) : Int := yearStart (year + 4799) + 306 - 32044

theorem newYear_le_of_le {year later : Int} (h : year ≤ later) : newYear year ≤ newYear later := by
  rcases Int.lt_or_eq_of_le h with hlt | rfl
  · have hstart := yearStart_add_le (year + 4799) (later + 4799) (by omega)
    simp only [newYear]
    omega
  · exact Int.le_refl _

/-- The days of a year lie between its first of January and the next one. -/
theorem ofDate_mem_year {d : Date} (h : d.Valid) :
    newYear d.year.toInt ≤ ofDate d ∧ ofDate d < newYear (d.year.toInt + 1) := by
  obtain ⟨hpos, hle, hday, hdays⟩ := h
  have hbound := daysInMonth_le d.year.toInt d.month.toNat
  obtain ⟨year, hyear⟩ : ∃ year, d.year.toInt = year := ⟨_, rfl⟩
  obtain ⟨month, hmonth⟩ : ∃ month : Int, (d.month.toNat : Int) = month := ⟨_, rfl⟩
  have hstart := yearStart_add_le (year + 4799) (year + 4800) (by omega)
  have hnext : year + 1 + 4799 = year + 4800 := by omega
  rw [ofDate_eq_index, index_ofCivil, hyear, hmonth]
  simp only [newYear, hnext, daysBeforeMonth]
  by_cases hearly : month < 3
  · have hbefore : (14 - month) / 12 = 1 := by omega
    have hlast : year + 4800 - 1 = year + 4799 := by omega
    rw [hbefore, hlast]
    omega
  · have hsame : (14 - month) / 12 = 0 := by omega
    rw [hsame, Int.sub_zero]
    omega

/-- **A date is not before the first of January of a year exactly when its own year is not.** -/
theorem newYear_le_ofDate_iff {d : Date} (h : d.Valid) (year : Int) :
    newYear year ≤ ofDate d ↔ year ≤ d.year.toInt := by
  obtain ⟨hfrom, hto⟩ := ofDate_mem_year h
  constructor
  · intro hle
    refine Int.not_lt.1 fun hlt => ?_
    have hlater : newYear (d.year.toInt + 1) ≤ newYear year := newYear_le_of_le hlt
    omega
  · intro hle
    exact Int.le_trans (newYear_le_of_le hle) hfrom

/-- **Day numbers and dates name the same days.** Every number from `least` to `greatest` has a date
of the calendar, written down without loss, whose number it is; every date of the calendar whose year
can be written down has a number in that range, and is the date of it; a number outside has no
date, and the error says so. -/
theorem numbers_name_dates :
    (∀ jdn : Int, least ≤ jdn ∧ jdn ≤ greatest →
      ∃ d : Date, toDate jdn = .ok d ∧ d.Valid ∧ ofDate d = jdn ∧
        civil jdn = (d.year.toInt, (d.month.toNat : Int), (d.day.toNat : Int))) ∧
    (∀ d : Date, d.Valid →
      (least ≤ ofDate d ∧ ofDate d ≤ greatest) ∧ toDate (ofDate d) = .ok d) ∧
    ∀ jdn : Int, jdn < least ∨ greatest < jdn →
      toDate jdn =
        .error (.rangeExceeded (.julianDay (Text.Decimal.ofInt jdn) least greatest)) := by
  refine ⟨?_, ?_, ?_⟩
  · intro jdn hjdn
    obtain ⟨d, hcivil, hvalid, hnumber⟩ := exists_date hjdn
    exact ⟨d, toDate_of_mem_range hjdn hcivil, hvalid, hnumber, hcivil⟩
  · intro d hvalid
    have hrange := ofDate_mem_range hvalid
    exact ⟨hrange, toDate_of_mem_range hrange (civil_ofDate hvalid)⟩
  · intro jdn hjdn
    have hnot : ¬(least ≤ jdn ∧ jdn ≤ greatest) := by omega
    rw [toDate, if_neg hnot, outOfRange]

end JulianDay

end PortableSql
