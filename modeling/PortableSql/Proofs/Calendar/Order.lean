import Mathlib.Order.Compare
import PortableSql.Proofs.Calendar.JulianDay
import PortableSql.Proofs.Calendar.TimeOfDay

/-!
# Chronological order

Dates, times of day and timestamps are ordered field by field. For those that exist this is the order
of their numbers: no field outweighs the one before it, because the days of a month lie before the
next month, the months of a year before the next year, and a time of day before the next day.

## Main statements

* `Date.compares` — dates are ordered as their Julian day numbers.
* `Time.compares` — times of day are ordered as their milliseconds.
* `Timestamp.compares` — timestamps are ordered as their milliseconds since the first day.
-/
namespace PortableSql

/-! ## Fields and what they count -/

/-- The fields in front decide, and those behind them if they do not. -/
theorem compareFields_append {as bs : List Int} (h : as.length = bs.length) (cs ds : List Int) :
    compareFields (as ++ cs) (bs ++ ds) = (compareFields as bs).then (compareFields cs ds) := by
  induction as generalizing bs with
  | nil =>
    obtain rfl : bs = [] := List.length_eq_zero_iff.1 h.symm
    rfl
  | cons a as ih =>
    cases bs with
    | nil => simp at h
    | cons b bs =>
      simp only [List.cons_append, compareFields]
      split
      · rfl
      · split
        · rfl
        · exact ih (by simpa using h)

/-- **What the front counts for outweighs the rest.** The fields are ordered as two numbers if those in
front decide the order of the numbers where they differ, and those behind where they do not. -/
theorem compares_append {as bs cs ds : List Int} {p q x y : Int} (hlength : as.length = bs.length)
    (hfront : (compareFields as bs).Compares p q) (hlt : p < q → x < y) (hgt : q < p → y < x)
    (heq : p = q → (compareFields cs ds).Compares x y) :
    (compareFields (as ++ cs) (bs ++ ds)).Compares x y := by
  rw [compareFields_append hlength]
  cases hfirst : compareFields as bs <;> rw [hfirst] at hfront
  · exact hlt hfront
  · exact heq hfront
  · exact hgt hfront

/-- One field in front. -/
theorem compares_cons {a b x y : Int} {as bs : List Int} (hlt : a < b → x < y) (hgt : b < a → y < x)
    (heq : a = b → (compareFields as bs).Compares x y) :
    (compareFields (a :: as) (b :: bs)).Compares x y := by
  rw [compareFields]
  split
  · next h => exact hlt h
  · split
    · next h => exact hgt h
    · exact heq (by omega)

/-! ## Months -/

namespace JulianDay

open MarchDay

/-- Number of the first day of a month. -/
def monthStart (year : Int) (month : Nat) : Int := (ofCivil year month 1).index - 32044

theorem ofDate_eq_monthStart (d : Date) :
    ofDate d = monthStart d.year.toInt d.month.toNat + (d.day.toNat - 1) := by
  rw [ofDate_eq_index, monthStart, index_ofCivil, index_ofCivil]
  omega

/-- **Within a year one month follows another.** -/
theorem monthStart_succ (year : Int) {month : Nat} (hpos : 1 ≤ month) (hlt : month < 12) :
    monthStart year (month + 1) = monthStart year month + Date.daysInMonth year month := by
  simp only [monthStart, index_ofCivil, daysBeforeMonth]
  by_cases hfeb : month = 2
  · -- the March year that begins in March is a leap day later if there is one
    subst hfeb
    simp only [Date.daysInMonth, Date.isLeapYear, decide_eq_true_eq, yearStart]
    split_ifs <;> omega
  · interval_cases month <;> simp_all [Date.daysInMonth] <;> omega

/-- A month is over before a later one of the year begins. -/
theorem monthStart_add_le (year : Int) {month later : Nat} (hpos : 1 ≤ month) (hlt : month < later)
    (hle : later ≤ 12) : monthStart year month + Date.daysInMonth year month ≤ monthStart year later := by
  induction later, hlt using Nat.le_induction with
  | base => exact (monthStart_succ year hpos (by omega)).ge
  | succ later hlt ih =>
    have hnext : monthStart year (later + 1) =
        monthStart year later + Date.daysInMonth year later :=
      monthStart_succ year (by omega) (by omega)
    have hbefore := ih (by omega)
    omega

end JulianDay

/-! ## Dates -/

namespace Date

open JulianDay

variable {a b : Date}

/-- Dates of different years are in the order of the years. -/
theorem ofDate_lt_of_year_lt (ha : a.Valid) (hb : b.Valid) (h : a.year.toInt < b.year.toInt) :
    ofDate a < ofDate b :=
  calc ofDate a < newYear (a.year.toInt + 1) := (ofDate_mem_year ha).2
    _ ≤ newYear b.year.toInt := newYear_le_of_le h
    _ ≤ ofDate b := (ofDate_mem_year hb).1

/-- Dates of a year are in the order of the months. -/
theorem ofDate_lt_of_month_lt (ha : a.Valid) (hb : b.Valid) (hyear : a.year.toInt = b.year.toInt)
    (h : a.month.toNat < b.month.toNat) : ofDate a < ofDate b := by
  obtain ⟨hpos, -, -, hdays⟩ := ha
  obtain ⟨-, hle, hday, -⟩ := hb
  have hmonth := monthStart_add_le a.year.toInt hpos h hle
  rw [ofDate_eq_monthStart, ofDate_eq_monthStart, ← hyear]
  omega

/-- **Dates that exist are ordered as their numbers.** -/
theorem compares (ha : a.Valid) (hb : b.Valid) : (a.compare b).Compares (ofDate a) (ofDate b) := by
  refine compares_cons (ofDate_lt_of_year_lt ha hb) (ofDate_lt_of_year_lt hb ha) fun hyear => ?_
  refine compares_cons (fun h => ofDate_lt_of_month_lt ha hb hyear (by omega))
    (fun h => ofDate_lt_of_month_lt hb ha hyear.symm (by omega)) fun hmonth => ?_
  have hmonth' : a.month.toNat = b.month.toNat := by omega
  rw [ofDate_eq_monthStart, ofDate_eq_monthStart, hyear, hmonth']
  refine compares_cons (fun h => by omega) (fun h => by omega) fun hday => ?_
  rw [hday]
  rfl

end Date

/-! ## Times of day and timestamps -/

/-- **Times that exist are ordered as their milliseconds.** -/
theorem Time.compares {a b : Time} (ha : a.Valid) (hb : b.Valid) :
    (a.compare b).Compares a.totalMillis b.totalMillis := by
  obtain ⟨-, hmin, hsec, hmsec⟩ := ha
  obtain ⟨-, hmin', hsec', hmsec'⟩ := hb
  simp only [compare, fields, totalMillis]
  refine compares_cons (fun h => by omega) (fun h => by omega) fun hhours => ?_
  refine compares_cons (fun h => by omega) (fun h => by omega) fun hmins => ?_
  refine compares_cons (fun h => by omega) (fun h => by omega) fun hsecs => ?_
  refine compares_cons (fun h => by omega) (fun h => by omega) fun hmsecs => ?_
  rw [hhours, hmins, hsecs, hmsecs]
  rfl

namespace Timestamp

/-- Milliseconds since the start of the day with the number zero. -/
def totalMillis (t : Timestamp) : Int :=
  JulianDay.ofDate t.date * Time.millisPerDay + t.time.totalMillis

/-- **Timestamps that exist are ordered as their milliseconds.** -/
theorem compares {a b : Timestamp} (ha : a.Valid) (hb : b.Valid) :
    (a.compare b).Compares a.totalMillis b.totalMillis := by
  have hnonneg := a.time.totalMillis_nonneg
  have hnonneg' := b.time.totalMillis_nonneg
  have hlt := Time.totalMillis_lt ha.2
  have hlt' := Time.totalMillis_lt hb.2
  have htimes := Time.compares ha.2 hb.2
  simp only [totalMillis, Time.millisPerDay] at hlt hlt' ⊢
  refine compares_append (by simp [Date.fields]) (Date.compares ha.1 hb.1) (fun h => by omega)
    (fun h => by omega) fun hday => ?_
  rw [Time.compare] at htimes
  cases htime : compareFields a.time.fields b.time.fields <;> rw [htime] at htimes <;>
    simp only [Ordering.compares_lt, Ordering.compares_eq, Ordering.compares_gt] at htimes ⊢ <;> omega

end Timestamp

end PortableSql
