import PortableSql.Proofs.Calendar.JulianDay
import PortableSql.Proofs.Calendar.TimeOfDay
import PortableSql.SqlServer.Wire

/-!
# Dates and times on SQL Server's wire and back

The server stores the dates from the first of January of the year 1 to the last of December of the
year 9999, which are those of the years 1 to 9999. Such a date has a form on the wire and is read back
from it; any other date of the calendar is out of range. A time of day that exists always has a form.
-/
namespace PortableSql

/-- The first fields that differ decide. -/
theorem compareFields_cons_ne_gt {a b : Int} {as bs : List Int} :
    compareFields (a :: as) (b :: bs) ≠ .gt ↔ a < b ∨ a = b ∧ compareFields as bs ≠ .gt := by
  rw [compareFields]
  split
  · simp [*]
  · split
    · simp
      omega
    · have heq : a = b := by omega
      simp [heq]

namespace SqlServer

variable {d : Date} {t : Time}

/-- The first date that the server stores. -/
def firstStored : Date := ⟨1, 1, 1⟩

/-- The last date that the server stores. -/
def lastStored : Date := ⟨9999, 12, 31⟩

/-- The date is neither before the first nor after the last date that the server stores. -/
def Storable (d : Date) : Prop :=
  firstStored.compare d ≠ .gt ∧ d.compare lastStored ≠ .gt

instance (d : Date) : Decidable (Storable d) :=
  inferInstanceAs (Decidable (_ ∧ _))

theorem storable_iff_year (h : d.Valid) :
    Storable d ↔ 1 ≤ d.year.toInt ∧ d.year.toInt ≤ 9999 := by
  obtain ⟨hpos, hle, hday, hdays⟩ := h
  have hbound := JulianDay.daysInMonth_le d.year.toInt d.month.toNat
  have hfirst : firstStored.fields = [1, 1, 1] := by decide
  have hlast : lastStored.fields = [9999, 12, 31] := by decide
  rw [Storable, Date.compare, Date.compare, hfirst, hlast, Date.fields]
  simp only [compareFields_cons_ne_gt]
  simp only [compareFields, ne_eq, reduceCtorEq, not_false_iff, and_true]
  omega

/-- The year before the first is a leap year, of which the server stores no day. -/
example : Date.Valid ⟨0, 2, 29⟩ ∧ ¬Storable ⟨0, 2, 29⟩ := by decide

theorem newYear_first : JulianDay.newYear 1 = dateEpoch := by decide

theorem newYear_after_last : JulianDay.newYear 10000 = dateEpoch + lastDay + 1 := by decide

/-- The number of a date is one of those on the wire if the server stores the date. -/
theorem days_mem_range_iff (h : d.Valid) :
    0 ≤ JulianDay.ofDate d - dateEpoch ∧ JulianDay.ofDate d - dateEpoch ≤ lastDay ↔
      Storable d := by
  have hfirst := JulianDay.newYear_le_ofDate_iff h 1
  have hlast := JulianDay.newYear_le_ofDate_iff h 10000
  rw [newYear_first] at hfirst
  rw [newYear_after_last] at hlast
  rw [storable_iff_year h]
  omega

theorem ofDate_of_not_storable (h : d.Valid) (hd : ¬Storable d) :
    ofDate d = .error (outOfRange d.text) :=
  if_neg fun hrange => hd ((days_mem_range_iff h).1 hrange)

/-- A date that the server stores has a form, and is read back from it. -/
theorem ofDate_of_storable (h : d.Valid) (hd : Storable d) :
    ∃ days, ofDate d = .ok days ∧ toDate days = .ok d := by
  have hrange := (days_mem_range_iff h).2 hd
  have hdays : ((UInt32.ofNat (JulianDay.ofDate d - dateEpoch).toNat).toNat : Int) =
      JulianDay.ofDate d - dateEpoch := by
    simp only [lastDay] at hrange
    rw [UInt32.toNat_ofNat']
    omega
  refine ⟨_, if_pos hrange, ?_⟩
  rw [toDate, hdays, Int.sub_add_cancel, JulianDay.toDate_ofDate h]

/-- A time that exists has a form, and is read back from it. -/
theorem ofTime_of_valid (h : t.Valid) : ∃ time, ofTime t = .ok time ∧ toTime time = t := by
  have hnonneg := t.totalMillis_nonneg
  have hlt := Time.totalMillis_lt h
  have hunit : rescale writtenScale = 1 := by decide
  have hticks : ticksPerMilli.toNat = 10000 := by decide
  have hmillis : (UInt64.ofNat t.totalMillis.toNat * ticksPerMilli / ticksPerMilli).toNat =
      t.totalMillis.toNat := by
    simp only [Time.millisPerDay] at hlt
    rw [UInt64.toNat_div, UInt64.toNat_mul, UInt64.toNat_ofNat', hticks]
    omega
  have hform : ofTime t = .ok ⟨UInt64.ofNat t.totalMillis.toNat * ticksPerMilli, writtenScale⟩ := by
    simp only [ofTime, if_pos hlt]
  refine ⟨_, hform, ?_⟩
  simp only [toTime, hunit, UInt64.mul_one, hmillis]
  rw [Int.toNat_of_nonneg hnonneg, Time.ofMillis_totalMillis h]

/-! ## Timestamps -/

theorem ofTimestamp_of_not_storable {t : Timestamp} (h : t.Valid) (hd : ¬Storable t.date) :
    ofTimestamp t = .error (outOfRange t.date.text) := by
  rw [ofTimestamp, ofDate_of_not_storable h.1 hd]
  rfl

/-- **A timestamp on a date that the server stores has a form, and is read back from it.** -/
theorem ofTimestamp_of_storable {t : Timestamp} (h : t.Valid) (hd : Storable t.date) :
    ∃ form, ofTimestamp t = .ok form ∧ toTimestamp form = .ok t := by
  obtain ⟨days, hdays, hdate⟩ := ofDate_of_storable h.1 hd
  obtain ⟨time, htime, htoTime⟩ := ofTime_of_valid h.2
  refine ⟨⟨days, time⟩, ?_, ?_⟩
  · rw [ofTimestamp, hdays, htime]
    rfl
  · rw [toTimestamp, hdate, htoTime]
    rfl

end SqlServer

end PortableSql
