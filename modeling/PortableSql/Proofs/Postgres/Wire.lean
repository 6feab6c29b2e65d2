import PortableSql.Postgres.Wire
import PortableSql.Proofs.Calendar.JulianDay
import PortableSql.Proofs.Calendar.TimeOfDay
import PortableSql.Proofs.Result

/-!
# Dates and times on PostgreSQL's wire and back

A date, a time of day and a timestamp have a form on the wire if its number fits. What exists in the
calendar and has a form is read back from it, before the year 2000 as well: a timestamp counts whole
days down and its time of day up.
-/
namespace PortableSql.Postgres

variable {d : Date} {t : Time}

theorem ofDate_eq_ok_iff {days : Int} :
    ofDate d = .ok days ↔ days = JulianDay.ofDate d - epoch ∧ IntType.int32.Fits days := by
  rw [ofDate]
  constructor
  · intro h
    split at h
    · cases h
      exact ⟨rfl, ‹_›⟩
    · cases h
  · rintro ⟨rfl, hfits⟩
    rw [if_pos hfits]

theorem ofTime_eq_ok_iff {micros : Int} :
    ofTime t = .ok micros ↔ micros = t.totalMillis * microsPerMilli ∧ micros ≤ microsPerDay := by
  rw [ofTime]
  constructor
  · intro h
    split at h
    · cases h
      exact ⟨rfl, ‹_›⟩
    · cases h
  · rintro ⟨rfl, hle⟩
    rw [if_pos hle]

theorem ofTimestamp_eq_ok_iff {t : Timestamp} {micros : Int} :
    ofTimestamp t = .ok micros ↔ ∃ days time, ofDate t.date = .ok days ∧ ofTime t.time = .ok time ∧
      micros = days * microsPerDay + time ∧ IntType.int64.Fits (days * microsPerDay) ∧
      IntType.int64.Fits micros := by
  simp only [ofTimestamp, Result.bind_eq_ok_iff]
  constructor
  · rintro ⟨time, htime, days, hdays, h⟩
    split at h
    · cases h
      exact ⟨days, time, hdays, htime, rfl, ‹_›⟩
    · cases h
  · rintro ⟨days, time, hdays, htime, rfl, hfits⟩
    exact ⟨time, htime, days, hdays, if_pos hfits⟩

/-! ## Reading back -/

theorem toDate_of_ofDate (h : d.Valid) {days : Int} (hdays : ofDate d = .ok days) :
    toDate days = .ok d := by
  obtain ⟨rfl, -⟩ := ofDate_eq_ok_iff.1 hdays
  rw [toDate, Int.sub_add_cancel, JulianDay.toDate_ofDate h]

/-- The microseconds of a time that exists are those of a moment of the day. -/
theorem ofTime_eq_of_valid (h : t.Valid) :
    ofTime t = .ok (t.totalMillis * microsPerMilli) ∧ 0 ≤ t.totalMillis * microsPerMilli ∧
      t.totalMillis * microsPerMilli < microsPerDay := by
  have hnonneg := t.totalMillis_nonneg
  have hlt := Time.totalMillis_lt h
  simp only [Time.millisPerDay] at hlt
  simp only [ofTime_eq_ok_iff, microsPerMilli, microsPerDay, true_and]
  omega

theorem toTime_of_valid (h : t.Valid) : toTime (t.totalMillis * microsPerMilli) = t := by
  obtain ⟨-, hnonneg, hlt⟩ := ofTime_eq_of_valid h
  have hmillis : t.totalMillis * microsPerMilli / microsPerMilli = t.totalMillis :=
    Int.mul_ediv_cancel _ (by decide)
  rw [toTime, Int.emod_eq_of_lt hnonneg hlt, hmillis, Time.ofMillis_totalMillis h]

/-- **A timestamp that exists is read back from its form.** -/
theorem toTimestamp_of_ofTimestamp {t : Timestamp} (h : t.Valid) {micros : Int}
    (hmicros : ofTimestamp t = .ok micros) : toTimestamp micros = .ok t := by
  obtain ⟨hdate, htime⟩ := h
  obtain ⟨days, time, hdays, hofTime, rfl, -, -⟩ := ofTimestamp_eq_ok_iff.1 hmicros
  obtain ⟨hmillis, hnonneg, hlt⟩ := ofTime_eq_of_valid htime
  obtain rfl : t.time.totalMillis * microsPerMilli = time := by
    rw [hmillis] at hofTime
    exact Except.ok.inj hofTime
  have hpos : microsPerDay ≠ 0 := by decide
  have hday : (days * microsPerDay + t.time.totalMillis * microsPerMilli) / microsPerDay = days := by
    rw [Int.add_comm, Int.add_mul_ediv_right _ _ hpos, Int.ediv_eq_zero_of_lt hnonneg hlt,
      Int.zero_add]
  have hrest : (days * microsPerDay + t.time.totalMillis * microsPerMilli) % microsPerDay =
      t.time.totalMillis * microsPerMilli := by
    rw [Int.add_comm, Int.add_mul_emod_self_right, Int.emod_eq_of_lt hnonneg hlt]
  rw [toTimestamp, hday, hrest, toDate_of_ofDate hdate hdays, toTime_of_valid htime]
  rfl

end PortableSql.Postgres
