import PortableSql.Proofs.Postgres.Wire

/-!
# Numbers on PostgreSQL's wire and back

A number on the wire is that of a date, a time of day or a timestamp that exists, and this is written
as the same number again, with two exceptions. A timestamp is written as the start of its day and the
time since then, so one on the day that is cut off by the least number of 64 bits is refused, though it
has a number. The end of a day is written as such, and read as the start of a day.
-/
namespace PortableSql.Postgres

/-- The first midnight with a number of 64 bits. -/
def firstMidnight : Int := -106751991 * microsPerDay

/-- The microseconds of a timestamp since the start of 2000, be they written or not. -/
def exactMicros (t : Timestamp) : Int :=
  (JulianDay.ofDate t.date - epoch) * microsPerDay + t.time.totalMillis * microsPerMilli

/-! ## Dates -/

theorem epoch_add_mem_range {days : Int} (h : IntType.int32.Fits days) :
    JulianDay.least ≤ days + epoch ∧ days + epoch ≤ JulianDay.greatest := by
  have hleast : JulianDay.least ≤ IntType.int32.least + epoch := by decide
  have hgreatest : IntType.int32.greatest + epoch ≤ JulianDay.greatest := by decide
  obtain ⟨hlow, hhigh⟩ := h
  omega

/-- **A number of days is that of a date**, which is written as this number. -/
theorem exists_toDate {days : Int} (h : IntType.int32.Fits days) :
    ∃ d, toDate days = .ok d ∧ d.Valid ∧ ofDate d = .ok days := by
  obtain ⟨d, hcivil, hvalid, hnumber⟩ := JulianDay.exists_date (epoch_add_mem_range h)
  refine ⟨d, JulianDay.toDate_of_mem_range (epoch_add_mem_range h) hcivil, hvalid, ?_⟩
  rw [ofDate_eq_ok_iff, hnumber, Int.add_sub_cancel]
  exact ⟨rfl, h⟩

/-! ## Times of day -/

theorem totalMillis_toTime (micros : Int) :
    (toTime micros).totalMillis = micros % microsPerDay / microsPerMilli := by
  rw [toTime, Time.totalMillis_ofMillis]
  simp only [microsPerDay, microsPerMilli, Time.millisPerDay]
  omega

/-- A time is written if it is not past the end of the day. -/
theorem ofTime_eq (t : Time) :
    ofTime t = if t.totalMillis ≤ Time.millisPerDay then .ok (t.totalMillis * microsPerMilli)
      else .error (outOfRange t.text) := by
  have hday : t.totalMillis * microsPerMilli ≤ microsPerDay ↔ t.totalMillis ≤ Time.millisPerDay := by
    simp only [microsPerDay, microsPerMilli, Time.millisPerDay]
    omega
  simp only [ofTime, hday]

/-- **The moment that a written time is read as**: its own if it is before the end of the day, and
midnight if it is the end of the day. No later time is written. -/
theorem moment_of_written_time (t : Time) :
    (ofTime t).map (fun micros => (toTime micros).totalMillis) =
      if t.totalMillis < Time.millisPerDay then .ok t.totalMillis
      else if t.totalMillis = Time.millisPerDay then .ok 0
      else .error (outOfRange t.text) := by
  have hnonneg := t.totalMillis_nonneg
  rw [ofTime_eq]
  obtain hlt | heq | hgt := Int.lt_trichotomy t.totalMillis Time.millisPerDay
  · have hmoment : t.totalMillis * microsPerMilli % microsPerDay / microsPerMilli = t.totalMillis := by
      simp only [microsPerDay, microsPerMilli, Time.millisPerDay] at hlt ⊢
      omega
    rw [if_pos hlt.le, if_pos hlt, Except.map, totalMillis_toTime, hmoment]
  · rw [heq]
    rfl
  · rw [if_neg (by omega), if_neg (by omega), if_neg (by omega)]
    rfl

/-- Times that are written are read as the same moment of the day. -/
def MomentsReadBack : Prop :=
  ∀ t micros, ofTime t = .ok micros → (toTime micros).totalMillis = t.totalMillis

/-- The end of a day is written, and read as the start of one. -/
theorem end_of_day_not_read_back : ¬MomentsReadBack := by
  intro h
  have hwritten : ofTime ⟨24, 0, 0, 0⟩ = .ok microsPerDay := by decide
  have hmoment := h ⟨24, 0, 0, 0⟩ microsPerDay hwritten
  revert hmoment
  decide

/-! ## Timestamps -/

/-- The days of a number of microseconds fit by far. -/
theorem fits_days {micros : Int} (h : IntType.int64.Fits micros) :
    IntType.int32.Fits (micros / microsPerDay) := by
  have hleast : IntType.int32.least ≤ IntType.int64.least / microsPerDay := by decide
  have hgreatest : IntType.int64.greatest / microsPerDay ≤ IntType.int32.greatest := by decide
  exact ⟨hleast.trans (Int.ediv_le_ediv (by decide) h.1),
    (Int.ediv_le_ediv (by decide) h.2).trans hgreatest⟩

/-- The start of a day and a moment of it both fit if the moment does and is not on the day that is cut
off. -/
theorem fits_day_iff {days moment : Int} (hnonneg : 0 ≤ moment) (hlt : moment < microsPerDay) :
    IntType.int64.Fits (days * microsPerDay) ∧ IntType.int64.Fits (days * microsPerDay + moment) ↔
      firstMidnight ≤ days * microsPerDay + moment ∧
        days * microsPerDay + moment ≤ IntType.int64.greatest := by
  have hleast : IntType.int64.least = -9223372036854775808 := by decide
  have hgreatest : IntType.int64.greatest = 9223372036854775807 := by decide
  simp only [IntType.Fits, hleast, hgreatest, firstMidnight, microsPerDay] at hlt ⊢
  omega

/-- **A timestamp that exists is written if its number fits** and it is not on the day that is cut
off. -/
theorem ofTimestamp_of_valid {t : Timestamp} (h : t.Valid)
    (hdays : IntType.int32.Fits (JulianDay.ofDate t.date - epoch)) :
    ofTimestamp t =
      if firstMidnight ≤ exactMicros t ∧ exactMicros t ≤ IntType.int64.greatest then
        .ok (exactMicros t)
      else .error (outOfRange t.text) := by
  obtain ⟨htime, hnonneg, hlt⟩ := ofTime_eq_of_valid h.2
  have hdate : ofDate t.date = .ok (JulianDay.ofDate t.date - epoch) :=
    ofDate_eq_ok_iff.2 ⟨rfl, hdays⟩
  -- the product and the sum are checked one after the other
  rw [exactMicros, ofTimestamp, htime, hdate, ← if_congr (fits_day_iff hnonneg hlt) rfl rfl]
  rfl

/-- **A number of microseconds is that of a timestamp**, up to what is less than a millisecond. -/
theorem exists_toTimestamp {micros : Int} (h : IntType.int64.Fits micros) :
    ∃ t, toTimestamp micros = .ok t ∧ t.Valid ∧
      IntType.int32.Fits (JulianDay.ofDate t.date - epoch) ∧
      exactMicros t = micros - micros % microsPerMilli := by
  obtain ⟨d, htoDate, hvalid, hofDate⟩ := exists_toDate (fits_days h)
  obtain ⟨hdays, hfits⟩ := ofDate_eq_ok_iff.1 hofDate
  refine ⟨⟨d, toTime (micros % microsPerDay)⟩, ?_, ⟨hvalid, Time.valid_ofMillis _⟩, ?_, ?_⟩
  · rw [toTimestamp, htoDate]
    rfl
  · rwa [← hdays]
  · rw [exactMicros, ← hdays, totalMillis_toTime]
    simp only [microsPerDay, microsPerMilli]
    omega

/-- **Numbers on the wire are written back from the first midnight on.** Every number of 32 bits is that
of a date that exists and is written as the number. Every number of 64 bits is that of a timestamp that
exists, and if it is a whole number of milliseconds the timestamp is written as the number, or refused
because it is before the first midnight. A timestamp that exists, on a date with a number of 32 bits, is
written as its exact number of microseconds or refused, and refused only if that number is too large or
before the first midnight. -/
theorem numbers_written_back (days micros : Int) (t : Timestamp) :
    (IntType.int32.Fits days → ∃ d, toDate days = .ok d ∧ d.Valid ∧ ofDate d = .ok days) ∧
    (IntType.int64.Fits micros → ∃ read, toTimestamp micros = .ok read ∧ read.Valid ∧
      (micros % microsPerMilli = 0 →
        ofTimestamp read =
          if firstMidnight ≤ micros then .ok micros else .error (outOfRange read.text))) ∧
    (t.Valid → IntType.int32.Fits (JulianDay.ofDate t.date - epoch) →
      ofTimestamp t =
        if firstMidnight ≤ exactMicros t ∧ exactMicros t ≤ IntType.int64.greatest then
          .ok (exactMicros t)
        else .error (outOfRange t.text)) := by
  refine ⟨exists_toDate, ?_, ofTimestamp_of_valid⟩
  intro hfits
  obtain ⟨read, htimestamp, hvalid, hdays, hexact⟩ := exists_toTimestamp hfits
  refine ⟨read, htimestamp, hvalid, fun hmillis => ?_⟩
  rw [hmillis, Int.sub_zero] at hexact
  simp only [ofTimestamp_of_valid hvalid hdays, hexact, hfits.2, and_true]

/-- The first midnight is written back, and the last millisecond before it is refused. -/
theorem numbers_written_back_first_midnight :
    let before : Timestamp := ⟨⟨-290278, 12, 22⟩, ⟨23, 59, 59, 999⟩⟩
    IntType.int32.Fits (-106751991) ∧
      (∃ d, toDate (-106751991) = .ok d ∧ d.Valid ∧ ofDate d = .ok (-106751991)) ∧
      IntType.int64.Fits firstMidnight ∧ firstMidnight % microsPerMilli = 0 ∧
      (∃ t, toTimestamp firstMidnight = .ok t ∧ t.Valid ∧ ofTimestamp t = .ok firstMidnight) ∧
      before.Valid ∧ IntType.int32.Fits (JulianDay.ofDate before.date - epoch) ∧
      ofTimestamp before = .error (outOfRange before.text) := by
  intro before
  have hdays : IntType.int32.Fits (-106751991) := by decide
  have hmicros : IntType.int64.Fits firstMidnight := by decide
  have hmillis : firstMidnight % microsPerMilli = 0 := by decide
  have hvalid : before.Valid := by decide
  have hdate : IntType.int32.Fits (JulianDay.ofDate before.date - epoch) := by decide
  have hbefore : ¬(firstMidnight ≤ exactMicros before ∧
      exactMicros before ≤ IntType.int64.greatest) := by decide
  obtain ⟨hwritten, hread, hrefused⟩ := numbers_written_back (-106751991) firstMidnight before
  obtain ⟨t, htimestamp, ht, hback⟩ := hread hmicros
  refine ⟨hdays, hwritten hdays, hmicros, hmillis, ⟨t, htimestamp, ht, hback hmillis⟩, hvalid, hdate, ?_⟩
  rw [hrefused hvalid hdate, if_neg hbefore]

/-- Numbers on the wire are those of dates and timestamps that exist, and are written back; of a
timestamp, if it is a whole number of milliseconds. -/
structure NumbersWrittenBack : Prop where
  dates : ∀ days, IntType.int32.Fits days → ∃ d, toDate days = .ok d ∧ ofDate d = .ok days
  timestamps : ∀ micros, IntType.int64.Fits micros → ∃ t, toTimestamp micros = .ok t ∧ t.Valid ∧
    (micros % microsPerMilli = 0 → ofTimestamp t = .ok micros)

/-- The first day with numbers has no start with a number, so its timestamps are refused. -/
theorem first_day_not_written_back : ¬NumbersWrittenBack := by
  intro h
  have hread : toTimestamp (-9223372036854775000) =
      .ok ⟨⟨-290278, 12, 22⟩, ⟨19, 59, 5, 225⟩⟩ := by decide
  obtain ⟨t, htimestamp, -, hback⟩ := h.timestamps (-9223372036854775000) (by decide)
  rw [hread] at htimestamp
  obtain rfl := Except.ok.inj htimestamp
  have hwritten := hback (by decide)
  revert hwritten
  decide

end PortableSql.Postgres
