import PortableSql.Proofs.SqlServer.Wire
import PortableSql.SqlServer.Cells

/-!
# What SQL Server's numbers are read as

Every number of days on the wire is that of a date, counted from the year 1 or from 1900. A time of
day is read to the millisecond: fractions of a second are rounded down, three-hundredths of a second
to the nearest one, and minutes are exact. That is so within a day. A time that is not is not refused:
whole days of it are left out, and the date stays the one that was sent.

## Main statements

* `decoding_exact_within_day` — what every form with a time within the day is read as.
* `whole_days_left_out` — what every form is read as, whatever its time.
-/
namespace PortableSql.SqlServer

/-! ## Dates -/

/-- The first date that the older types count from. -/
def firstOfOlder : Date := ⟨1900, 1, 1⟩

theorem ofDate_firstStored : JulianDay.ofDate firstStored = dateEpoch := by decide

theorem ofDate_firstOfOlder : JulianDay.ofDate firstOfOlder = datetimeEpoch := by decide

/-- Every number in the range is that of a date that exists. -/
theorem exists_toDate_julianDay {jdn : Int} (h : JulianDay.least ≤ jdn ∧ jdn ≤ JulianDay.greatest) :
    ∃ d, JulianDay.toDate jdn = .ok d ∧ d.Valid ∧ JulianDay.ofDate d = jdn := by
  obtain ⟨d, hcivil, hvalid, hnumber⟩ := JulianDay.exists_date h
  exact ⟨d, JulianDay.toDate_of_mem_range h hcivil, hvalid, hnumber⟩

/-- **Every number of days is that of a date**, counted from the year 1. -/
theorem exists_toDate (days : UInt32) :
    ∃ d, toDate days = .ok d ∧ d.Valid ∧
      JulianDay.ofDate d = JulianDay.ofDate firstStored + days.toNat := by
  have hlow : JulianDay.least ≤ dateEpoch := by decide
  have hhigh : 2 ^ 32 + dateEpoch ≤ JulianDay.greatest := by decide
  have hlt := days.toNat_lt
  have hmem : JulianDay.least ≤ days.toNat + dateEpoch ∧
      days.toNat + dateEpoch ≤ JulianDay.greatest := by omega
  obtain ⟨d, hread, hvalid, hnumber⟩ := exists_toDate_julianDay hmem
  exact ⟨d, hread, hvalid, by rw [hnumber, ofDate_firstStored, Int.add_comm]⟩

/-- **Every number of days of the older types is that of a date**, counted from 1900. -/
theorem exists_toDate_older {days : Int} (hlow : -2 ^ 31 ≤ days) (hhigh : days < 2 ^ 31) :
    ∃ d, JulianDay.toDate (days + datetimeEpoch) = .ok d ∧ d.Valid ∧
      JulianDay.ofDate d = JulianDay.ofDate firstOfOlder + days := by
  have hleast : JulianDay.least ≤ -2 ^ 31 + datetimeEpoch := by decide
  have hgreatest : 2 ^ 31 + datetimeEpoch ≤ JulianDay.greatest := by decide
  have hmem : JulianDay.least ≤ days + datetimeEpoch ∧
      days + datetimeEpoch ≤ JulianDay.greatest := by omega
  obtain ⟨d, hread, hvalid, hnumber⟩ := exists_toDate_julianDay hmem
  exact ⟨d, hread, hvalid, by rw [hnumber, ofDate_firstOfOlder, Int.add_comm]⟩

/-! ## Fractions of a second -/

/-- Ten million fractions of the written scale make a second, whatever scale they come from. -/
theorem toNat_rescale (scale : UInt8) : (rescale scale).toNat = 10 ^ (7 - scale.toNat) := by
  have hpow : 10 ^ (7 - scale.toNat) ≤ 10 ^ 7 := Nat.pow_le_pow_right (by decide) (Nat.sub_le _ _)
  have hscale : writtenScale.toNat = 7 := rfl
  rw [rescale, hscale, UInt64.toNat_ofNat', Nat.mod_eq_of_lt (by omega)]

/-- **What fractions of a second are read as**: they are brought to the written scale in 64 bits, and
of their milliseconds whole days are left out. -/
theorem totalMillis_toTime (t : WireTime) :
    (toTime t).totalMillis =
      ((t.increments.toNat * 10 ^ (7 - t.scale.toNat) % 2 ^ 64 / 10000 % 86400000 : Nat) : Int) := by
  have hticks : ticksPerMilli.toNat = 10000 := by decide
  rw [toTime, Time.totalMillis_ofMillis, UInt64.toNat_div, UInt64.toNat_mul, toNat_rescale, hticks]
  simp only [Time.millisPerDay]
  omega

theorem valid_toTime (t : WireTime) : (toTime t).Valid := Time.valid_ofMillis _

/-- Bringing fractions to the written scale and dividing rounds down once. -/
theorem rescaled_div (increments : Nat) {scale : Nat} (h : scale ≤ 7) :
    increments * 10 ^ (7 - scale) / 10000 = increments * 1000 / 10 ^ scale := by
  have hpow : 10 ^ (7 - scale) * 10 ^ scale = 1000 * 10000 := by
    rw [← Nat.pow_add, Nat.sub_add_cancel h]
  calc increments * 10 ^ (7 - scale) / 10000
      = increments * 10 ^ (7 - scale) * 10 ^ scale / (10000 * 10 ^ scale) :=
        (Nat.mul_div_mul_right _ _ (Nat.pow_pos (by decide))).symm
    _ = increments * 1000 * 10000 / (10 ^ scale * 10000) := by
        rw [Nat.mul_assoc, hpow, ← Nat.mul_assoc, Nat.mul_comm 10000]
    _ = increments * 1000 / 10 ^ scale := Nat.mul_div_mul_right _ _ (by decide)

/-- Less than a day stays so at the written scale. -/
theorem rescaled_lt {increments scale : Nat} (h : scale ≤ 7)
    (hlt : increments < 86400 * 10 ^ scale) :
    increments * 10 ^ (7 - scale) < 86400 * 10 ^ 7 := by
  calc increments * 10 ^ (7 - scale) < 86400 * 10 ^ scale * 10 ^ (7 - scale) :=
        Nat.mul_lt_mul_of_pos_right hlt (Nat.pow_pos (by decide))
    _ = 86400 * 10 ^ 7 := by rw [Nat.mul_assoc, ← Nat.pow_add, Nat.add_sub_cancel' h]

/-- **Within the day nothing is lost but what is less than a millisecond.** -/
theorem totalMillis_toTime_of_lt {t : WireTime} (h : t.scale.toNat ≤ 7)
    (hlt : t.increments.toNat < 86400 * 10 ^ t.scale.toNat) :
    (toTime t).totalMillis = ((t.increments.toNat * 1000 / 10 ^ t.scale.toNat : Nat) : Int) := by
  have hday := rescaled_lt h hlt
  rw [totalMillis_toTime, ← rescaled_div _ h, Nat.mod_eq_of_lt (by omega), Nat.mod_eq_of_lt (by omega)]

/-- A time of a day or more is not read as what it is. -/
theorem totalMillis_toTime_eq_iff {t : WireTime} (h : t.scale.toNat ≤ 7) :
    (toTime t).totalMillis = ((t.increments.toNat * 1000 / 10 ^ t.scale.toNat : Nat) : Int) ↔
      t.increments.toNat < 86400 * 10 ^ t.scale.toNat := by
  refine ⟨fun hexact => ?_, totalMillis_toTime_of_lt h⟩
  have hlt := Time.totalMillis_lt (valid_toTime t)
  rw [hexact, Time.millisPerDay] at hlt
  have hday : t.increments.toNat * 1000 / 10 ^ t.scale.toNat < 86400000 := by omega
  rw [Nat.div_lt_iff_lt_mul (Nat.pow_pos (by decide))] at hday
  omega

/-- The fractions at the written scale are counted rightly if they fit 64 bits. -/
theorem toNat_mul_rescale_eq_iff (t : WireTime) :
    (t.increments * rescale t.scale).toNat = t.increments.toNat * (rescale t.scale).toNat ↔
      t.increments.toNat * 10 ^ (7 - t.scale.toNat) < 2 ^ 64 := by
  rw [UInt64.toNat_mul, toNat_rescale, Nat.mod_eq_iff_lt (by decide)]

/-! ## The older types -/

/-- **What days and three-hundredths of a second are read as.** -/
theorem exists_ofDatetime (days : Int32) (ticks : UInt32) :
    ∃ read, ofDatetime days ticks = .ok read ∧ read.Valid ∧
      JulianDay.ofDate read.date = JulianDay.ofDate firstOfOlder + days.toInt ∧
      read.time.totalMillis = ((ticks.toNat : Int) * 10 + 1) / 3 % Time.millisPerDay := by
  obtain ⟨d, hread, hvalid, hnumber⟩ := exists_toDate_older (Int32.le_toInt days) (Int32.toInt_lt days)
  refine ⟨⟨d, Time.ofMillis (((ticks.toNat : Int) * 10 + 1) / 3)⟩, ?_,
    ⟨hvalid, Time.valid_ofMillis _⟩, hnumber, Time.totalMillis_ofMillis _⟩
  rw [ofDatetime, hread]
  rfl

/-- Three-hundredths of a second are read to the nearest millisecond exactly within the day. -/
theorem near_ticks_iff (ticks : Nat) :
    2 * |300 * (((ticks : Int) * 10 + 1) / 3 % Time.millisPerDay) - 1000 * ticks| < 300 ↔
      ticks < 25920000 := by
  simp only [Time.millisPerDay]
  constructor
  · intro hnear
    have hbelow : |300 * (((ticks : Int) * 10 + 1) / 3 % 86400000) - 1000 * ticks| < 150 := by omega
    have hlow := (abs_lt.1 hbelow).1
    omega
  · intro hlt
    have hday : ((ticks : Int) * 10 + 1) / 3 < 86400000 := by omega
    rw [Int.emod_eq_of_lt (by omega) hday]
    have hnear : |300 * (((ticks : Int) * 10 + 1) / 3) - 1000 * ticks| ≤ 100 :=
      abs_le.2 ⟨by omega, by omega⟩
    omega

/-- **What days and minutes are read as.** -/
theorem exists_ofSmallDatetime (days minutes : UInt16) :
    ∃ read, ofSmallDatetime days minutes = .ok read ∧ read.Valid ∧
      JulianDay.ofDate read.date = JulianDay.ofDate firstOfOlder + days.toNat ∧
      read.time.totalMillis = (minutes.toNat : Int) * 60000 % Time.millisPerDay := by
  have hlow : -2 ^ 31 ≤ (days.toNat : Int) := by omega
  have hhigh : (days.toNat : Int) < 2 ^ 31 := by
    have hlt := days.toNat_lt
    omega
  obtain ⟨d, hread, hvalid, hnumber⟩ := exists_toDate_older hlow hhigh
  refine ⟨⟨d, Time.ofMillis ((minutes.toNat : Int) * 60000)⟩, ?_,
    ⟨hvalid, Time.valid_ofMillis _⟩, hnumber, Time.totalMillis_ofMillis _⟩
  rw [ofSmallDatetime, hread]
  rfl

/-! ## Timestamps -/

/-- **What days and fractions of a second are read as**: the fractions do not move the date. -/
theorem exists_toTimestamp (days : UInt32) (t : WireTime) :
    ∃ d, toTimestamp ⟨days, t⟩ = .ok ⟨d, toTime t⟩ ∧ d.Valid ∧
      JulianDay.ofDate d = JulianDay.ofDate firstStored + days.toNat := by
  obtain ⟨d, hread, hvalid, hnumber⟩ := exists_toDate days
  refine ⟨d, ?_, hvalid, hnumber⟩
  rw [toTimestamp, hread]
  rfl

theorem ofDate_of_toNat {d : Date} {days : UInt32}
    (hnumber : JulianDay.ofDate d = JulianDay.ofDate firstStored + days.toNat)
    (hdays : days.toNat ≤ 3652058) : ofDate d = .ok days := by
  have hback : JulianDay.ofDate d - dateEpoch = days.toNat := by
    rw [hnumber, ofDate_firstStored]
    omega
  have hrange : 0 ≤ (days.toNat : Int) ∧ (days.toNat : Int) ≤ lastDay := by
    simp only [lastDay]
    omega
  simp only [ofDate, hback, if_pos hrange, Int.toNat_natCast, UInt32.ofNat_toNat]

theorem ofTime_toTime {increments : UInt64} (hmillis : increments.toNat % 10000 = 0)
    (hlt : increments.toNat < 86400 * 10 ^ 7) :
    ofTime (toTime ⟨increments, writtenScale⟩) = .ok ⟨increments, writtenScale⟩ := by
  have htotal : (toTime ⟨increments, writtenScale⟩).totalMillis =
      ((increments.toNat / 10000 : Nat) : Int) := by
    have hscale : writtenScale.toNat ≤ 7 := by decide
    rw [totalMillis_toTime_of_lt hscale hlt]
    exact congrArg Nat.cast (Nat.mul_div_mul_right increments.toNat 10000 (by decide : 0 < 1000))
  have hday : ((increments.toNat / 10000 : Nat) : Int) < Time.millisPerDay := by
    simp only [Time.millisPerDay]
    omega
  have hback : UInt64.ofNat (increments.toNat / 10000) * ticksPerMilli = increments := by
    have hticks : ticksPerMilli.toNat = 10000 := by decide
    rw [← UInt64.toNat_inj, UInt64.toNat_mul, UInt64.toNat_ofNat', hticks]
    omega
  simp only [ofTime, htotal, if_pos hday, Int.toNat_natCast, hback]

/-- **A form of whole milliseconds is written back**, if its date is one that the server stores. -/
theorem exists_written_back {days : UInt32} {increments : UInt64} (hdays : days.toNat ≤ 3652058)
    (hmillis : increments.toNat % 10000 = 0) (hlt : increments.toNat < 86400 * 10 ^ 7) :
    ∃ read, toTimestamp ⟨days, ⟨increments, writtenScale⟩⟩ = .ok read ∧
      ofTimestamp read = .ok ⟨days, ⟨increments, writtenScale⟩⟩ := by
  obtain ⟨d, hread, -, hnumber⟩ := exists_toTimestamp days ⟨increments, writtenScale⟩
  refine ⟨_, hread, ?_⟩
  rw [ofTimestamp, ofDate_of_toNat hnumber hdays, ofTime_toTime hmillis hlt]
  rfl

/-- **Within the day, what is sent is read exactly.** A time of up to seven decimal places is read as
its whole milliseconds. Days and three-hundredths of a second are read as the date that many days after
the start of 1900 and less than half a millisecond beside the exact time; days and minutes are read as
the date and the exact time. And a timestamp at the written scale, of whole milliseconds and on a date
that the server stores, is read as one that is written as the same form. -/
theorem decoding_exact_within_day :
    (∀ t : WireTime, t.scale.toNat ≤ 7 → t.increments.toNat < 86400 * 10 ^ t.scale.toNat →
      (toTime t).Valid ∧
        (toTime t).totalMillis = ((t.increments.toNat * 1000 / 10 ^ t.scale.toNat : Nat) : Int)) ∧
    (∀ (days : Int32) (ticks : UInt32), ticks.toNat < 25920000 →
      ∃ read, ofDatetime days ticks = .ok read ∧ read.Valid ∧
        JulianDay.ofDate read.date = JulianDay.ofDate firstOfOlder + days.toInt ∧
        2 * |300 * read.time.totalMillis - 1000 * ticks.toNat| < 300) ∧
    (∀ days minutes : UInt16, minutes.toNat < 1440 →
      ∃ read, ofSmallDatetime days minutes = .ok read ∧ read.Valid ∧
        JulianDay.ofDate read.date = JulianDay.ofDate firstOfOlder + days.toNat ∧
        read.time.totalMillis = 60000 * minutes.toNat) ∧
    ∀ (days : UInt32) (increments : UInt64), days.toNat ≤ 3652058 →
      increments.toNat % 10000 = 0 → increments.toNat < 86400 * 10 ^ 7 →
      ∃ read, toTimestamp ⟨days, ⟨increments, writtenScale⟩⟩ = .ok read ∧
        ofTimestamp read = .ok ⟨days, ⟨increments, writtenScale⟩⟩ := by
  refine ⟨?_, ?_, ?_, ?_⟩
  · intro t hscale hlt
    exact ⟨valid_toTime t, totalMillis_toTime_of_lt hscale hlt⟩
  · intro days ticks hlt
    obtain ⟨read, hread, hvalid, hdate, htime⟩ := exists_ofDatetime days ticks
    refine ⟨read, hread, hvalid, hdate, ?_⟩
    rw [htime]
    exact (near_ticks_iff ticks.toNat).2 hlt
  · intro days minutes hlt
    obtain ⟨read, hread, hvalid, hdate, htime⟩ := exists_ofSmallDatetime days minutes
    refine ⟨read, hread, hvalid, hdate, ?_⟩
    simp only [Time.millisPerDay] at htime
    omega
  · intro days increments hdays hmillis hlt
    exact exists_written_back hdays hmillis hlt

/-- The last moments of the day, in each of the forms. -/
theorem decoding_exact_at_end_of_day :
    (86399999 < 86400 * 10 ^ (3 : UInt8).toNat ∧ (toTime ⟨86399999, 3⟩).totalMillis = 86399999) ∧
    ((25919999 : UInt32).toNat < 25920000 ∧
      ∃ read, ofDatetime (-1) 25919999 = .ok read ∧
        2 * |300 * read.time.totalMillis - 1000 * 25919999| < 300) ∧
    ((1439 : UInt16).toNat < 1440 ∧
      ∃ read, ofSmallDatetime 1 1439 = .ok read ∧ read.time.totalMillis = 60000 * 1439) ∧
    ((3652058 : UInt32).toNat ≤ 3652058 ∧ (863999990000 : UInt64).toNat % 10000 = 0 ∧
      (863999990000 : UInt64).toNat < 86400 * 10 ^ 7 ∧
      ∃ read, toTimestamp ⟨3652058, ⟨863999990000, writtenScale⟩⟩ = .ok read ∧
        ofTimestamp read = .ok ⟨3652058, ⟨863999990000, writtenScale⟩⟩) := by
  obtain ⟨htimes, hdatetimes, hsmall, htimestamps⟩ := decoding_exact_within_day
  refine ⟨⟨by decide, (htimes ⟨86399999, 3⟩ (by decide) (by decide)).2⟩, ⟨by decide, ?_⟩,
    ⟨by decide, ?_⟩, by decide, by decide, by decide, ?_⟩
  · obtain ⟨read, hread, -, -, hclose⟩ := hdatetimes (-1) 25919999 (by decide)
    exact ⟨read, hread, hclose⟩
  · obtain ⟨read, hread, -, -, htime⟩ := hsmall 1 1439 (by decide)
    exact ⟨read, hread, htime⟩
  · exact htimestamps 3652058 863999990000 (by decide) (by decide) (by decide)

/-! ## Times past the end of the day -/

/-- **No form is refused, and whole days of its time are left out.** The date is the one that was sent,
whatever the time, and the time is read as what it is exactly if it is within the day. Fractions of a
second are brought to the written scale in 64 bits, which is right exactly if they fit. -/
theorem whole_days_left_out (t : WireTimestamp) (hscale : t.time.scale.toNat ≤ 7) (days : Int32)
    (ticks : UInt32) (smallDays minutes : UInt16) :
    readTime (.value (.time t.time)) = .ok (toTime t.time) ∧
    (∃ d, toTimestamp t = .ok ⟨d, toTime t.time⟩ ∧ d.Valid ∧
      JulianDay.ofDate d = JulianDay.ofDate firstStored + t.days.toNat) ∧
    ((toTime t.time).Valid ∧
      (toTime t.time).totalMillis =
        ((t.time.increments.toNat * 10 ^ (7 - t.time.scale.toNat) % 2 ^ 64 / 10000 % 86400000 : Nat) :
          Int) ∧
      ((toTime t.time).totalMillis =
          ((t.time.increments.toNat * 1000 / 10 ^ t.time.scale.toNat : Nat) : Int) ↔
        t.time.increments.toNat < 86400 * 10 ^ t.time.scale.toNat) ∧
      ((t.time.increments * rescale t.time.scale).toNat =
          t.time.increments.toNat * (rescale t.time.scale).toNat ↔
        t.time.increments.toNat * 10 ^ (7 - t.time.scale.toNat) < 2 ^ 64)) ∧
    (∃ read, ofDatetime days ticks = .ok read ∧ read.Valid ∧
      JulianDay.ofDate read.date = JulianDay.ofDate firstOfOlder + days.toInt ∧
      read.time.totalMillis = ((ticks.toNat : Int) * 10 + 1) / 3 % Time.millisPerDay ∧
      (2 * |300 * read.time.totalMillis - 1000 * ticks.toNat| < 300 ↔ ticks.toNat < 25920000)) ∧
    ∃ read, ofSmallDatetime smallDays minutes = .ok read ∧ read.Valid ∧
      JulianDay.ofDate read.date = JulianDay.ofDate firstOfOlder + smallDays.toNat ∧
      read.time.totalMillis = (minutes.toNat : Int) * 60000 % Time.millisPerDay ∧
      (read.time.totalMillis = 60000 * minutes.toNat ↔ minutes.toNat < 1440) := by
  refine ⟨rfl, exists_toTimestamp t.days t.time, ⟨valid_toTime t.time, totalMillis_toTime t.time,
    totalMillis_toTime_eq_iff hscale, toNat_mul_rescale_eq_iff t.time⟩, ?_, ?_⟩
  · obtain ⟨read, hread, hvalid, hdate, htime⟩ := exists_ofDatetime days ticks
    refine ⟨read, hread, hvalid, hdate, htime, ?_⟩
    rw [htime]
    exact near_ticks_iff ticks.toNat
  · obtain ⟨read, hread, hvalid, hdate, htime⟩ := exists_ofSmallDatetime smallDays minutes
    refine ⟨read, hread, hvalid, hdate, htime, ?_⟩
    rw [htime, Time.millisPerDay]
    omega

/-- Twenty-five hours, in each of the forms, are read as one hour. -/
theorem whole_days_left_out_past_day :
    (7 : UInt8).toNat ≤ 7 ∧ (toTime ⟨900000000000, 7⟩).totalMillis = 3600000 ∧
      (∃ read, ofDatetime 0 27000000 = .ok read ∧ read.time.totalMillis = 3600000) ∧
      ∃ read, ofSmallDatetime 0 1500 = .ok read ∧ read.time.totalMillis = 3600000 := by
  obtain ⟨-, -, ⟨-, htime, -⟩, ⟨read, hread, -, -, hticks, -⟩, small, hsmall, -, -, hminutes, -⟩ :=
    whole_days_left_out ⟨0, ⟨900000000000, 7⟩⟩ (by decide) 0 27000000 0 1500
  exact ⟨by decide, htime, ⟨read, hread, hticks⟩, small, hsmall, hminutes⟩

/-- A form whose time is a day or more is refused, and nothing is lost in bringing it to the written
scale. -/
structure PastDayRefused : Prop where
  fits : ∀ t : WireTime, t.scale.toNat ≤ 7 → 86400 * 10 ^ t.scale.toNat ≤ t.increments.toNat →
    (t.increments * rescale t.scale).toNat = t.increments.toNat * (rescale t.scale).toNat
  times : ∀ t : WireTime, t.scale.toNat ≤ 7 → 86400 * 10 ^ t.scale.toNat ≤ t.increments.toNat →
    ∃ e, readTime (.value (.time t)) = .error e
  timestamps : ∀ t : WireTimestamp, t.time.scale.toNat ≤ 7 →
    86400 * 10 ^ t.time.scale.toNat ≤ t.time.increments.toNat → ∃ e, toTimestamp t = .error e
  datetimes : ∀ (days : Int32) (ticks : UInt32), 25920000 ≤ ticks.toNat →
    ∃ e, ofDatetime days ticks = .error e
  smallDatetimes : ∀ days minutes : UInt16, 1440 ≤ minutes.toNat →
    ∃ e, ofSmallDatetime days minutes = .error e

/-- Twenty-five hours after the start of the first day are read as one hour after it. -/
theorem past_day_not_refused : ¬PastDayRefused := by
  intro h
  have hread : toTimestamp ⟨0, ⟨900000000000, 7⟩⟩ = .ok ⟨⟨1, 1, 1⟩, ⟨1, 0, 0, 0⟩⟩ := by
    decide +kernel
  obtain ⟨e, hrefused⟩ := h.timestamps ⟨0, ⟨900000000000, 7⟩⟩ (by decide) (by decide)
  rw [hread] at hrefused
  cases hrefused

end PortableSql.SqlServer
