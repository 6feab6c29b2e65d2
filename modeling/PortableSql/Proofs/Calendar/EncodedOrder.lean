import PortableSql.Proofs.Calendar.Order
import PortableSql.Proofs.Postgres.WireNumbers
import PortableSql.Proofs.SqlServer.Wire

/-!
# Encodings keep chronological order

The number of a date, the microseconds that PostgreSQL is sent and the days and fractions that SQL
Server is sent are in chronological order, so that a range of dates or timestamps is a range of what
they are encoded as. Reading keeps the order too, though it drops what is less than a millisecond.
-/
namespace PortableSql

/-! ## PostgreSQL -/

namespace Postgres

/-- What is written of a timestamp is its exact number of microseconds. -/
theorem eq_exactMicros_of_ofTimestamp {t : Timestamp} {micros : Int}
    (h : ofTimestamp t = .ok micros) : micros = exactMicros t := by
  obtain ⟨days, time, hdays, htime, rfl, -, -⟩ := ofTimestamp_eq_ok_iff.1 h
  rw [exactMicros, (ofDate_eq_ok_iff.1 hdays).1, (ofTime_eq_ok_iff.1 htime).1]

theorem exactMicros_eq (t : Timestamp) :
    exactMicros t = (t.totalMillis - epoch * Time.millisPerDay) * microsPerMilli := by
  simp only [exactMicros, Timestamp.totalMillis, epoch, microsPerDay, Time.millisPerDay, microsPerMilli]
  omega

theorem exactMicros_lt_iff (a b : Timestamp) :
    exactMicros a < exactMicros b ↔ a.totalMillis < b.totalMillis := by
  rw [exactMicros_eq, exactMicros_eq]
  simp only [microsPerMilli]
  omega

/-- **Timestamps are written in chronological order.** -/
theorem ofTimestamp_lt_iff {a b : Timestamp} (ha : a.Valid) (hb : b.Valid) {m n : Int}
    (hm : ofTimestamp a = .ok m) (hn : ofTimestamp b = .ok n) : a.compare b = .lt ↔ m < n := by
  rw [eq_exactMicros_of_ofTimestamp hm, eq_exactMicros_of_ofTimestamp hn, exactMicros_lt_iff]
  exact (Timestamp.compares ha hb).eq_lt

/-- **Numbers are read in chronological order.** -/
theorem exists_toTimestamp_le {m n : Int} (hm : IntType.int64.Fits m) (hn : IntType.int64.Fits n)
    (hle : m ≤ n) :
    ∃ a b, toTimestamp m = .ok a ∧ toTimestamp n = .ok b ∧ a.compare b ≠ .gt := by
  obtain ⟨a, hreadA, ha, -, hexactA⟩ := exists_toTimestamp hm
  obtain ⟨b, hreadB, hb, -, hexactB⟩ := exists_toTimestamp hn
  refine ⟨a, b, hreadA, hreadB, (Timestamp.compares ha hb).ne_gt.2 ?_⟩
  have hmillis := exactMicros_lt_iff b a
  rw [hexactA, hexactB] at hmillis
  simp only [microsPerMilli] at hmillis
  omega

end Postgres

/-! ## SQL Server -/

namespace SqlServer

/-- The days decide, and the fractions of the day if they do not. -/
def WireTimestamp.Before (a b : WireTimestamp) : Prop :=
  a.days < b.days ∨ a.days = b.days ∧ a.time.increments < b.time.increments

instance (a b : WireTimestamp) : Decidable (a.Before b) :=
  inferInstanceAs (Decidable (_ ∨ _))

/-- What is written of a date is its number. -/
theorem toNat_of_ofDate {d : Date} {days : UInt32} (h : ofDate d = .ok days) :
    (days.toNat : Int) = JulianDay.ofDate d - dateEpoch := by
  rw [ofDate] at h
  split at h
  · next hrange =>
    cases h
    simp only [lastDay] at hrange
    rw [UInt32.toNat_ofNat']
    omega
  · cases h

/-- What is written of a time that exists are its milliseconds, as fractions at the written scale. -/
theorem toNat_of_ofTime {t : Time} {time : WireTime} (h : ofTime t = .ok time) :
    (time.increments.toNat : Int) = t.totalMillis * 10000 := by
  have hnonneg := t.totalMillis_nonneg
  rw [ofTime] at h
  split at h
  · next hlt =>
    cases h
    simp only [Time.millisPerDay] at hlt
    have hticks : ticksPerMilli.toNat = 10000 := by decide
    rw [UInt64.toNat_mul, UInt64.toNat_ofNat', hticks]
    omega
  · cases h

theorem before_iff {a b : Timestamp} {m n : WireTimestamp} (hm : ofTimestamp a = .ok m)
    (hn : ofTimestamp b = .ok n) :
    m.Before n ↔ JulianDay.ofDate a.date < JulianDay.ofDate b.date ∨
      JulianDay.ofDate a.date = JulianDay.ofDate b.date ∧ a.time.totalMillis < b.time.totalMillis := by
  simp only [ofTimestamp, Result.bind_eq_ok_iff] at hm hn
  obtain ⟨daysA, hdaysA, timeA, htimeA, hm⟩ := hm
  obtain ⟨daysB, hdaysB, timeB, htimeB, hn⟩ := hn
  cases hm
  cases hn
  have hnumberA := toNat_of_ofDate hdaysA
  have hnumberB := toNat_of_ofDate hdaysB
  have hmillisA := toNat_of_ofTime htimeA
  have hmillisB := toNat_of_ofTime htimeB
  rw [WireTimestamp.Before, UInt32.lt_iff_toNat_lt, ← UInt32.toNat_inj, UInt64.lt_iff_toNat_lt]
  dsimp only
  omega

/-- **Timestamps are written in chronological order.** -/
theorem ofTimestamp_before_iff {a b : Timestamp} (ha : a.Valid) (hb : b.Valid) {m n : WireTimestamp}
    (hm : ofTimestamp a = .ok m) (hn : ofTimestamp b = .ok n) : a.compare b = .lt ↔ m.Before n := by
  have hnonneg := a.time.totalMillis_nonneg
  have hnonneg' := b.time.totalMillis_nonneg
  have hlt := Time.totalMillis_lt ha.2
  have hlt' := Time.totalMillis_lt hb.2
  rw [(Timestamp.compares ha hb).eq_lt, before_iff hm hn]
  simp only [Timestamp.totalMillis, Time.millisPerDay] at hlt hlt' ⊢
  omega

end SqlServer

/-! ## All encodings -/

/-- **Encodings keep chronological order.** Of dates that exist, one is before another exactly if its
number is smaller; of timestamps that exist and are written, one is before another exactly if its
microseconds are fewer on PostgreSQL, and if its days and fractions come first on SQL Server. Every two
numbers of 64 bits are read by PostgreSQL as timestamps in the order of the numbers. -/
theorem encodings_keep_order :
    (∀ a b : Date, a.Valid → b.Valid →
      (a.compare b = .lt ↔ JulianDay.ofDate a < JulianDay.ofDate b)) ∧
    (∀ a b : Timestamp, a.Valid → b.Valid →
      (∀ m n, Postgres.ofTimestamp a = .ok m → Postgres.ofTimestamp b = .ok n →
        (a.compare b = .lt ↔ m < n)) ∧
      ∀ m n, SqlServer.ofTimestamp a = .ok m → SqlServer.ofTimestamp b = .ok n →
        (a.compare b = .lt ↔ m.Before n)) ∧
    ∀ m n, IntType.int64.Fits m → IntType.int64.Fits n → m ≤ n →
      ∃ a b, Postgres.toTimestamp m = .ok a ∧ Postgres.toTimestamp n = .ok b ∧
        a.compare b ≠ .gt := by
  refine ⟨?_, ?_, ?_⟩
  · intro a b ha hb
    exact (Date.compares ha hb).eq_lt
  · intro a b ha hb
    exact ⟨fun _ _ hm hn => Postgres.ofTimestamp_lt_iff ha hb hm hn,
      fun _ _ hm hn => SqlServer.ofTimestamp_before_iff ha hb hm hn⟩
  · intro m n hm hn hle
    exact Postgres.exists_toTimestamp_le hm hn hle

/-- The last millisecond of a leap day and the midnight after it, and the last microsecond before the
year 2000 and the midnight after that. -/
theorem encodings_keep_order_at_midnight :
    let a : Timestamp := ⟨⟨1896, 2, 29⟩, ⟨23, 59, 59, 999⟩⟩
    let b : Timestamp := ⟨⟨1896, 3, 1⟩, ⟨0, 0, 0, 0⟩⟩
    a.Valid ∧ b.Valid ∧ Postgres.ofTimestamp a = .ok (-3276720000001000) ∧
      Postgres.ofTimestamp b = .ok (-3276720000000000) ∧
      SqlServer.ofTimestamp a = .ok ⟨692193, ⟨863999990000, 7⟩⟩ ∧
      SqlServer.ofTimestamp b = .ok ⟨692194, ⟨0, 7⟩⟩ ∧
      JulianDay.ofDate a.date < JulianDay.ofDate b.date ∧ a.compare b = .lt ∧
      SqlServer.WireTimestamp.Before ⟨692193, ⟨863999990000, 7⟩⟩ ⟨692194, ⟨0, 7⟩⟩ ∧
      IntType.int64.Fits (-1) ∧ IntType.int64.Fits 0 ∧
      ∃ c d, Postgres.toTimestamp (-1) = .ok c ∧ Postgres.toTimestamp 0 = .ok d ∧
        c.compare d ≠ .gt := by
  intro a b
  have ha : a.Valid := by decide
  have hb : b.Valid := by decide
  have hmicros : Postgres.ofTimestamp a = .ok (-3276720000001000) := by decide
  have hmicros' : Postgres.ofTimestamp b = .ok (-3276720000000000) := by decide
  have hform : SqlServer.ofTimestamp a = .ok ⟨692193, ⟨863999990000, 7⟩⟩ := by decide
  have hform' : SqlServer.ofTimestamp b = .ok ⟨692194, ⟨0, 7⟩⟩ := by decide
  have hfits : IntType.int64.Fits (-1) := by decide
  have hfits' : IntType.int64.Fits 0 := by decide
  obtain ⟨hdates, htimestamps, hread⟩ := encodings_keep_order
  obtain ⟨hpostgres, hsqlServer⟩ := htimestamps a b ha hb
  have hbefore : a.compare b = .lt := (hpostgres _ _ hmicros hmicros').2 (by decide)
  exact ⟨ha, hb, hmicros, hmicros', hform, hform', (hdates a.date b.date ha.1 hb.1).1 (by decide),
    hbefore, (hsqlServer _ _ hform hform').1 hbefore, hfits, hfits',
    hread (-1) 0 hfits hfits' (by decide)⟩

end PortableSql
