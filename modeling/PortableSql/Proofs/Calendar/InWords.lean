import PortableSql.Proofs.Number.Word
import PortableSql.Proofs.Postgres.Wire
import PortableSql.SqlServer.Wire

/-!
# Dates and times in words of 64 bits

The calendar and the two wires compute with integers of any size. Here every function is written again
with words of 64 bits, step by step: one that does not fit stops it, and so does a number that is
narrowed to a type that does not hold it. Only where a number is too large for the server's type is that
answered, by an error. None of the functions is ever stopped, though the fields of dates and times are
not checked.

## Main statement

* `temporal_arithmetic_fits_words` — the functions in words give what the exact ones give.
-/
namespace PortableSql

open Word (hold_eq ofNat_eq add_eq sub_eq mul_eq div_eq mod_eq)

namespace JulianDay

/-- Number of a date, in words. -/
def ofDateInWords (d : Date) : Word :=
  let month : Word := d.month
  let a := (14 - month) / 12
  let y := d.year + 4800 - a
  let m := month + 12 * a - 3
  d.day + (153 * m + 2) / 5 + 365 * y + y / 4 - y / 100 + y / 400 - 32045

/-- The date with the given number. Its year, month and day are narrowed to their types. -/
def toDateInWords? (jdn : Word) : Option (Result Date) := do
  let jdn ← jdn.value?
  let least ← (ofDateInWords ⟨Int32.minValue, 1, 1⟩).value?
  let greatest ← (ofDateInWords ⟨Int32.maxValue, 12, 31⟩).value?
  if least ≤ jdn ∧ jdn ≤ greatest then
    let a : Word := jdn + 32044
    let b := (4 * a + 3) / 146097
    let c := a - 146097 * b / 4
    let d := (4 * c + 3) / 1461
    let e := c - 1461 * d / 4
    let m := (5 * e + 2) / 153
    let year ← (100 * b + d - 4800 + m / 10).narrow? .int32
    let month ← (m + 3 - 12 * (m / 10)).narrow? .uint32
    let day ← (e - (153 * m + 2) / 5 + 1).narrow? .uint32
    return .ok ⟨Int32.ofInt year, UInt32.ofNat month.toNat, UInt32.ofNat day.toNat⟩
  else return .error (outOfRange (Text.Decimal.ofInt jdn))

/-- Counted from March a month is one of twelve, however large it is; the years that it is made of go to
the year, and only that is multiplied by the days of a year. -/
theorem ofDateInWords_eq (d : Date) : ofDateInWords d = .exact (ofDate d) := by
  have hmonth := d.month.toNat_lt
  have hday := d.day.toNat_lt
  have hlow := Int32.le_toInt d.year
  have hhigh := Int32.toInt_lt d.year
  obtain ⟨a, ha⟩ : ∃ a, (14 - (d.month.toNat : Int)) / 12 = a := ⟨_, rfl⟩
  obtain ⟨y, hy⟩ : ∃ y, d.year.toInt + 4800 - a = y := ⟨_, rfl⟩
  obtain ⟨m, hm⟩ : ∃ m, (d.month.toNat : Int) + 12 * a - 3 = m := ⟨_, rfl⟩
  have hyear : -2 ^ 32 < y ∧ y < 2 ^ 32 := by omega
  have hofYear : 0 ≤ m ∧ m < 12 := by omega
  simp (disch := omega) only [ofDateInWords, ofDate, ofNat_eq, hold_eq, add_eq, sub_eq, mul_eq, div_eq,
    ha, hy, hm]

theorem ofDate_bounds (d : Date) : -2 ^ 40 < ofDate d ∧ ofDate d < 2 ^ 40 := by
  have hmonth := d.month.toNat_lt
  have hday := d.day.toNat_lt
  have hlow := Int32.le_toInt d.year
  have hhigh := Int32.toInt_lt d.year
  simp only [ofDate]
  omega

/-- A number outside the range is refused before it is computed with. -/
theorem toDateInWords?_exact (jdn : Int) : toDateInWords? (.exact jdn) = some (toDate jdn) := by
  have hlow : -2 ^ 40 ≤ least := by decide
  have hhigh : greatest ≤ 2 ^ 40 := by decide
  simp only [toDateInWords?, ofDateInWords_eq, Word.value?_exact, Option.bind_eq_bind,
    Option.bind_some]
  rw [toDate, ← least, ← greatest]
  split
  · next h =>
    obtain ⟨date, hcivil, -, -⟩ := exists_date h
    obtain ⟨a, ha⟩ : ∃ a, jdn + 32044 = a := ⟨_, rfl⟩
    obtain ⟨b, hb⟩ : ∃ b, (4 * a + 3) / 146097 = b := ⟨_, rfl⟩
    obtain ⟨c, hc⟩ : ∃ c, a - 146097 * b / 4 = c := ⟨_, rfl⟩
    obtain ⟨d, hd⟩ : ∃ d, (4 * c + 3) / 1461 = d := ⟨_, rfl⟩
    obtain ⟨e, he⟩ : ∃ e, c - 1461 * d / 4 = e := ⟨_, rfl⟩
    obtain ⟨m, hm⟩ : ∃ m, (5 * e + 2) / 153 = m := ⟨_, rfl⟩
    rw [hcivil]
    simp only [civil, ha, hb, hc, hd, he, hm, Prod.mk.injEq] at hcivil
    obtain ⟨hyear, hmonth, hday⟩ := hcivil
    have hmonthLt := date.month.toNat_lt
    have hdayLt := date.day.toNat_lt
    -- every part is bounded by the one before, and the first one by the range
    simp (disch := omega) only [ofNat_eq, hold_eq, add_eq, sub_eq, mul_eq, div_eq, ha, hb, hc, hd, he,
      hm]
    simp (disch := omega) only [hyear, hmonth, hday, Word.narrow?_int32, Word.narrow?_uint32,
      Option.bind_some]
    rfl
  · rfl

end JulianDay

namespace Time

/-- Milliseconds since midnight, in words. -/
def totalMillisInWords (t : Time) : Word :=
  ((t.hour * 60 + t.min) * 60 + t.sec) * 1000 + t.msec

/-- The time of day that is a number of milliseconds after midnight. Its fields are narrowed to their
types. -/
def ofMillisInWords? (millis : Word) : Option Time := do
  let n := millis % millisPerDay
  let hour ← (n / 3600000).narrow? .uint32
  let min ← (n / 60000 % 60).narrow? .uint32
  let sec ← (n / 1000 % 60).narrow? .uint32
  let msec ← (n % 1000).narrow? .uint32
  return ⟨UInt32.ofNat hour.toNat, UInt32.ofNat min.toNat, UInt32.ofNat sec.toNat,
    UInt32.ofNat msec.toNat⟩

theorem totalMillis_lt_two_pow (t : Time) : t.totalMillis < 2 ^ 54 := by
  have hhour := t.hour.toNat_lt
  have hmin := t.min.toNat_lt
  have hsec := t.sec.toNat_lt
  have hmsec := t.msec.toNat_lt
  simp only [totalMillis]
  omega

theorem totalMillisInWords_eq (t : Time) : totalMillisInWords t = .exact t.totalMillis := by
  have hhour := t.hour.toNat_lt
  have hmin := t.min.toNat_lt
  have hsec := t.sec.toNat_lt
  have hmsec := t.msec.toNat_lt
  simp (disch := omega) only [totalMillisInWords, totalMillis, ofNat_eq, hold_eq, add_eq, mul_eq]

/-- Once whole days are left out, nothing is large, whatever the number was. -/
theorem ofMillisInWords?_exact (millis : Int) :
    ofMillisInWords? (.exact millis) = some (ofMillis millis) := by
  obtain ⟨n, hn⟩ : ∃ n, millis % millisPerDay = n := ⟨_, rfl⟩
  have hrange : 0 ≤ n ∧ n < 86400000 := by
    rw [← hn]
    exact ⟨Int.emod_nonneg _ (by decide), Int.emod_lt_of_pos _ (by decide)⟩
  have hday : Word.hold millisPerDay = .exact millisPerDay := hold_eq (by decide)
  simp only [ofMillisInWords?, hday, mod_eq, hn]
  simp (disch := omega) only [ofNat_eq, hold_eq, div_eq, mod_eq, Word.narrow?_uint32,
    Option.bind_eq_bind, Option.bind_some]
  obtain ⟨k, rfl⟩ := Int.eq_ofNat_of_zero_le hrange.1
  rw [ofMillis, hn]
  rfl

end Time

namespace Postgres

/-- Days of a date. That 32 bits do not hold them is an error. -/
def ofDateInWords? (d : Date) : Option (Result Int) := do
  let days ← (JulianDay.ofDateInWords d - epoch).value?
  return if IntType.int32.Fits days then .ok days else .error (outOfRange d.text)

/-- The date of a number of days. -/
def toDateInWords? (days : Word) : Option (Result Date) :=
  JulianDay.toDateInWords? (days + epoch)

/-- Microseconds of a time of day. That a word does not hold them is an error. -/
def ofTimeInWords? (t : Time) : Option (Result Int) := do
  let millis ← (t.totalMillisInWords).value?
  return match (millis * microsPerMilli : Word) with
    | .exact micros => if micros ≤ microsPerDay then .ok micros else .error (outOfRange t.text)
    | .overflow => .error (outOfRange t.text)

/-- The time of day of a number of microseconds. -/
def toTimeInWords? (micros : Word) : Option Time :=
  Time.ofMillisInWords? (micros % microsPerDay / microsPerMilli)

/-- Microseconds of a timestamp. That a word does not hold them is an error. -/
def ofTimestampInWords? (t : Timestamp) : Option (Result Int) := do
  match ← ofTimeInWords? t.time, ← ofDateInWords? t.date with
  | .error e, _ => return .error e
  | .ok _, .error e => return .error e
  | .ok time, .ok days => return (days * microsPerDay + time : Word).orError (outOfRange t.text)

/-- The timestamp of a number of microseconds. -/
def toTimestampInWords? (micros : Word) : Option (Result Timestamp) := do
  let date ← toDateInWords? (micros / microsPerDay)
  let time ← toTimeInWords? (micros % microsPerDay)
  return date.map fun date => ⟨date, time⟩

theorem hold_epoch : Word.hold epoch = .exact epoch := hold_eq (by decide)

theorem hold_microsPerMilli : Word.hold microsPerMilli = .exact microsPerMilli :=
  hold_eq (by decide)

theorem hold_microsPerDay : Word.hold microsPerDay = .exact microsPerDay := hold_eq (by decide)

theorem ofDateInWords?_eq (d : Date) : ofDateInWords? d = some (ofDate d) := by
  have hbounds := JulianDay.ofDate_bounds d
  have hdays : Word.hold (JulianDay.ofDate d - epoch) = .exact (JulianDay.ofDate d - epoch) :=
    hold_eq (by simp only [epoch]; omega)
  rw [ofDateInWords?, JulianDay.ofDateInWords_eq, hold_epoch, sub_eq, hdays]
  rfl

theorem toDateInWords?_exact {days : Int} (h : -2 ^ 62 ≤ days ∧ days < 2 ^ 62) :
    toDateInWords? (.exact days) = some (toDate days) := by
  have hjdn : Word.hold (days + epoch) = .exact (days + epoch) :=
    hold_eq (by simp only [epoch]; omega)
  rw [toDateInWords?, hold_epoch, add_eq, hjdn, JulianDay.toDateInWords?_exact, toDate]

/-- Milliseconds that are too many for a word of microseconds are too many for a day. -/
theorem ofTimeInWords?_eq (t : Time) : ofTimeInWords? t = some (ofTime t) := by
  have hnonneg := t.totalMillis_nonneg
  have hlt := t.totalMillis_lt_two_pow
  simp only [ofTimeInWords?, Time.totalMillisInWords_eq, Word.value?_exact, Option.bind_eq_bind,
    Option.bind_some, ofTime]
  rw [hold_eq (by omega), hold_microsPerMilli, mul_eq]
  by_cases hfits : IntType.int64.Fits (t.totalMillis * microsPerMilli)
  · rw [Word.hold, if_pos hfits]
    rfl
  · have hlarge : ¬t.totalMillis * microsPerMilli ≤ microsPerDay := by
      rw [Word.fits_iff] at hfits
      simp only [microsPerMilli, microsPerDay] at hfits ⊢
      omega
    rw [Word.hold, if_neg hfits, if_neg hlarge]
    rfl

theorem toTimeInWords?_exact (micros : Int) :
    toTimeInWords? (.exact micros) = some (toTime micros) := by
  have hnonneg : 0 ≤ micros % microsPerDay := Int.emod_nonneg _ (by decide)
  have hlt : micros % microsPerDay < 86400000000 := Int.emod_lt_of_pos _ (by decide)
  have hmillis : Word.hold (micros % microsPerDay / microsPerMilli) =
      .exact (micros % microsPerDay / microsPerMilli) :=
    hold_eq (by simp only [microsPerMilli]; omega)
  rw [toTimeInWords?, hold_microsPerDay, mod_eq, hold_eq (by omega), hold_microsPerMilli, div_eq,
    hmillis, Time.ofMillisInWords?_exact, toTime]

theorem ofTimestampInWords?_eq (t : Timestamp) : ofTimestampInWords? t = some (ofTimestamp t) := by
  rw [ofTimestampInWords?, ofTimeInWords?_eq, ofDateInWords?_eq, ofTimestamp]
  cases htime : ofTime t.time with
  | error e => rfl
  | ok time =>
    cases hdays : ofDate t.date with
    | error e => rfl
    | ok days =>
      obtain ⟨htimeEq, hle⟩ := ofTime_eq_ok_iff.1 htime
      obtain ⟨hdaysEq, hfits⟩ := ofDate_eq_ok_iff.1 hdays
      have hmoment : IntType.int64.Fits time := by
        have hnonneg := t.time.totalMillis_nonneg
        rw [Word.fits_iff]
        simp only [microsPerMilli, microsPerDay] at htimeEq hle
        omega
      have hdays : Word.hold days = .exact days := by
        have hbounds := JulianDay.ofDate_bounds t.date
        refine hold_eq ?_
        simp only [epoch] at hdaysEq
        omega
      have hanswer := Word.orError_hold_add (days * microsPerDay) hmoment (outOfRange t.text)
      rw [← mul_eq, ← hold_microsPerDay, ← hdays] at hanswer
      exact congrArg some hanswer

theorem toTimestampInWords?_exact {micros : Int} (h : IntType.int64.Fits micros) :
    toTimestampInWords? (.exact micros) = some (toTimestamp micros) := by
  rw [Word.fits_iff] at h
  have hdays : -2 ^ 62 ≤ micros / microsPerDay ∧ micros / microsPerDay < 2 ^ 62 := by
    simp only [microsPerDay]
    omega
  have hrest : -2 ^ 62 ≤ micros % microsPerDay ∧ micros % microsPerDay < 2 ^ 62 := by
    simp only [microsPerDay]
    omega
  rw [toTimestampInWords?, hold_microsPerDay, div_eq, mod_eq, hold_eq (by omega), hold_eq (by omega),
    toDateInWords?_exact hdays, toTimeInWords?_exact, toTimestamp]
  rfl

end Postgres

namespace SqlServer

/-- Days of a date. That the type or the server does not hold them is an error. -/
def ofDateInWords? (d : Date) : Option (Result UInt32) := do
  let days ← (JulianDay.ofDateInWords d - dateEpoch).value?
  return if IntType.uint32.Fits days ∧ days ≤ lastDay then .ok (UInt32.ofNat days.toNat)
    else .error (outOfRange d.text)

/-- The date of a number of days. -/
def toDateInWords? (days : UInt32) : Option (Result Date) :=
  JulianDay.toDateInWords? (days + dateEpoch)

/-- The form of a time of day. -/
def ofTimeInWords? (t : Time) : Option (Result WireTime) := do
  let millis ← (t.totalMillisInWords).value?
  if millis < Time.millisPerDay then
    let ticks ← (millis * 10000 : Word).value?
    return .ok ⟨UInt64.ofNat ticks.toNat, writtenScale⟩
  else return .error (outOfRange t.text)

/-- The timestamp of days since 1900 and three-hundredths of a second. -/
def ofDatetimeInWords? (days : Int32) (ticks : UInt32) : Option (Result Timestamp) := do
  let millis : Word := (ticks * 10 + 1) / 3
  let date ← JulianDay.toDateInWords? (days + datetimeEpoch)
  let time ← Time.ofMillisInWords? millis
  return date.map fun date => ⟨date, time⟩

theorem ofDateInWords?_eq (d : Date) : ofDateInWords? d = some (ofDate d) := by
  have hbounds := JulianDay.ofDate_bounds d
  have hepoch : Word.hold dateEpoch = .exact dateEpoch := hold_eq (by decide)
  have hdays : Word.hold (JulianDay.ofDate d - dateEpoch) =
      .exact (JulianDay.ofDate d - dateEpoch) := hold_eq (by simp only [dateEpoch]; omega)
  -- what the server stores is less than the type holds
  have hrange : IntType.uint32.Fits (JulianDay.ofDate d - dateEpoch) ∧
        JulianDay.ofDate d - dateEpoch ≤ lastDay ↔
      0 ≤ JulianDay.ofDate d - dateEpoch ∧ JulianDay.ofDate d - dateEpoch ≤ lastDay := by
    have hlast : lastDay ≤ IntType.uint32.greatest := by decide
    have hleast : IntType.uint32.least = 0 := by decide
    rw [IntType.Fits, hleast]
    omega
  rw [ofDateInWords?, JulianDay.ofDateInWords_eq, hepoch, sub_eq, hdays, ofDate,
    ← if_congr hrange rfl rfl]
  rfl

theorem toDateInWords?_eq (days : UInt32) : toDateInWords? days = some (toDate days) := by
  have hlt := days.toNat_lt
  have hepoch : Word.hold dateEpoch = .exact dateEpoch := hold_eq (by decide)
  have hjdn : Word.hold (days.toNat + dateEpoch) = .exact (days.toNat + dateEpoch) :=
    hold_eq (by simp only [dateEpoch]; omega)
  rw [toDateInWords?, hepoch, Word.hold_uint32, add_eq, hjdn, JulianDay.toDateInWords?_exact, toDate]

theorem ofNat_mul_ticksPerMilli {millis : Int} (hnonneg : 0 ≤ millis) (hlt : millis < 2 ^ 32) :
    UInt64.ofNat (millis * 10000).toNat = UInt64.ofNat millis.toNat * ticksPerMilli := by
  have hticks : ticksPerMilli.toNat = 10000 := by decide
  rw [← UInt64.toNat_inj, UInt64.toNat_mul, UInt64.toNat_ofNat', UInt64.toNat_ofNat', hticks]
  omega

theorem ofTimeInWords?_eq (t : Time) : ofTimeInWords? t = some (ofTime t) := by
  have hnonneg := t.totalMillis_nonneg
  rw [ofTimeInWords?, Time.totalMillisInWords_eq, Word.value?_exact, Option.bind_eq_bind,
    Option.bind_some, ofTime]
  by_cases hlt : t.totalMillis < Time.millisPerDay
  · have hmillis := hlt
    simp only [Time.millisPerDay] at hmillis
    have hticks : (t.totalMillis * 10000 : Word) = .exact (t.totalMillis * 10000) := by
      simp (disch := omega) only [ofNat_eq, hold_eq, mul_eq]
    rw [if_pos hlt, if_pos hlt, hticks, Word.value?_exact, Option.bind_some,
      ofNat_mul_ticksPerMilli hnonneg (by omega)]
    rfl
  · rw [if_neg hlt, if_neg hlt]
    rfl

theorem ofDatetimeInWords?_eq (days : Int32) (ticks : UInt32) :
    ofDatetimeInWords? days ticks = some (ofDatetime days ticks) := by
  have hlow := Int32.le_toInt days
  have hhigh := Int32.toInt_lt days
  have hticks := ticks.toNat_lt
  have hepoch : Word.hold datetimeEpoch = .exact datetimeEpoch := hold_eq (by decide)
  have hjdn : Word.hold (days.toInt + datetimeEpoch) = .exact (days.toInt + datetimeEpoch) :=
    hold_eq (by simp only [datetimeEpoch]; omega)
  have hmillis : ((ticks : Word) * 10 + 1) / 3 = .exact (((ticks.toNat : Int) * 10 + 1) / 3) := by
    simp (disch := omega) only [ofNat_eq, hold_eq, add_eq, mul_eq, div_eq]
  rw [ofDatetimeInWords?, hmillis, hepoch, Word.hold_int32, add_eq, hjdn, JulianDay.toDateInWords?_exact,
    ofDatetime]
  simp only [Time.ofMillisInWords?_exact]
  rfl

end SqlServer

/-- **No step of the arithmetic of dates and times leaves 64 bits.** Whatever the fields of a date or a
time are, and whatever number is read, a function in words gives what the exact one gives: none of its
steps overflows and none of its narrowings fails, except for those that it answers by an error, and then
the exact one gives the same error. -/
theorem temporal_arithmetic_fits_words :
    (∀ d : Date, JulianDay.ofDateInWords d = .exact (JulianDay.ofDate d)) ∧
    (∀ jdn : Int64, JulianDay.toDateInWords? jdn = some (JulianDay.toDate jdn.toInt)) ∧
    (∀ t : Time, t.totalMillisInWords = .exact t.totalMillis) ∧
    (∀ millis : Int64, Time.ofMillisInWords? millis = some (Time.ofMillis millis.toInt)) ∧
    ((∀ d : Date, Postgres.ofDateInWords? d = some (Postgres.ofDate d)) ∧
      (∀ days : Int32, Postgres.toDateInWords? days = some (Postgres.toDate days.toInt)) ∧
      (∀ t : Time, Postgres.ofTimeInWords? t = some (Postgres.ofTime t)) ∧
      (∀ micros : Int64, Postgres.toTimeInWords? micros = some (Postgres.toTime micros.toInt)) ∧
      (∀ t : Timestamp, Postgres.ofTimestampInWords? t = some (Postgres.ofTimestamp t)) ∧
      ∀ micros : Int64,
        Postgres.toTimestampInWords? micros = some (Postgres.toTimestamp micros.toInt)) ∧
    (∀ d : Date, SqlServer.ofDateInWords? d = some (SqlServer.ofDate d)) ∧
      (∀ days : UInt32, SqlServer.toDateInWords? days = some (SqlServer.toDate days)) ∧
      (∀ t : Time, SqlServer.ofTimeInWords? t = some (SqlServer.ofTime t)) ∧
      ∀ (days : Int32) (ticks : UInt32),
        SqlServer.ofDatetimeInWords? days ticks = some (SqlServer.ofDatetime days ticks) := by
  refine ⟨JulianDay.ofDateInWords_eq, ?_, Time.totalMillisInWords_eq, ?_,
    ⟨Postgres.ofDateInWords?_eq, ?_, Postgres.ofTimeInWords?_eq, ?_,
      Postgres.ofTimestampInWords?_eq, ?_⟩,
    SqlServer.ofDateInWords?_eq, SqlServer.toDateInWords?_eq, SqlServer.ofTimeInWords?_eq,
    SqlServer.ofDatetimeInWords?_eq⟩
  · intro jdn
    rw [Word.hold_int64, JulianDay.toDateInWords?_exact]
  · intro millis
    rw [Word.hold_int64, Time.ofMillisInWords?_exact]
  · intro days
    have hlow := Int32.le_toInt days
    have hhigh := Int32.toInt_lt days
    rw [Word.hold_int32, Postgres.toDateInWords?_exact (by omega)]
  · intro micros
    rw [Word.hold_int64, Postgres.toTimeInWords?_exact]
  · intro micros
    have hfits : IntType.int64.Fits micros.toInt :=
      Word.fits_iff.2 ⟨Int64.le_toInt micros, Int64.toInt_lt micros⟩
    rw [Word.hold_int64, Postgres.toTimestampInWords?_exact hfits]

end PortableSql
