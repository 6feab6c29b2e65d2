import PortableSql.Calendar.JulianDay
import PortableSql.Number.Power

/-!
# Dates and times on SQL Server's wire

A date is a number of days since the first day of the year 1, up to the end of the year 9999. A time
of day is a number of fractions of a second, of which there are a power of ten to the second. The
older types count days since the start of 1900, and three-hundredths of a second or minutes.
-/
namespace PortableSql.SqlServer

/-- A time of day: fractions of a second since midnight, and the power of ten that a second has. -/
structure WireTime where
  increments : UInt64
  scale : UInt8
  deriving DecidableEq, Repr

/-- A date and a time of day. -/
structure WireTimestamp where
  days : UInt32
  time : WireTime
  deriving DecidableEq, Repr

/-- Julian day of the day from which dates are counted. -/
def dateEpoch : Int := 1721426

/-- Julian day of the day from which the older types count. -/
def datetimeEpoch : Int := 2415021

/-- Days of the last date that the server stores. -/
def lastDay : Int := 3652058

/-- Scale at which times are written: ten million fractions to the second. -/
def writtenScale : UInt8 := 7

/-- Fractions of a millisecond at that scale. -/
def ticksPerMilli : UInt64 := 10000

/-- The error for a date or time without a form on the wire. -/
def outOfRange (shown : String) : Error :=
  .rangeExceeded (.wire shown .mssql)

/-- Days of a date. -/
def ofDate (d : Date) : Result UInt32 :=
  let days := JulianDay.ofDate d - dateEpoch
  if 0 ≤ days ∧ days ≤ lastDay then .ok (UInt32.ofNat days.toNat) else .error (outOfRange d.text)

/-- The date of a number of days. -/
def toDate (days : UInt32) : Result Date :=
  JulianDay.toDate (days.toNat + dateEpoch)

/-- The form of a time of day. -/
def ofTime (t : Time) : Result WireTime :=
  let millis := t.totalMillis
  if millis < Time.millisPerDay then .ok ⟨UInt64.ofNat millis.toNat * ticksPerMilli, writtenScale⟩
  else .error (outOfRange t.text)

/-- Number of fractions at the written scale that make one of the given scale. -/
def rescale (scale : UInt8) : UInt64 :=
  UInt64.ofNat (10 ^ (writtenScale.toNat - scale.toNat))

/-- The time of day of a form. Fractions are counted in 64 bits, and whole days are left out. -/
def toTime (t : WireTime) : Time :=
  Time.ofMillis (t.increments * rescale t.scale / ticksPerMilli).toNat

/-- The form of a timestamp. -/
def ofTimestamp (t : Timestamp) : Result WireTimestamp := do
  let days ← ofDate t.date
  let time ← ofTime t.time
  pure ⟨days, time⟩

/-- The timestamp of a form. -/
def toTimestamp (t : WireTimestamp) : Result Timestamp :=
  (toDate t.days).map fun date => ⟨date, toTime t.time⟩

/-- The timestamp of days since 1900 and three-hundredths of a second, to the nearest
millisecond. -/
def ofDatetime (days : Int32) (ticks : UInt32) : Result Timestamp :=
  (JulianDay.toDate (days.toInt + datetimeEpoch)).map fun date =>
    ⟨date, Time.ofMillis (((ticks.toNat : Int) * 10 + 1) / 3)⟩

/-- The timestamp of days since 1900 and minutes. -/
def ofSmallDatetime (days minutes : UInt16) : Result Timestamp :=
  (JulianDay.toDate (days.toNat + datetimeEpoch)).map fun date =>
    ⟨date, Time.ofMillis ((minutes.toNat : Int) * 60000)⟩

end PortableSql.SqlServer
