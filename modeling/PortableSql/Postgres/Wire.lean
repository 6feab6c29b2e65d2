import PortableSql.Calendar.JulianDay
import PortableSql.Number.IntType
import PortableSql.Value.Type

/-!
# Types, dates and times on PostgreSQL's wire

Types have numbers. A date is a number of days since the first day of 2000, a time of day a number
of microseconds since midnight, and a timestamp a number of microseconds since the start of 2000.
The time 24:00 can be written, but not later ones.
-/
namespace PortableSql.Postgres

/-- The declared type with a type number. -/
def typeOfOid : Nat → ValueType
  | 16 => .boolean
  | 17 => .blob
  | 19 | 25 | 1043 => .varchar
  | 20 => .bigint
  | 21 => .short
  | 23 => .integer
  | 700 => .float
  | 701 => .double
  | 1042 => .char
  | 1082 => .date
  | 1083 => .time
  | 1114 => .timestamp
  | _ => .any

/-- Type number of the 64-bit integers. -/
def bigintOid : Nat := 20

/-- Julian day of the day from which dates are counted. -/
def epoch : Int := 2451545

/-- Microseconds in a millisecond. -/
def microsPerMilli : Int := 1000

/-- Microseconds in a day. -/
def microsPerDay : Int := 86400000000

/-- The error for a date or time without a form on the wire. -/
def outOfRange (shown : String) : Error :=
  .rangeExceeded (.wire shown .postgres)

/-- Days of a date. -/
def ofDate (d : Date) : Result Int :=
  let days := JulianDay.ofDate d - epoch
  if IntType.int32.Fits days then .ok days else .error (outOfRange d.text)

/-- The date of a number of days. -/
def toDate (days : Int) : Result Date :=
  JulianDay.toDate (days + epoch)

/-- Microseconds of a time of day. -/
def ofTime (t : Time) : Result Int :=
  let micros := t.totalMillis * microsPerMilli
  if micros ≤ microsPerDay then .ok micros else .error (outOfRange t.text)

/-- The time of day of a number of microseconds; whole days are left out. -/
def toTime (micros : Int) : Time :=
  Time.ofMillis (micros % microsPerDay / microsPerMilli)

/-- Microseconds of a timestamp. Those of its day alone must fit 64 bits too. -/
def ofTimestamp (t : Timestamp) : Result Int := do
  let time ← ofTime t.time
  let days ← ofDate t.date
  let start := days * microsPerDay
  if IntType.int64.Fits start ∧ IntType.int64.Fits (start + time) then pure (start + time)
  else .error (outOfRange t.text)

/-- The timestamp of a number of microseconds. -/
def toTimestamp (micros : Int) : Result Timestamp :=
  (toDate (micros / microsPerDay)).map fun date => ⟨date, toTime (micros % microsPerDay)⟩

end PortableSql.Postgres
