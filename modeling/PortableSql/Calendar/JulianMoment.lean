import PortableSql.Calendar.JulianDay
import PortableSql.Number.Shortest

/-!
# Julian days with a fraction

A moment is a double: the Julian day and, after the point, the part of the day that has passed. A
day begins at noon, so midnight is half a day off. Reading a moment adds a tenth of a millisecond,
so that a fraction just below a millisecond counts as that millisecond.
-/
namespace PortableSql.JulianMoment

/-- One half. -/
def half : Double := .ofRatio 1 2

/-- A tenth of a millisecond as a part of a day. -/
def epsilon : Double := .ofRatio 1 864000000

/-- A count as a double. -/
def count (n : UInt32) : Double := .ofInt n.toNat

/-- Part of the day that has passed at a time. -/
def ofTime (t : Time) : Double :=
  (count t.hour).divNat 24 + (count t.min).divNat 1440 + (count t.sec).divNat 86400 +
    (count t.msec).divNat 86400000

/-- The smaller of two counts. -/
def atMost (limit n : UInt32) : UInt32 :=
  if n ≤ limit then n else limit

/-- Time of day of the fraction of a number of days. -/
def toTime (days : Double) : Time :=
  let shifted := days - days.floor + epsilon
  let fraction := if shifted.less (.ofInt 1) then shifted
    else if shifted.isNan then shifted else shifted - .ofInt 1
  let hours := fraction * .ofInt 24
  let hour := hours.toUInt32
  let minutes := (hours - count hour) * .ofInt 60
  let min := minutes.toUInt32
  let seconds := (minutes - count min) * .ofInt 60
  let sec := seconds.toUInt32
  let msec := ((seconds - count sec) * .ofInt 1000).toUInt32
  ⟨atMost 23 hour, atMost 59 min, atMost 59 sec, atMost 999 msec⟩

/-- Moment of the midnight at which a date begins. -/
def ofDate (d : Date) : Double :=
  .ofInt (JulianDay.ofDate d) - half

/-- Moment of a timestamp. -/
def ofTimestamp (t : Timestamp) : Double :=
  .ofInt (JulianDay.ofDate t.date) + ofTime t.time - half

/-- Timestamp of a moment. -/
def toTimestamp (moment : Double) : Result Timestamp :=
  let shifted := moment + half
  match (shifted + epsilon).floor? with
  | none => .error (JulianDay.outOfRange moment.text)
  | some day =>
    if JulianDay.least ≤ day ∧ day ≤ JulianDay.greatest then
      (JulianDay.toDate day).map fun date => ⟨date, toTime shifted⟩
    else .error (JulianDay.outOfRange moment.text)

end PortableSql.JulianMoment
