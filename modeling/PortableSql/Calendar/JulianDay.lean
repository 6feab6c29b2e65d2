import PortableSql.Calendar.Basic
import PortableSql.Error

/-!
# Julian day numbers

Days are counted from 24 November of the year -4713. The arithmetic takes March as the first month,
so that the leap day is the last day of a year, and divides with rounding down, so that it holds for
days before the count begins.
-/
namespace PortableSql.JulianDay

/-- Number of a date. -/
def ofDate (d : Date) : Int :=
  let month : Int := d.month.toNat
  let a := (14 - month) / 12
  let y := d.year.toInt + 4800 - a
  let m := month + 12 * a - 3
  d.day.toNat + (153 * m + 2) / 5 + 365 * y + y / 4 - y / 100 + y / 400 - 32045

/-- Number of the first date that can be written down. -/
def least : Int := ofDate ⟨Int32.minValue, 1, 1⟩

/-- Number of the last date that can be written down. -/
def greatest : Int := ofDate ⟨Int32.maxValue, 12, 31⟩

/-- The error for a day without a date. -/
def outOfRange (shown : String) : Error :=
  .rangeExceeded (.julianDay shown least greatest)

/-- Year, month and day of a day number. -/
def civil (jdn : Int) : Int × Int × Int :=
  let a := jdn + 32044
  let b := (4 * a + 3) / 146097
  let c := a - (146097 * b) / 4
  let d := (4 * c + 3) / 1461
  let e := c - (1461 * d) / 4
  let m := (5 * e + 2) / 153
  (100 * b + d - 4800 + m / 10, m + 3 - 12 * (m / 10), e - (153 * m + 2) / 5 + 1)

/-- The date with the given number. -/
def toDate (jdn : Int) : Result Date :=
  if least ≤ jdn ∧ jdn ≤ greatest then
    let (year, month, day) := civil jdn
    .ok ⟨Int32.ofInt year, UInt32.ofNat month.toNat, UInt32.ofNat day.toNat⟩
  else .error (outOfRange (Text.Decimal.ofInt jdn))

end PortableSql.JulianDay
