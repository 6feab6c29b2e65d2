import PortableSql.Text.Decimal

/-!
# Dates and times

Calendar dates of the proleptic Gregorian calendar, times of day in milliseconds, and timestamps of
both. The fields are not checked: what does not exist in the calendar can still be written down,
compared and converted.
-/
namespace PortableSql

/-- A date, possibly one that does not exist. -/
structure Date where
  year : Int32
  month : UInt32
  day : UInt32
  deriving DecidableEq, Repr

/-- A time of day, possibly one that does not exist. -/
structure Time where
  hour : UInt32
  min : UInt32
  sec : UInt32
  msec : UInt32
  deriving DecidableEq, Repr

/-- A date and a time of day. -/
structure Timestamp where
  date : Date
  time : Time
  deriving DecidableEq, Repr

/-- The order of two keys that are compared field by field. -/
def compareFields : List Int → List Int → Ordering
  | [], [] => .eq
  | [], _ => .lt
  | _, [] => .gt
  | a :: as, b :: bs =>
    if a < b then .lt else if b < a then .gt else compareFields as bs

namespace Date

/-- The fields, the most significant first. -/
def fields (d : Date) : List Int :=
  [d.year.toInt, d.month.toNat, d.day.toNat]

/-- Chronological order of dates. -/
def compare (a b : Date) : Ordering :=
  compareFields a.fields b.fields

/-- A year has a leap day if it is divisible by four but not by a hundred, or by four hundred. -/
def isLeapYear (year : Int) : Bool :=
  decide (year % 4 = 0 ∧ (year % 100 ≠ 0 ∨ year % 400 = 0))

/-- Number of days of a month; zero if there is no such month. -/
def daysInMonth (year : Int) (month : Nat) : Nat :=
  match month with
  | 1 | 3 | 5 | 7 | 8 | 10 | 12 => 31
  | 4 | 6 | 9 | 11 => 30
  | 2 => if isLeapYear year then 29 else 28
  | _ => 0

/-- The date exists. -/
def Valid (d : Date) : Prop :=
  1 ≤ d.month.toNat ∧ d.month.toNat ≤ 12 ∧ 1 ≤ d.day.toNat ∧
    d.day.toNat ≤ daysInMonth d.year.toInt d.month.toNat

instance (d : Date) : Decidable d.Valid :=
  inferInstanceAs (Decidable (_ ∧ _))

/-- The date as year, month and day. -/
def chars (d : Date) : List Char :=
  Text.Decimal.paddedInt 4 d.year.toInt ++ '-' :: (Text.Decimal.padded 2 d.month.toNat ++
    '-' :: Text.Decimal.padded 2 d.day.toNat)

/-- The date as text. -/
def text (d : Date) : String :=
  String.ofList d.chars

end Date

namespace Time

/-- The start of the day. -/
def midnight : Time := ⟨0, 0, 0, 0⟩

/-- The fields, the most significant first. -/
def fields (t : Time) : List Int :=
  [t.hour.toNat, t.min.toNat, t.sec.toNat, t.msec.toNat]

/-- Chronological order of times. -/
def compare (a b : Time) : Ordering :=
  compareFields a.fields b.fields

/-- The time exists. -/
def Valid (t : Time) : Prop :=
  t.hour.toNat < 24 ∧ t.min.toNat < 60 ∧ t.sec.toNat < 60 ∧ t.msec.toNat < 1000

instance (t : Time) : Decidable t.Valid :=
  inferInstanceAs (Decidable (_ ∧ _))

/-- Milliseconds in a day. -/
def millisPerDay : Int := 86400000

/-- Milliseconds since midnight. -/
def totalMillis (t : Time) : Int :=
  (((t.hour.toNat : Int) * 60 + t.min.toNat) * 60 + t.sec.toNat) * 1000 + t.msec.toNat

/-- The time of day that is a number of milliseconds after midnight, whole days left out. -/
def ofMillis (millis : Int) : Time :=
  let n := (millis % millisPerDay).toNat
  ⟨UInt32.ofNat (n / 3600000), UInt32.ofNat (n / 60000 % 60), UInt32.ofNat (n / 1000 % 60),
    UInt32.ofNat (n % 1000)⟩

/-- The time as hours, minutes, seconds and milliseconds. -/
def chars (t : Time) : List Char :=
  Text.Decimal.padded 2 t.hour.toNat ++ ':' :: (Text.Decimal.padded 2 t.min.toNat ++
    ':' :: (Text.Decimal.padded 2 t.sec.toNat ++ '.' :: Text.Decimal.padded 3 t.msec.toNat))

/-- The time as text. -/
def text (t : Time) : String :=
  String.ofList t.chars

end Time

namespace Timestamp

/-- Chronological order of timestamps. -/
def compare (a b : Timestamp) : Ordering :=
  compareFields (a.date.fields ++ a.time.fields) (b.date.fields ++ b.time.fields)

/-- Date and time exist. -/
def Valid (t : Timestamp) : Prop :=
  t.date.Valid ∧ t.time.Valid

instance (t : Timestamp) : Decidable t.Valid :=
  inferInstanceAs (Decidable (_ ∧ _))

/-- Date and time with a blank between them. -/
def chars (t : Timestamp) : List Char :=
  t.date.chars ++ ' ' :: t.time.chars

/-- The timestamp as text. -/
def text (t : Timestamp) : String :=
  String.ofList t.chars

end Timestamp

end PortableSql
