import PortableSql.Calendar.Basic
import PortableSql.Error

/-!
# Dates and times that exist

Text and other libraries deal only in dates of a bounded range of years and in times with their
fields in range. A leap second is written as second 59 with a thousand milliseconds or more; it is
read back as the last millisecond of that minute.
-/
namespace PortableSql

namespace Date

/-- The first year of a checked date. -/
def firstCheckedYear : Int := -262143

/-- The last year of a checked date. -/
def lastCheckedYear : Int := 262142

/-- The date exists and its year is in the checked range. -/
def Checked (d : Date) : Prop :=
  d.Valid ∧ firstCheckedYear ≤ d.year.toInt ∧ d.year.toInt ≤ lastCheckedYear

instance (d : Date) : Decidable d.Checked :=
  inferInstanceAs (Decidable (_ ∧ _))

/-- The date, if it is a checked one. -/
def check (d : Date) : Result Date :=
  if d.Checked then .ok d
  else
    let shown := d.text
    .error (.typeConversion s!"date {shown}" "chrono::NaiveDate")

end Date

namespace Time

/-- The fields are in range, or the time is in a leap second. -/
def Checked (t : Time) : Prop :=
  t.hour.toNat < 24 ∧ t.min.toNat < 60 ∧ t.sec.toNat < 60 ∧
    (t.msec.toNat < 1000 ∨ t.sec.toNat = 59 ∧ t.msec.toNat < 2000)

instance (t : Time) : Decidable t.Checked :=
  inferInstanceAs (Decidable (_ ∧ _))

/-- The time of a number of nanoseconds into a second, which may be a leap second. -/
def ofNanos (hour min sec nanos : Nat) : Time :=
  let msec := Nat.min (nanos / 1000000) 999
  ⟨UInt32.ofNat hour, UInt32.ofNat min, UInt32.ofNat sec, UInt32.ofNat msec⟩

/-- The time, if it is a checked one. -/
def check (t : Time) : Result Time :=
  if t.Checked then .ok ⟨t.hour, t.min, t.sec, if t.msec ≤ 999 then t.msec else 999⟩
  else
    let shown := t.text
    .error (.typeConversion s!"time {shown}" "chrono::NaiveTime")

end Time

namespace Timestamp

/-- The timestamp, if its date and then its time are checked ones. -/
def check (t : Timestamp) : Result Timestamp := do
  let date ← t.date.check
  let time ← t.time.check
  pure ⟨date, time⟩

end Timestamp

end PortableSql
