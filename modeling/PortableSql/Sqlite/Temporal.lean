import PortableSql.Calendar.JulianMoment
import PortableSql.Sqlite.Storage
import PortableSql.Sqlite.TemporalText
import PortableSql.Text.Utf8

/-!
# Dates and times in cells

Dates and timestamps are stored as Julian days with a fraction, and times of day as parts of a day.
When they are read, text is understood too.
-/
namespace PortableSql.Sqlite

/-- The error for a cell that has no reading of a kind. -/
def noReading (cell : Stored) (kind : ValueKind) : Error :=
  .typeConversion cell.valueType.name kind.name

/-- The error for text that has no reading of a kind. -/
def notTemporal (text : String) (kind : ValueKind) : Error :=
  .typeConversion s!"string '{text}'" kind.name

/-- A cell as a timestamp. -/
def readTimestamp (cell : Stored) : Result Timestamp :=
  match cell with
  | .real moment => JulianMoment.toTimestamp moment
  | .integer day => JulianMoment.toTimestamp (.ofInt day.toInt)
  | .text text =>
    match TemporalText.timestamp? text with
    | some t => .ok t
    | none => .error (notTemporal text .timestamp)
  | cell => .error (noReading cell .timestamp)

/-- A cell as a date. -/
def readDate (cell : Stored) : Result Date :=
  (readTimestamp cell).map Timestamp.date

/-- A cell as a time of day. -/
def readTime (cell : Stored) : Result Time :=
  match cell with
  | .real days => .ok (JulianMoment.toTime days)
  | .text text =>
    match TemporalText.time? text with
    | some t => .ok t
    | none => (readTimestamp cell).map Timestamp.time
  | cell => .error (noReading cell .time)

/-- A cell as a binary object. -/
def readBlob (cell : Stored) : Result Bytes :=
  match cell with
  | .blob bytes => .ok bytes
  | .text text => .ok (Text.Utf8.encode text)
  | cell => .error (noReading cell .blob)

end PortableSql.Sqlite
