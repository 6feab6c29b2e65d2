import PortableSql.Conversion.Fetch
import PortableSql.OneBased
import PortableSql.SqlServer.Cell
import PortableSql.Text.Utf8

/-!
# Parameters and rows of SQL Server

The server reports no types for parameters, so a value is bound as a cell of its own natural type.
A cell of a result is read in the type it has.
-/
namespace PortableSql.SqlServer

/-- Cells addressed from one. -/
abbrev Cells := List Cell

/-- The cell of a value that has arrived in a parameter of its own type. -/
def nativeCell : Value → Cell
  | .int16 n => .value (.smallint n)
  | .int32 n => .value (.int n)
  | .int64 n => .value (.bigint n)
  | .float x => .value (.real x)
  | .double x => .value (.float x)
  | .utf8 text => .value (.string text)
  | _ => .unbound

/-- The cell of a value. -/
def encode : Value → Result Cell
  | .date d => (ofDate d).map fun days => .value (.date days)
  | .time t => (ofTime t).map fun time => .value (.time time)
  | .timestamp t => (ofTimestamp t).map fun t => .value (.datetime2 t)
  | .blob bytes => .ok (.value (.binary bytes))
  | value => (Conversion.land value.kind.naturalType value).map nativeCell

/-- The error for a cell that has no reading of a kind. -/
def noReading (cell : Cell) (kind : ValueKind) : Error :=
  .typeConversion cell.valueType.name kind.name

/-- The timestamp in a cell of a type that has a date. -/
def timestampOf? : Cell → Option (Result Timestamp)
  | .value (.datetime2 t) => some (toTimestamp t)
  | .value (.datetimeoffset t _) => some (toTimestamp t)
  | .value (.datetime days ticks) => some (ofDatetime days ticks)
  | .value (.smalldatetime days minutes) => some (ofSmallDatetime days minutes)
  | .value (.date days) => some ((toDate days).map fun d => ⟨d, .midnight⟩)
  | _ => none

/-- The timestamp in a cell that is read as the given kind. -/
def timestampOf (cell : Cell) (kind : ValueKind) : Result Timestamp :=
  (timestampOf? cell).getD (.error (noReading cell kind))

/-- A cell as a small integer. -/
def readInt16 (cell : Cell) : Result Int16 :=
  match cell with
  | .value (.smallint n) => .ok n
  | .value (.tinyint n) => .ok (.ofNat n.toNat)
  | .value (.bit flag) => .ok (if flag then 1 else 0)
  | cell => .error (noReading cell .int16)

/-- A cell as an integer. -/
def readInt32 (cell : Cell) : Result Int32 :=
  match cell with
  | .value (.int n) => .ok n
  | cell => .error (noReading cell .int32)

/-- A cell as a big integer. -/
def readInt64 (cell : Cell) : Result Int64 :=
  match cell with
  | .value (.bigint n) => .ok n
  | cell => .error (noReading cell .int64)

/-- A cell as a single. -/
def readSingle (cell : Cell) : Result Single :=
  match cell with
  | .value (.real x) => .ok x
  | .value (.float x) => Conversion.floatToFloat .double .float x
  | cell => .error (noReading cell .float)

/-- A cell as a double. A number with decimal places is read by way of its text. -/
def readDouble (cell : Cell) : Result Double :=
  match cell with
  | .value (.float x) => .ok x
  | .value (.numeric n) => Conversion.textToFloat .double n.text
  | cell => .error (noReading cell .double)

/-- A cell as text. -/
def readText (cell : Cell) : Result String :=
  match cell with
  | .value (.string text) => .ok text
  | .value (.guid g) => .ok g.text
  | cell => .error (noReading cell .utf8)

/-- The readings of a cell. -/
def reader (cell : Cell) : CellReader :=
  ⟨readInt16 cell, readInt32 cell, readInt64 cell, readSingle cell, readDouble cell, readText cell⟩

/-- The text of a cell of a type that is no text itself, for the types that have one. -/
def writtenText? (cell : Cell) : Option (Result String) :=
  match cell with
  | .value (.time t) => some (.ok (toTime t).text)
  | .value (.bit flag) => some (.ok (if flag then "1" else "0"))
  | .value (.guid g) => some (.ok g.text)
  | .value (.numeric n) => some (.ok n.text)
  | .value (.date days) => some ((toDate days).map Date.text)
  | cell => (timestampOf? cell).map fun t => t.map Timestamp.text

/-- The type in which a cell is read as a number or a text. -/
def readAs (cell : Cell) (kind : ValueKind) : ValueType :=
  match cell.kind, kind with
  | .bit, .int16 | .bit, .int32 | .bit, .int64 => .short
  | _, _ => cell.valueType

/-- The bytes of a cell. -/
def readBlob (cell : Cell) : Result Bytes :=
  match cell with
  | .value (.binary bytes) => .ok bytes
  | .value (.string text) => .ok (Text.Utf8.encode text)
  | cell => .error (noReading cell .blob)

/-- The time of day in a cell. -/
def readTime (cell : Cell) : Result Time :=
  match cell with
  | .value (.time t) => .ok (toTime t)
  | cell => (timestampOf cell .time).map Timestamp.time

/-- A cell as a value of the wanted kind. -/
def decodeCell (cell : Cell) (kind : ValueKind) : Result Value :=
  match kind with
  | .date => (timestampOf cell .date).map fun t => .date t.date
  | .timestamp => (timestampOf cell .timestamp).map .timestamp
  | .time => (readTime cell).map .time
  | .blob => (readBlob cell).map .blob
  | .utf8 =>
    match writtenText? cell with
    | some text => text.map .utf8
    | none => Conversion.fetch (reader cell) cell.valueType .utf8
  | .utf16 =>
    match writtenText? cell with
    | some text => text.map fun text => .utf16 (Text.Utf16.encode text)
    | none => Conversion.fetch (reader cell) cell.valueType .utf16
  | kind => Conversion.fetch (reader cell) (readAs cell kind) kind

namespace Cells

/-- Cells that are all NULL. -/
def ofLength (length : Nat) : Cells :=
  List.replicate length .unbound

/-- The cell in a slot. -/
def cell (cells : Cells) (slot : Nat) : Result Cell :=
  match OneBased.get? cells slot with
  | some cell => .ok cell
  | none => .error (.columnNotFound (Text.Decimal.ofNat slot))

/-- Puts a cell into a slot. -/
def put (cells : Cells) (slot : Nat) (cell : Cell) : Result Cells :=
  match OneBased.set? cells slot cell with
  | some cells => .ok cells
  | none => .error (.parameterNotFound (Text.Decimal.ofNat slot))

/-- Puts a value, or NULL, into a slot. -/
def bind (cells : Cells) (slot : Nat) (value? : Option Value) : Result Cells :=
  match value? with
  | none => cells.put slot .unbound
  | some value => encode value >>= cells.put slot

/-- Reads a slot as a value of the wanted kind. -/
def decode (cells : Cells) (slot : Nat) (kind : ValueKind) : Result Value :=
  cells.cell slot >>= fun cell => decodeCell cell kind

end Cells

end PortableSql.SqlServer
