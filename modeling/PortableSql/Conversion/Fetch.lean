import PortableSql.Conversion.Bind

/-!
# Values on their way out of a column

A column of a known type is read in that type and then converted to what the caller asks for.
Trailing spaces of fixed-width text are dropped.
-/
namespace PortableSql

/-- What one cell gives when it is read as a value of each native kind. -/
structure CellReader where
  int16 : Result Int16
  int32 : Result Int32
  int64 : Result Int64
  float : Result Single
  double : Result Double
  text : Result String

namespace CellReader

/-- Reads a value that must have a kind. -/
def ofKind {α : Type} (cell : Result Value) (kind : ValueKind) (pick : Value → Option α) :
    Result α := do
  let value ← cell
  match pick value with
  | some a => pure a
  | none => .error (.typeConversion value.kind.name kind.name)

/-- The readings of a cell that gives its value as the kind it has, and no other. -/
def ofValue (cell : Result Value) : CellReader where
  int16 := ofKind cell .int16 fun | .int16 n => some n | _ => none
  int32 := ofKind cell .int32 fun | .int32 n => some n | _ => none
  int64 := ofKind cell .int64 fun | .int64 n => some n | _ => none
  float := ofKind cell .float fun | .float x => some x | _ => none
  double := ofKind cell .double fun | .double x => some x | _ => none
  text := ofKind cell .utf8 Value.text?

/-- The text in 16-bit units. -/
def units (cell : CellReader) : Result (List UInt16) :=
  cell.text.map Text.Utf16.encode

end CellReader

namespace Conversion

/-- The text without spaces at its end. -/
def trimPadding (text : String) : String :=
  String.ofList (Text.dropTrailing (· == ' ') text.toList)

/-- The code unit of a space. -/
def spaceUnit : UInt16 := 0x20

/-- The units without spaces at their end. -/
def trimPaddingUnits (units : List UInt16) : List UInt16 :=
  Text.dropTrailing (· == spaceUnit) units

/-- The error for a column whose type has no reading of the wanted kind. -/
def noReading (source : ValueType) (target : String) : Error :=
  .typeConversion source.name target

/-- A column as an integer. -/
def fetchInt (cell : CellReader) (source : ValueType) (target : IntType) : Result Int :=
  match source with
  | .short => cell.int16 >>= fun n => intToInt .int16 target n.toInt
  | .integer => cell.int32 >>= fun n => intToInt .int32 target n.toInt
  | .bigint => cell.int64 >>= fun n => intToInt .int64 target n.toInt
  | .float => cell.float >>= floatToInt .float target
  | .double => cell.double >>= floatToInt .double target
  | .char => cell.text >>= fun text => textToInt target (trimPadding text)
  | .varchar => cell.text >>= textToInt target
  | _ => .error (noReading source target.name)

/-- A column as a floating-point number. -/
def fetchFloat (cell : CellReader) (source : ValueType) (target : FloatType) :
    Result target.Carrier :=
  match source with
  | .short => cell.int16.map fun n => intToFloat target n.toInt
  | .integer => cell.int32.map fun n => intToFloat target n.toInt
  | .bigint => cell.int64.map fun n => intToFloat target n.toInt
  | .float => cell.float >>= floatToFloat .float target
  | .double => cell.double >>= floatToFloat .double target
  | .char => cell.text >>= fun text => textToFloat target (trimPadding text)
  | .varchar => cell.text >>= textToFloat target
  | _ => .error (noReading source target.name)

/-- A column as text. -/
def fetchText (cell : CellReader) (source : ValueType) : Result String :=
  match source with
  | .short => cell.int16.map fun n => Text.Decimal.ofInt n.toInt
  | .integer => cell.int32.map fun n => Text.Decimal.ofInt n.toInt
  | .bigint => cell.int64.map fun n => Text.Decimal.ofInt n.toInt
  | .float => cell.float.map Single.text
  | .double => cell.double.map Double.text
  | .char => cell.text.map trimPadding
  | .varchar => cell.text
  | _ => .error (noReading source ValueKind.utf8.name)

/-- A column as text in 16-bit units. -/
def fetchUnits (cell : CellReader) (source : ValueType) : Result (List UInt16) :=
  match source with
  | .varchar => cell.units
  | .char => cell.units.map trimPaddingUnits
  | _ => (fetchText cell source).map Text.Utf16.encode

/-- A column as a value of the wanted kind. -/
def fetch (cell : CellReader) (source : ValueType) (kind : ValueKind) : Result Value :=
  match kind with
  | .int16 => (fetchInt cell source .int16).map fun n => .int16 (.ofInt n)
  | .int32 => (fetchInt cell source .int32).map fun n => .int32 (.ofInt n)
  | .int64 => (fetchInt cell source .int64).map fun n => .int64 (.ofInt n)
  | .float => (fetchFloat cell source .float).map .float
  | .double => (fetchFloat cell source .double).map .double
  | .utf8 => (fetchText cell source).map .utf8
  | .utf16 => (fetchUnits cell source).map .utf16
  | _ => .error (noReading source kind.name)

end Conversion

end PortableSql
