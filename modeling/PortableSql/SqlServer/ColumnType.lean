import PortableSql.SqlServer.Cell

/-!
# Column types of SQL Server

The types that the server declares for the columns of a result.
-/
namespace PortableSql.SqlServer

/-- Types of columns on the wire. -/
inductive ColumnType where
  | null
  | bit
  | int1
  | int2
  | int4
  | int8
  | datetime4
  | float4
  | float8
  | money
  | datetime
  | money4
  | guid
  | intn
  | bitn
  | decimaln
  | numericn
  | floatn
  | datetimen
  | daten
  | timen
  | datetime2
  | datetimeOffsetn
  | bigVarBin
  | bigVarChar
  | bigBinary
  | bigChar
  | nVarchar
  | nChar
  | xml
  | udt
  | text
  | image
  | nText
  | ssVariant
  deriving DecidableEq, Repr

namespace ColumnType

/-- All types with their names. -/
def named : List (String × ColumnType) :=
  [("Null", null), ("Bit", bit), ("Int1", int1), ("Int2", int2), ("Int4", int4), ("Int8", int8),
    ("Datetime4", datetime4), ("Float4", float4), ("Float8", float8), ("Money", money),
    ("Datetime", datetime), ("Money4", money4), ("Guid", guid), ("Intn", intn), ("Bitn", bitn),
    ("Decimaln", decimaln), ("Numericn", numericn), ("Floatn", floatn), ("Datetimen", datetimen),
    ("Daten", daten), ("Timen", timen), ("Datetime2", datetime2),
    ("DatetimeOffsetn", datetimeOffsetn), ("BigVarBin", bigVarBin), ("BigVarChar", bigVarChar),
    ("BigBinary", bigBinary), ("BigChar", bigChar), ("NVarchar", nVarchar), ("NChar", nChar),
    ("Xml", xml), ("Udt", udt), ("Text", text), ("Image", image), ("NText", nText),
    ("SSVariant", ssVariant)]

/-- The type with a name. -/
def ofName? (name : String) : Option ColumnType :=
  (named.find? (·.1 == name)).map (·.2)

/-- The declared type of a column. -/
def valueType : ColumnType → ValueType
  | int1 | int2 => .short
  | int4 => .integer
  | int8 | intn => .bigint
  | float4 => .float
  | float8 | floatn | decimaln | numericn | money | money4 => .double
  | bigChar | nChar => .char
  | bigVarChar | nVarchar | text | nText | guid => .varchar
  | daten => .date
  | timen => .time
  | datetime | datetime4 | datetimen | datetime2 | datetimeOffsetn => .timestamp
  | bigVarBin | bigBinary | image => .blob
  | bit | bitn => .boolean
  | null | xml | udt | ssVariant => .any

/-- The type of the NULLs in a column. -/
def nullKind : ColumnType → CellKind
  | int1 => .tinyint
  | int2 => .smallint
  | int4 | null => .int
  | int8 | intn => .bigint
  | float4 | money4 => .real
  | float8 | floatn | money => .float
  | decimaln | numericn => .numeric
  | bigChar | nChar | bigVarChar | nVarchar | text | nText | ssVariant | udt => .string
  | guid => .guid
  | daten => .date
  | timen => .time
  | datetime | datetimen => .datetime
  | datetime4 => .smalldatetime
  | datetime2 => .datetime2
  | datetimeOffsetn => .datetimeoffset
  | bigVarBin | bigBinary | image => .binary
  | bit | bitn => .bit
  | xml => .xml

end ColumnType

end PortableSql.SqlServer
