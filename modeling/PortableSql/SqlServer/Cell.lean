import PortableSql.SqlServer.Wire
import PortableSql.Text.Hex
import PortableSql.Value.Basic

/-!
# Cells as SQL Server sends them

A cell is a scalar of one of the server's types, or the NULL of such a type.
-/
namespace PortableSql.SqlServer

/-- Types of cells. -/
inductive CellKind where
  | tinyint
  | smallint
  | int
  | bigint
  | real
  | float
  | bit
  | string
  | guid
  | binary
  | numeric
  | xml
  | datetime
  | smalldatetime
  | time
  | date
  | datetime2
  | datetimeoffset
  deriving DecidableEq, Repr

/-- A number with a fixed count of decimal places. -/
structure Numeric where
  unscaled : Int
  scale : Nat
  deriving DecidableEq, Repr

/-- A universally unique identifier, as sixteen bytes. -/
structure Guid where
  bytes : Bytes
  deriving DecidableEq, Repr

/-- Values of cells. -/
inductive Scalar where
  | tinyint (n : UInt8)
  | smallint (n : Int16)
  | int (n : Int32)
  | bigint (n : Int64)
  | real (x : Single)
  | float (x : Double)
  | bit (flag : Bool)
  | string (text : String)
  | guid (g : Guid)
  | binary (bytes : Bytes)
  | numeric (n : Numeric)
  | xml (text : String)
  | datetime (days : Int32) (ticks : UInt32)
  | smalldatetime (days minutes : UInt16)
  | time (t : WireTime)
  | date (days : UInt32)
  | datetime2 (t : WireTimestamp)
  | datetimeoffset (t : WireTimestamp) (offset : Int)
  deriving DecidableEq, Repr

/-- A scalar, or the NULL of a type. -/
inductive Cell where
  | null (kind : CellKind)
  | value (scalar : Scalar)
  deriving DecidableEq, Repr

namespace Numeric

/-- Decimal text: sign, whole part, point, and a fraction of at least one digit. -/
def text (n : Numeric) : String :=
  let unit := 10 ^ n.scale
  let magnitude := n.unscaled.natAbs
  let sign := if n.unscaled < 0 then ['-'] else []
  String.ofList (sign ++ Text.Decimal.digits (magnitude / unit) ++
    '.' :: Text.Decimal.padded n.scale (magnitude % unit))

end Numeric

namespace Guid

/-- Five groups of digits with hyphens between them. -/
def text (g : Guid) : String :=
  let group (skip count : Nat) := Text.Hex.encode ((g.bytes.drop skip).take count)
  String.ofList (group 0 4 ++ '-' :: (group 4 2 ++ '-' :: (group 6 2 ++ '-' :: (group 8 2 ++
    '-' :: group 10 6))))

/-- The identifier that a text of thirty-two digits shows, whatever its hyphens. -/
def ofText? (text : String) : Option Guid :=
  match Text.Hex.decode? (text.toList.filter (· != '-')) with
  | some bytes => if bytes.length = 16 then some ⟨bytes⟩ else none
  | none => none

end Guid

namespace Scalar

/-- The type of a value. -/
def kind : Scalar → CellKind
  | tinyint _ => .tinyint
  | smallint _ => .smallint
  | int _ => .int
  | bigint _ => .bigint
  | real _ => .real
  | float _ => .float
  | bit _ => .bit
  | string _ => .string
  | guid _ => .guid
  | binary _ => .binary
  | numeric _ => .numeric
  | xml _ => .xml
  | datetime .. => .datetime
  | smalldatetime .. => .smalldatetime
  | time _ => .time
  | date _ => .date
  | datetime2 _ => .datetime2
  | datetimeoffset .. => .datetimeoffset

end Scalar

namespace CellKind

/-- The declared type of cells of a type. -/
def valueType : CellKind → ValueType
  | tinyint | smallint => .short
  | int => .integer
  | bigint => .bigint
  | real => .float
  | float | numeric => .double
  | bit => .boolean
  | string | guid => .varchar
  | binary => .blob
  | date => .date
  | time => .time
  | datetime | smalldatetime | datetime2 | datetimeoffset => .timestamp
  | xml => .any

end CellKind

namespace Cell

/-- The type of a cell. -/
def kind : Cell → CellKind
  | null kind => kind
  | value scalar => scalar.kind

/-- The cell is NULL. -/
def isNull : Cell → Bool
  | null _ => true
  | value _ => false

/-- The declared type of a cell. -/
def valueType (c : Cell) : ValueType :=
  c.kind.valueType

/-- NULL as it is bound to a parameter. -/
def unbound : Cell := null .string

end Cell

end PortableSql.SqlServer
