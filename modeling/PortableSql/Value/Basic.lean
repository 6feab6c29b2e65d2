import PortableSql.Bytes.BigEndian
import PortableSql.Calendar.Basic
import PortableSql.Value.Type

/-!
# Values

A `Value` is what callers bind to parameters and read from columns. The absence of a value is not
one of them: where it can occur, an option of a value is used.
-/
namespace PortableSql

/-- Kinds of values. -/
inductive ValueKind where
  | int16
  | int32
  | int64
  | float
  | double
  | utf8
  | utf16
  | date
  | time
  | timestamp
  | blob
  deriving DecidableEq, Repr

/-- A value of one of the kinds. -/
inductive Value where
  | int16 (value : Int16)
  | int32 (value : Int32)
  | int64 (value : Int64)
  | float (value : Single)
  | double (value : Double)
  | utf8 (text : String)
  /-- Text in 16-bit units, which may be malformed. -/
  | utf16 (units : List UInt16)
  | date (value : Date)
  | time (value : Time)
  | timestamp (value : Timestamp)
  | blob (bytes : Bytes)
  deriving DecidableEq, Repr

namespace ValueKind

/-- All kinds. -/
def all : List ValueKind :=
  [int16, int32, int64, float, double, utf8, utf16, date, time, timestamp, blob]

/-- Name of the kind. -/
def name : ValueKind → String
  | int16 => "int16"
  | int32 => "int32"
  | int64 => "int64"
  | float => "float"
  | double => "double"
  | utf8 => "utf8 string"
  | utf16 => "utf16 string"
  | date => "date"
  | time => "time"
  | timestamp => "timestamp"
  | blob => "blob"

/-- Type of a parameter of this kind where the database declares none. -/
def naturalType : ValueKind → ValueType
  | int16 => .short
  | int32 => .integer
  | int64 => .bigint
  | float => .float
  | double => .double
  | utf8 | utf16 => .varchar
  | date => .date
  | time => .time
  | timestamp => .timestamp
  | blob => .blob

end ValueKind

namespace Value

/-- The kind of a value. -/
def kind : Value → ValueKind
  | int16 _ => .int16
  | int32 _ => .int32
  | int64 _ => .int64
  | float _ => .float
  | double _ => .double
  | utf8 _ => .utf8
  | utf16 _ => .utf16
  | date _ => .date
  | time _ => .time
  | timestamp _ => .timestamp
  | blob _ => .blob

/-- The text of a UTF-8 text. -/
def text? : Value → Option String
  | utf8 text => some text
  | _ => none

/-- The number of an integer of any width. -/
def int64? : Value → Option Int64
  | int16 value => some (Int64.ofInt value.toInt)
  | int32 value => some (Int64.ofInt value.toInt)
  | int64 value => some value
  | _ => none

/-- The number of a floating-point value of either width. -/
def double? : Value → Option Double
  | float value => some value.widen
  | double value => some value
  | _ => none

end Value

end PortableSql
