/-!
# Declared types

The type a database declares for a parameter or a column.
-/
namespace PortableSql

/-- Type of a parameter or a column. -/
inductive ValueType where
  | any
  | none
  | integer
  | short
  | bigint
  | char
  | varchar
  | boolean
  | float
  | double
  | date
  | time
  | timestamp
  | blob
  | null
  deriving DecidableEq, Repr

namespace ValueType

/-- All types. -/
def all : List ValueType :=
  [any, none, integer, short, bigint, char, varchar, boolean, float, double, date, time, timestamp,
    blob, null]

/-- Name of the type. -/
def name : ValueType → String
  | any => "any"
  | none => "none"
  | integer => "integer"
  | short => "short"
  | bigint => "bigint"
  | char => "char"
  | varchar => "varchar"
  | boolean => "boolean"
  | float => "float"
  | double => "double"
  | date => "date"
  | time => "time"
  | timestamp => "timestamp"
  | blob => "blob"
  | null => "null"

end ValueType

end PortableSql
