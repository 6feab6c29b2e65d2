import PortableSql.Sql.Dialect
import PortableSql.Text.Decimal

/-!
# Placeholders and sequences of SQL Server

Placeholders are `@P1`, `@P2` and so on. A sequence gives its next value through an expression.
-/
namespace PortableSql.SqlServer

/-- The placeholder of a slot. -/
def placeholder (slot : Nat) : List Char :=
  '@' :: 'P' :: Text.Decimal.digits slot

/-- The expression that gives the next value of a sequence. -/
def nextValue (sequence other : List Char) : List Char :=
  "NEXT VALUE FOR ".toList ++ (sequence ++ other)

/-- How SQL Server wants SQL to be written. -/
def dialect : Dialect where
  position _ slot := placeholder slot
  name _ slot := placeholder slot
  ifSeq data other := data ++ other
  next := nextValue
  coalescing := true

end PortableSql.SqlServer
