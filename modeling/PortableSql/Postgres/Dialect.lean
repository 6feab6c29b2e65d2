import PortableSql.Sql.Dialect
import PortableSql.Text.Decimal

/-!
# Placeholders and sequences of PostgreSQL

Placeholders are `$1`, `$2` and so on. A sequence gives its next value through a function call.
-/
namespace PortableSql.Postgres

/-- The placeholder of a slot. -/
def placeholder (slot : Nat) : List Char :=
  '$' :: Text.Decimal.digits slot

/-- The call that gives the next value of a sequence. -/
def nextValue (sequence other : List Char) : List Char :=
  "nextval('".toList ++ (sequence ++ ("')".toList ++ other))

/-- How PostgreSQL wants SQL to be written. -/
def dialect : Dialect where
  position _ slot := placeholder slot
  name _ slot := placeholder slot
  ifSeq data other := data ++ other
  next := nextValue
  coalescing := true

end PortableSql.Postgres
