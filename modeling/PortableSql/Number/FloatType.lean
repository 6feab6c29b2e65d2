import PortableSql.Number.Shortest

/-!
# Floating-point types

The two floating-point types. Conversions compute with doubles, of which every single is one, and
narrow the result to the target type.
-/
namespace PortableSql

/-- Floating-point types. -/
inductive FloatType where
  | float
  | double
  deriving DecidableEq, Repr

namespace FloatType

/-- Both types. -/
def all : List FloatType := [float, double]

/-- Name of the type. -/
def name : FloatType → String
  | float => "float"
  | double => "double"

/-- Numbers of the type. -/
abbrev Carrier : FloatType → Type
  | float => Single
  | double => Double

/-- Greatest finite number of the type. -/
def greatest : FloatType → Double
  | float => Single.greatest.widen
  | double => Double.greatest

/-- The double with the same value. -/
def widen : (t : FloatType) → t.Carrier → Double
  | float, x => Single.widen x
  | double, x => x

/-- The number of the type that is nearest to a double. -/
def narrow : (t : FloatType) → Double → t.Carrier
  | float, x => Single.ofDouble x
  | double, x => x

/-- Decimal text of a number. -/
def text : (t : FloatType) → t.Carrier → String
  | float, x => Single.text x
  | double, x => Double.text x

end FloatType

end PortableSql
