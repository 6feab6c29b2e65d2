import PortableSql.Error
import PortableSql.Number.FloatText
import PortableSql.Number.FloatType
import PortableSql.Number.IntType
import PortableSql.Text.Blank

/-!
# Conversions between numbers and text

A conversion computes in a type wide enough for every source, 128-bit integers or doubles, and
checks the range of the target before it narrows. Nothing is cut off silently.
-/
namespace PortableSql.Conversion

/-- The error for a number outside an integer type. -/
def integerRange (shown source : String) (target : IntType) : Error :=
  .rangeExceeded (.number shown source target.name (Text.Decimal.ofInt target.least)
    (Text.Decimal.ofInt target.greatest))

/-- The error for a number outside a floating-point type. -/
def floatRange (shown source : String) (target : FloatType) : Error :=
  .rangeExceeded (.number shown source target.name (-target.greatest).text target.greatest.text)

/-- An integer, if it fits the target type. -/
def narrowInt (target : IntType) (n : Int) (shown source : String) : Result Int :=
  if target.Fits n then .ok n else .error (integerRange shown source target)

/-- A double in the target type, unless it is finite and outside the type's range. -/
def narrowFloat (target : FloatType) (x : Double) (shown source : String) :
    Result target.Carrier :=
  if x.isFinite && target.greatest.less x.abs then .error (floatRange shown source target)
  else .ok (target.narrow x)

/-- An integer of one type in another. -/
def intToInt (source target : IntType) (n : Int) : Result Int :=
  narrowInt target n (Text.Decimal.ofInt n) source.name

/-- An integer as a floating-point number, by way of the nearest double. -/
def intToFloat (target : FloatType) (n : Int) : target.Carrier :=
  target.narrow (.ofInt n)

/-- One half, with the sign of a double. -/
def halfLike (x : Double) : Double :=
  if x.less (.ofInt 0) then -Double.ofRatio 1 2 else .ofRatio 1 2

/-- A floating-point number as an integer, a half being rounded away from zero. -/
def floatToInt (source : FloatType) (target : IntType) (x : source.Carrier) : Result Int :=
  let wide := source.widen x
  match (wide + halfLike wide).truncate? with
  | some n => narrowInt target n (source.text x) source.name
  | none => .error (integerRange (source.text x) source.name target)

/-- A floating-point number of one type in another. -/
def floatToFloat (source target : FloatType) (x : source.Carrier) : Result target.Carrier :=
  narrowFloat target (source.widen x) (source.text x) source.name

/-- The integer that a text denotes, if it has at most 128 bits. -/
def wideInt? (text : List Char) : Option Int :=
  match Text.Decimal.parseInt? text with
  | some n => if -2 ^ (127 : Nat) ≤ n ∧ n < 2 ^ (127 : Nat) then some n else none
  | none => none

/-- The error for text that denotes no number. -/
def notNumeric (text target : String) : Error :=
  .typeConversion s!"string '{text}'" target

/-- Text as an integer. Blanks around the digits are allowed. -/
def textToInt (target : IntType) (text : String) : Result Int :=
  let trimmed := Text.trim text.toList
  match wideInt? trimmed with
  | some n => narrowInt target n (String.ofList trimmed) "string"
  | none => .error (notNumeric text target.name)

/-- Text as a floating-point number. Blanks around the digits are allowed. -/
def textToFloat (target : FloatType) (text : String) : Result target.Carrier :=
  let trimmed := Text.trim text.toList
  match FloatText.parse? trimmed with
  | some x => narrowFloat target x (String.ofList trimmed) "string"
  | none => .error (notNumeric text target.name)

end PortableSql.Conversion
