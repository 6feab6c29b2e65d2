import PortableSql.Conversion.Number
import PortableSql.Text.Utf16
import PortableSql.Value.Basic

/-!
# Values on their way into a parameter

A parameter of a declared type takes a number or a text only after it has been converted.
`Conversion.land` is the value that arrives. Dates, times, timestamps and binary objects have forms
of their own in every product and are refused here.
-/
namespace PortableSql.Conversion

/-- The error for a value that has no form in the target type. -/
def noForm (source : String) (target : ValueType) : Error :=
  .typeConversion source target.name

/-- An integer in a parameter. -/
def landInt (source : IntType) (target : ValueType) (n : Int) : Result Value :=
  match target with
  | .short => (intToInt source .int16 n).map fun n => .int16 (.ofInt n)
  | .integer => (intToInt source .int32 n).map fun n => .int32 (.ofInt n)
  | .bigint => (intToInt source .int64 n).map fun n => .int64 (.ofInt n)
  | .float => .ok (.float (intToFloat .float n))
  | .double => .ok (.double (intToFloat .double n))
  | .char | .varchar => .ok (.utf8 (Text.Decimal.ofInt n))
  | _ => .error (noForm source.name target)

/-- A floating-point number in a parameter. -/
def landFloat (source : FloatType) (target : ValueType) (x : source.Carrier) : Result Value :=
  match target with
  | .short => (floatToInt source .int16 x).map fun n => .int16 (.ofInt n)
  | .integer => (floatToInt source .int32 x).map fun n => .int32 (.ofInt n)
  | .bigint => (floatToInt source .int64 x).map fun n => .int64 (.ofInt n)
  | .float => (floatToFloat source .float x).map .float
  | .double => (floatToFloat source .double x).map .double
  | .char | .varchar => .ok (.utf8 (source.text x))
  | _ => .error (noForm source.name target)

/-- Text in a parameter. -/
def landText (target : ValueType) (text : String) : Result Value :=
  match target with
  | .short => (textToInt .int16 text).map fun n => .int16 (.ofInt n)
  | .integer => (textToInt .int32 text).map fun n => .int32 (.ofInt n)
  | .bigint => (textToInt .int64 text).map fun n => .int64 (.ofInt n)
  | .float => (textToFloat .float text).map .float
  | .double => (textToFloat .double text).map .double
  | .char | .varchar => .ok (.utf8 text)
  | _ => .error (noForm ValueKind.utf8.name target)

/-- The text of 16-bit units, if their surrogates come in pairs. -/
def textOfUnits (units : List UInt16) : Result String :=
  match Text.Utf16.decode? units with
  | some text => .ok text
  | none => .error (.typeConversion ValueKind.utf16.name ValueKind.utf8.name)

/-- The type holds a number or a text. -/
def takesText : ValueType → Bool
  | .short | .integer | .bigint | .float | .double | .char | .varchar => true
  | _ => false

/-- 16-bit text in a parameter. -/
def landUnits (target : ValueType) (units : List UInt16) : Result Value :=
  if takesText target then textOfUnits units >>= landText target
  else .error (noForm ValueKind.utf16.name target)

/-- The value that arrives in a parameter of the target type. -/
def land (target : ValueType) : Value → Result Value
  | .int16 n => landInt .int16 target n.toInt
  | .int32 n => landInt .int32 target n.toInt
  | .int64 n => landInt .int64 target n.toInt
  | .float x => landFloat .float target x
  | .double x => landFloat .double target x
  | .utf8 text => landText target text
  | .utf16 units => landUnits target units
  | value => .error (noForm value.kind.name target)

end PortableSql.Conversion
