import PortableSql.Number.Power

/-!
# Binary floating-point formats

The interchange formats of IEEE 754 as bit patterns. `decode` gives the exact number of a pattern,
a mantissa times a power of two, and `round` gives the pattern nearest to a ratio of naturals, a tie
going to the pattern with the even mantissa. Arithmetic is exact and rounded once at the end.
-/
namespace PortableSql

/-- A binary format: the widths of its fraction and its exponent field. -/
structure BinaryFormat where
  fractionBits : Nat
  exponentBits : Nat
  deriving DecidableEq, Repr

/-- What a bit pattern stands for. -/
inductive Datum where
  | nan
  | infinite (negative : Bool)
  /-- The number `mantissa * 2 ^ exponent`, negated if `negative`. -/
  | finite (negative : Bool) (mantissa : Nat) (exponent : Int)
  deriving DecidableEq, Repr

/-- A ratio of naturals that equals `numerator / denominator * 2 ^ shift`. -/
def scaleRatio (numerator denominator : Nat) (shift : Int) : Nat × Nat :=
  if 0 ≤ shift then (numerator * 2 ^ shift.toNat, denominator)
  else (numerator, denominator * 2 ^ (-shift).toNat)

namespace BinaryFormat

/-- Format of 64 bits. -/
def double : BinaryFormat := ⟨52, 11⟩

/-- Format of 32 bits. -/
def single : BinaryFormat := ⟨23, 8⟩

variable (f : BinaryFormat)

/-- Exponent of the last mantissa bit of the smallest numbers. -/
def leastExponent : Int :=
  2 - 2 ^ (f.exponentBits - 1) - f.fractionBits

/-- Pattern of positive infinity, above those of all finite numbers. -/
def infinityBits : Nat :=
  (2 ^ f.exponentBits - 1) * 2 ^ f.fractionBits

/-- Pattern of the positive quiet NaN. -/
def nanBits : Nat :=
  f.infinityBits + 2 ^ (f.fractionBits - 1)

/-- The sign bit alone. -/
def signBit : Nat :=
  2 ^ (f.fractionBits + f.exponentBits)

/-- Adds the sign to the pattern of a magnitude. -/
def withSign (negative : Bool) (magnitude : Nat) : Nat :=
  if negative then f.signBit + magnitude else magnitude

/-- The number of a bit pattern. -/
def decode (bits : Nat) : Datum :=
  let negative := decide (f.signBit ≤ bits)
  let magnitude := bits % f.signBit
  if f.infinityBits < magnitude then .nan
  else if magnitude = f.infinityBits then .infinite negative
  else
    let field := magnitude / 2 ^ f.fractionBits
    let fraction := magnitude % 2 ^ f.fractionBits
    if field = 0 then .finite negative fraction f.leastExponent
    else .finite negative (fraction + 2 ^ f.fractionBits) (f.leastExponent + (field - 1 : Nat))

/-- Exponent of the last mantissa bit of the number nearest to a positive ratio. -/
def unitExponent (numerator denominator : Nat) : Int :=
  let guess : Int := numerator.log2 - denominator.log2 - f.fractionBits
  let (n, d) := scaleRatio numerator denominator (-guess)
  max f.leastExponent (if n / d < 2 ^ f.fractionBits then guess - 1 else guess)

/-- The quotient rounded to the nearest natural, a tie going to the even one. -/
def divideEven (numerator denominator : Nat) : Nat :=
  let quotient := numerator / denominator
  let twice := 2 * (numerator % denominator)
  if denominator < twice ∨ (twice = denominator ∧ quotient % 2 = 1) then quotient + 1
  else quotient

/-- Pattern of the magnitude nearest to `numerator / denominator`. -/
def roundMagnitude (numerator denominator : Nat) : Nat :=
  if numerator = 0 then 0
  else
    let exponent := f.unitExponent numerator denominator
    let (n, d) := scaleRatio numerator denominator (-exponent)
    min f.infinityBits
      ((exponent - f.leastExponent).toNat * 2 ^ f.fractionBits + divideEven n d)

/-- Pattern of the number nearest to a signed ratio. -/
def round (negative : Bool) (numerator denominator : Nat) : Nat :=
  f.withSign negative (f.roundMagnitude numerator denominator)

/-- Pattern of the number nearest to a datum, which may come from another format. -/
def encode : Datum → Nat
  | .nan => f.nanBits
  | .infinite negative => f.withSign negative f.infinityBits
  | .finite negative mantissa exponent =>
    let (n, d) := scaleRatio mantissa 1 exponent
    f.round negative n d

end BinaryFormat

end PortableSql
