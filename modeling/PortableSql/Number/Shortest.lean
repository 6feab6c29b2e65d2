import PortableSql.Number.Float
import PortableSql.Text.Decimal

/-!
# Shortest decimal text of floating-point numbers

The text of a number has the fewest digits that read back as the same number, and among those the
digits nearest to it, a tie going up. It is written without an exponent, and without a point if the
number is whole.

The numbers that read back are an interval around the number. For one digit, two digits, and so on,
the two neighbours of the number on the grid with that many digits are tried.
-/
namespace PortableSql.Shortest

/-- A positive number and the ends of the interval of reals that round to it, each over the same
denominator. -/
structure Interval where
  value : Nat
  low : Nat
  high : Nat
  denominator : Nat
  /-- The ends themselves round to the number. -/
  closed : Bool

/-- The interval of `mantissa * 2 ^ exponent`. Below a power of two the neighbour is half as far. -/
def interval (format : BinaryFormat) (mantissa : Nat) (exponent : Int) : Interval :=
  let scale := exponent - 2
  let factor := if 0 ≤ scale then 2 ^ scale.toNat else 1
  let denominator := if 0 ≤ scale then 1 else 2 ^ (-scale).toNat
  let below := if mantissa = 2 ^ format.fractionBits then 1 else 2
  ⟨4 * mantissa * factor, (4 * mantissa - below) * factor, (4 * mantissa + 2) * factor, denominator,
    mantissa % 2 == 0⟩

namespace Interval

/-- The grid point `n * 10 ^ power` reads back as the number. -/
def holds (i : Interval) (n : Nat) (power : Int) : Bool :=
  let point := if 0 ≤ power then n * 10 ^ power.toNat * i.denominator else n * i.denominator
  let unit := if 0 ≤ power then 1 else 10 ^ (-power).toNat
  if i.closed then decide (i.low * unit ≤ point ∧ point ≤ i.high * unit)
  else decide (i.low * unit < point ∧ point < i.high * unit)

/-- The greatest `n` for which `n * 10 ^ power` is not above the number, and whether the number is
nearer to that point than to the next. -/
def below (i : Interval) (power : Int) : Nat × Bool :=
  let numerator := if 0 ≤ power then i.value else i.value * 10 ^ (-power).toNat
  let denominator := if 0 ≤ power then i.denominator * 10 ^ power.toNat else i.denominator
  (numerator / denominator, decide (2 * (numerator % denominator) < denominator))

/-- A grid point of the given power that reads back, the nearer one if both neighbours do. -/
def hit? (i : Interval) (power : Int) : Option Nat :=
  let (n, nearer) := i.below power
  match i.holds n power && n != 0, i.holds (n + 1) power with
  | true, true => some (if nearer then n else n + 1)
  | true, false => some n
  | false, true => some (n + 1)
  | false, false => none

/-- The first grid with a hit, from the power `top` downward. -/
def search (i : Interval) (top : Int) : Nat → Nat × Int
  | 0 => ((i.below top).1, top)
  | tries + 1 =>
    match i.hit? top with
    | some n => (n, top)
    | none => i.search (top - 1) tries

end Interval

/-- Removes zeros at the end of a positive number, which multiplies the power. -/
def normalize (fuel n : Nat) (power : Int) : Nat × Int :=
  match fuel with
  | 0 => (n, power)
  | fuel + 1 => if n % 10 = 0 ∧ n ≠ 0 then normalize fuel (n / 10) (power + 1) else (n, power)

/-- Fewest digits of a positive number as a whole number times a power of ten, and that number does
not end in zero. -/
def digits (format : BinaryFormat) (mantissa : Nat) (exponent : Int) : Nat × Int :=
  let i := interval format mantissa exponent
  -- The decimal logarithm of two is 0.30103 to within a hundred-thousandth.
  let top : Int := ((mantissa.log2 : Int) + exponent + 1) * 30103 / 100000 + 1
  let (n, power) := i.search top (format.fractionBits + 6)
  normalize (Text.Decimal.digits n).length n power

/-- The number `n * 10 ^ power` without an exponent. -/
def positional (n : Nat) (power : Int) : List Char :=
  let text := Text.Decimal.digits n
  if 0 ≤ power then text ++ List.replicate power.toNat '0'
  else
    let places := (-power).toNat
    if text.length ≤ places then
      '0' :: '.' :: (List.replicate (places - text.length) '0' ++ text)
    else text.take (text.length - places) ++ '.' :: text.drop (text.length - places)

/-- Text of a number of the format. -/
def text (format : BinaryFormat) : Datum → List Char
  | .nan => "NaN".toList
  | .infinite negative => (if negative then "-inf" else "inf").toList
  | .finite negative mantissa exponent =>
    let body :=
      if mantissa = 0 then ['0']
      else
        let (n, power) := digits format mantissa exponent
        positional n power
    if negative then '-' :: body else body

end PortableSql.Shortest

namespace PortableSql

/-- Shortest text of a double. -/
def Double.text (x : Double) : String :=
  String.ofList (Shortest.text .double x.datum)

/-- Shortest text of a single. -/
def Single.text (x : Single) : String :=
  String.ofList (Shortest.text .single x.datum)

end PortableSql
