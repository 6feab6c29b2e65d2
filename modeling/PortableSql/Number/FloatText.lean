import PortableSql.Number.Float
import PortableSql.Text.Decimal

/-!
# Reading floating-point numbers

A number is written with an optional sign and either `inf`, `infinity` or `nan` in any letter case,
or digits with an optional point among or beside them and an optional exponent. The double read is
the one nearest to the number written.
-/
namespace PortableSql.FloatText

/-- Digits, point and exponent as written. -/
structure Scientific where
  /-- All digits, without the point. -/
  mantissa : Nat
  /-- Power of ten that the digits are multiplied by. -/
  power : Int
  deriving DecidableEq, Repr

/-- The number cut to as many leading digits as stay below a limit. -/
def Scientific.cut (limit : Nat) (s : Scientific) : Scientific :=
  if s.mantissa < limit ∨ s.mantissa = 0 then s else cut limit ⟨s.mantissa / 10, s.power + 1⟩
termination_by s.mantissa
decreasing_by exact Nat.div_lt_self (by omega) (by decide)

/-- Reads an exponent, which must be the whole text; no text means zero. -/
def exponent? : List Char → Option Int
  | [] => some 0
  | c :: rest =>
    if c = 'e' ∨ c = 'E' then Text.Decimal.parseInt? rest else none

/-- Reads digits, an optional point and an optional exponent, which must be the whole text. -/
def scientific? (text : List Char) : Option Scientific :=
  let whole := text.takeWhile Char.isDigit
  let rest := text.dropWhile Char.isDigit
  let (fraction, rest) := match rest with
    | '.' :: tail => (tail.takeWhile Char.isDigit, tail.dropWhile Char.isDigit)
    | _ => ([], rest)
  let digits := whole ++ fraction
  if digits.isEmpty then none
  else (exponent? rest).map fun power => ⟨Text.Decimal.value digits, power - fraction.length⟩

/-- The pattern nearest to a number written in decimal. Powers far outside the format's range are
not computed. -/
def Scientific.round (format : BinaryFormat) (negative : Bool) (s : Scientific) : Nat :=
  if s.mantissa = 0 then format.withSign negative 0
  else
    let magnitude := s.power + (Text.Decimal.digits s.mantissa).length
    if 400 < magnitude then format.withSign negative format.infinityBits
    else if magnitude < -400 then format.withSign negative 0
    else if 0 ≤ s.power then format.round negative (s.mantissa * 10 ^ s.power.toNat) 1
    else format.round negative s.mantissa (10 ^ (-s.power).toNat)

/-- The sign in front of a number, and what follows it. -/
def splitSign : List Char → Bool × List Char
  | '-' :: rest => (true, rest)
  | '+' :: rest => (false, rest)
  | rest => (false, rest)

/-- Reads a double, which must be the whole text. -/
def parse? (text : List Char) : Option Double :=
  let (negative, body) := splitSign text
  let word := String.ofList (body.map Char.toLower)
  if word = "inf" ∨ word = "infinity" then some (.ofDatum (.infinite negative))
  else if word = "nan" then some .nan
  else (scientific? body).map fun s => .ofNatBits (s.round .double negative)

end PortableSql.FloatText
