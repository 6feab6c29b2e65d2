import PortableSql.Number.FloatText
import PortableSql.Text.Blank

/-!
# Real numbers and their text

Reading keeps as many leading digits as a word of 64 bits holds. A real number that is stored in a
text column is written with at most seventeen significant digits, and with fewer where they look
like those of a shorter number that reads back as the same real. There is at least one digit after
the point. Zero has no sign. Numbers below a ten-thousandth and those with more than seventeen
digits before the point have an exponent.
-/
namespace PortableSql.Sqlite

namespace RealText

/-- The digits that are read stay below this number: another digit can be put behind a tenth of it
without leaving 64 bits. -/
def digitLimit : Nat := 10 * ((2 ^ (64 : Nat) - 10) / 10)

/-- The real number that is read from a number in decimal. -/
def read (negative : Bool) (s : FloatText.Scientific) : Double :=
  .ofNatBits ((s.cut digitLimit).round .double negative)

/-- Significant digits that are written. -/
def precision : Nat := 17

/-- Power of ten of the first digit of a power of two. -/
def decimalOrder (exponent : Int) : Int :=
  exponent * 78913 / 2 ^ (18 : Nat)

/-- Power of two of the first bit of a power of ten. -/
def binaryOrder (power : Int) : Int :=
  power * 108853 / 2 ^ (15 : Nat)

/-- The first 64 bits of a power of ten. -/
def powerWord (power : Int) : Nat :=
  let (n, d) := if 0 ≤ power then (10 ^ power.toNat, 1) else (1, 10 ^ (-power).toNat)
  let (n, d) := scaleRatio n d (63 - binaryOrder power)
  n / d

/-- The first eighteen or nineteen digits of the positive number `mantissa * 2 ^ exponent`, the last
one rounded with a half going up. The product with a power of ten is taken of words of 64 bits. -/
def leading (mantissa : Nat) (exponent : Int) : FloatText.Scientific :=
  let shift := 63 - mantissa.log2
  let exponent := exponent - shift
  let power := precision - decimalOrder (exponent + 63)
  let product := mantissa * 2 ^ shift * powerWord power / 2 ^ (64 : Nat)
  let halves := product / 2 ^ (-(exponent + binaryOrder power + 2)).toNat
  ⟨(halves + 1) / 2, -power⟩

/-- A shorter number that the leading digits may stand for: the fifteenth and the sixteenth are nines,
or zeros like the one before them. -/
def shorter? (s : FloatText.Scientific) : Option FloatText.Scientific :=
  let digits := Text.Decimal.digits s.mantissa
  let upTo (head : List Char) (more : Nat) : FloatText.Scientific :=
    ⟨Text.Decimal.value head + more, s.power + (digits.length - head.length : Nat)⟩
  let head := digits.take 14
  if (digits.drop 14).take 2 = ['9', '9'] then
    some (upTo (Text.dropTrailing (· == '9') head) 1)
  else if (digits.drop 13).take 3 = ['0', '0', '0'] then
    some (upTo (Text.dropTrailing (· == '0') head) 0)
  else none

/-- Leading digits rounded to as many as are written, a half going up. -/
def rounded (s : FloatText.Scientific) : FloatText.Scientific :=
  let extra := (Text.Decimal.digits s.mantissa).length - (precision + 1)
  ⟨(s.mantissa / 10 ^ extra + 5) / 10, s.power + (extra + 1 : Nat)⟩

/-- The number that is written for a positive real. -/
def written (mantissa : Nat) (exponent : Int) : FloatText.Scientific :=
  let exact := leading mantissa exponent
  let same (s : FloatText.Scientific) : Bool :=
    s.round .double false == BinaryFormat.double.encode (.finite false mantissa exponent)
  ((shorter? exact).filter same).getD (rounded exact)

/-- The text without zeros at its end, but with one character at least. -/
def dropZeros (fraction : List Char) : List Char :=
  let kept := Text.dropTrailing (· == '0') fraction
  if kept.isEmpty then ['0'] else kept

/-- Digits without an exponent. -/
def positional (digits : List Char) (power : Int) : List Char :=
  if 0 ≤ power then
    let whole := power.toNat + 1
    let zeros := List.replicate (whole - digits.length) '0'
    digits.take whole ++ (zeros ++ '.' :: dropZeros (digits.drop whole))
  else '0' :: '.' :: dropZeros (List.replicate ((-power).toNat - 1) '0' ++ digits)

/-- Digits with an exponent. -/
def exponential (digits : List Char) (power : Int) : List Char :=
  let sign := if power < 0 then '-' else '+'
  digits.take 1 ++ '.' :: (dropZeros (digits.drop 1) ++
    'e' :: sign :: Text.Decimal.padded 2 power.natAbs)

/-- Text of a positive number; `power` is that of its first digit. -/
def layout (s : FloatText.Scientific) : List Char :=
  let digits := Text.Decimal.digits s.mantissa
  let power := s.power + digits.length - 1
  if power < -4 ∨ precision ≤ power then exponential digits power else positional digits power

/-- Text of a datum. -/
def ofDatum : Datum → List Char
  | .nan => "NaN".toList
  | .infinite negative => (if negative then "-Inf" else "Inf").toList
  | .finite negative mantissa exponent =>
    if mantissa = 0 then "0.0".toList
    else
      let shown := layout (written mantissa exponent)
      if negative then '-' :: shown else shown

/-- Text of a real number. -/
def ofDouble (x : Double) : String :=
  String.ofList (ofDatum x.datum)

end RealText

end PortableSql.Sqlite
