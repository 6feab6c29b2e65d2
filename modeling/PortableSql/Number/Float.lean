import PortableSql.Number.BinaryFormat

/-!
# Floating-point numbers

`Double` and `Single` are bit patterns of the 64-bit and the 32-bit format. The operations on
doubles are exact and rounded once to the nearest double, so they are functions on integers.
-/
namespace PortableSql

/-- A number of the 64-bit binary format. -/
structure Double where
  bits : UInt64
  deriving DecidableEq, Repr

/-- A number of the 32-bit binary format. -/
structure Single where
  bits : UInt32
  deriving DecidableEq, Repr

namespace Datum

/-- The datum is a number. -/
def isFinite : Datum → Bool
  | finite .. => true
  | _ => false

/-- The datum with the other sign. -/
def neg : Datum → Datum
  | nan => nan
  | infinite negative => infinite !negative
  | finite negative mantissa exponent => finite (!negative) mantissa exponent

/-- Mantissa with its sign. -/
def signedMantissa (negative : Bool) (mantissa : Nat) : Int :=
  if negative then -(mantissa : Int) else mantissa

/-- The exact sum. An exact zero is negative only if both parts are. -/
def add : Datum → Datum → Datum
  | nan, _ | _, nan => nan
  | infinite s, infinite t => if s = t then infinite s else nan
  | infinite s, finite .. => infinite s
  | finite .., infinite t => infinite t
  | finite s m e, finite t n d =>
    let low := min e d
    let sum := signedMantissa s m * 2 ^ (e - low).toNat + signedMantissa t n * 2 ^ (d - low).toNat
    if sum = 0 then finite (s && t) 0 low else finite (decide (sum < 0)) sum.natAbs low

/-- The exact product. -/
def mul : Datum → Datum → Datum
  | nan, _ | _, nan => nan
  | infinite s, infinite t => infinite (s != t)
  | infinite s, finite t m _ | finite t m _, infinite s => if m = 0 then nan else infinite (s != t)
  | finite s m e, finite t n d => finite (s != t) (m * n) (e + d)

/-- The integer part, dropping the fraction. -/
def truncate (mantissa : Nat) (exponent : Int) : Nat :=
  if 0 ≤ exponent then mantissa * 2 ^ exponent.toNat else mantissa / 2 ^ (-exponent).toNat

end Datum

namespace Double

/-- The double with the given bit pattern. -/
def ofNatBits (bits : Nat) : Double := ⟨UInt64.ofNat bits⟩

/-- The number of the pattern. -/
def datum (x : Double) : Datum :=
  BinaryFormat.double.decode x.bits.toNat

/-- The double nearest to a datum. -/
def ofDatum (d : Datum) : Double :=
  ofNatBits (BinaryFormat.double.encode d)

/-- The positive quiet NaN. -/
def nan : Double := ofNatBits BinaryFormat.double.nanBits

/-- The double nearest to an integer. -/
def ofInt (n : Int) : Double :=
  ofNatBits (BinaryFormat.double.round (decide (n < 0)) n.natAbs 1)

/-- The double nearest to a ratio of naturals. -/
def ofRatio (numerator denominator : Nat) : Double :=
  ofNatBits (BinaryFormat.double.round false numerator denominator)

/-- The greatest finite double. -/
def greatest : Double := ofNatBits (BinaryFormat.double.infinityBits - 1)

/-- The pattern is that of no number at all. -/
def isNan (x : Double) : Bool :=
  match x.datum with
  | .nan => true
  | _ => false

/-- Neither infinite nor NaN. -/
def isFinite (x : Double) : Bool :=
  x.datum.isFinite

instance : Neg Double := ⟨fun x => ofDatum x.datum.neg⟩
instance : Add Double := ⟨fun x y => ofDatum (x.datum.add y.datum)⟩
instance : Sub Double := ⟨fun x y => ofDatum (x.datum.add y.datum.neg)⟩
instance : Mul Double := ⟨fun x y => ofDatum (x.datum.mul y.datum)⟩

/-- The double nearest to the quotient by a positive natural. -/
def divNat (x : Double) (divisor : Nat) : Double :=
  match x.datum with
  | .finite negative mantissa exponent =>
    let (n, d) := scaleRatio mantissa 1 exponent
    ofNatBits (BinaryFormat.double.round negative n (d * divisor))
  | d => ofDatum d

/-- Key by which doubles other than NaN are ordered; both zeros have the same. -/
def orderKey (x : Double) : Int :=
  let sign := BinaryFormat.double.signBit
  let bits := x.bits.toNat
  if sign ≤ bits then -((bits - sign : Nat) : Int) else bits

/-- Numeric order; NaN is not below anything and nothing is below it. -/
def less (x y : Double) : Bool :=
  !x.isNan && !y.isNan && decide (x.orderKey < y.orderKey)

/-- Numeric equality; NaN equals nothing and the two zeros are equal. -/
def numEq (x y : Double) : Bool :=
  !x.isNan && !y.isNan && decide (x.orderKey = y.orderKey)

/-- The number without its sign. -/
def abs (x : Double) : Double :=
  ofNatBits (x.bits.toNat % BinaryFormat.double.signBit)

/-- The integer part toward zero, if the number is finite. -/
def truncate? (x : Double) : Option Int :=
  match x.datum with
  | .finite negative mantissa exponent =>
    some (Datum.signedMantissa negative (Datum.truncate mantissa exponent))
  | _ => none

/-- The greatest integer that is not above the number, if the number is finite. -/
def floor? (x : Double) : Option Int :=
  match x.datum with
  | .finite negative mantissa exponent =>
    let signed := Datum.signedMantissa negative mantissa
    some (if 0 ≤ exponent then signed * 2 ^ exponent.toNat else signed / 2 ^ (-exponent).toNat)
  | _ => none

/-- The greatest whole double that is not above the number. Zeros keep their sign. -/
def floor (x : Double) : Double :=
  match x.datum with
  | .finite _ 0 _ => x
  | _ =>
    match x.floor? with
    | some n => ofInt n
    | none => x

/-- The number as an unsigned 32-bit integer: the integer part, or the nearest end of the range. -/
def toUInt32 (x : Double) : UInt32 :=
  match x.datum with
  | .nan => 0
  | .infinite negative => if negative then 0 else 4294967295
  | .finite negative mantissa exponent =>
    if negative then 0 else UInt32.ofNat (min 4294967295 (Datum.truncate mantissa exponent))

end Double

namespace Single

/-- The single with the given bit pattern. -/
def ofNatBits (bits : Nat) : Single := ⟨UInt32.ofNat bits⟩

/-- The number of the pattern. -/
def datum (x : Single) : Datum :=
  BinaryFormat.single.decode x.bits.toNat

/-- The double with the same value. -/
def widen (x : Single) : Double :=
  Double.ofDatum x.datum

/-- The single nearest to a double. -/
def ofDouble (x : Double) : Single :=
  ofNatBits (BinaryFormat.single.encode x.datum)

/-- The greatest finite single. -/
def greatest : Single := ofNatBits (BinaryFormat.single.infinityBits - 1)

end Single

end PortableSql
