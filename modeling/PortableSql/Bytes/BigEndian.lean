import PortableSql.Error
import PortableSql.Number.Float
import PortableSql.Number.IntType

/-!
# Numbers as bytes, most significant first

An integer is written in two's complement in as many bytes as its type has, a floating-point number
as its bit pattern. Reading takes the first bytes of a buffer and fails if there are too few.
-/
namespace PortableSql

/-- Bytes of a message or a binary object. -/
abbrev Bytes := List UInt8

namespace BigEndian

/-- The last `width` digits of a number to the base 256. -/
def ofNat : (width n : Nat) → Bytes
  | 0, _ => []
  | width + 1, n => ofNat width (n / 256) ++ [UInt8.ofNat (n % 256)]

/-- The number whose digits to the base 256 are given. -/
def toNat (bytes : Bytes) : Nat :=
  bytes.foldl (fun n b => n * 256 + b.toNat) 0

/-- The first `width` bytes of a buffer. -/
def first (width : Nat) (buffer : Bytes) : Result Bytes :=
  if width ≤ buffer.length then .ok (buffer.take width)
  else
    let given := Text.Decimal.ofNat buffer.length
    let wanted := Text.Decimal.ofNat width
    .error (.typeConversion s!"{given} byte buffer" s!"{wanted} byte value")

@[simp] theorem length_ofNat (width n : Nat) : (ofNat width n).length = width := by
  induction width generalizing n with
  | zero => rfl
  | succ width ih => simp [ofNat, ih]

@[simp] theorem toNat_nil : toNat [] = 0 := rfl

theorem toNat_append_singleton (bytes : Bytes) (b : UInt8) :
    toNat (bytes ++ [b]) = toNat bytes * 256 + b.toNat := by
  simp [toNat]

end BigEndian

namespace IntType

/-- The bit pattern of an integer in two's complement. -/
def pattern (t : IntType) (n : Int) : Nat :=
  (n % t.modulus).toNat

/-- The integer of a bit pattern in two's complement. -/
def ofPattern (t : IntType) (bits : Nat) : Int :=
  if t.isSigned && decide (t.modulus / 2 ≤ bits) then (bits : Int) - t.modulus else bits

/-- Writes an integer. -/
def toBytes (t : IntType) (n : Int) : Bytes :=
  BigEndian.ofNat t.size (t.pattern n)

/-- Reads an integer from the start of a buffer. -/
def readBytes (t : IntType) (buffer : Bytes) : Result Int :=
  (BigEndian.first t.size buffer).map fun bytes => t.ofPattern (BigEndian.toNat bytes)

@[simp] theorem length_toBytes (t : IntType) (n : Int) : (t.toBytes n).length = t.size :=
  BigEndian.length_ofNat ..

end IntType

/-- Writes a double. -/
def Double.toBytes (x : Double) : Bytes :=
  BigEndian.ofNat 8 x.bits.toNat

/-- Reads a double from the start of a buffer. -/
def Double.readBytes (buffer : Bytes) : Result Double :=
  (BigEndian.first 8 buffer).map fun bytes => .ofNatBits (BigEndian.toNat bytes)

/-- Writes a single. -/
def Single.toBytes (x : Single) : Bytes :=
  BigEndian.ofNat 4 x.bits.toNat

/-- Reads a single from the start of a buffer. -/
def Single.readBytes (buffer : Bytes) : Result Single :=
  (BigEndian.first 4 buffer).map fun bytes => .ofNatBits (BigEndian.toNat bytes)

end PortableSql
