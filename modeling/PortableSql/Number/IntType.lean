import PortableSql.Number.Power

/-!
# Integer types

The eight machine integer types. Conversions compute with exact integers and check the range of the
target type.
-/
namespace PortableSql

/-- Machine integer types. -/
inductive IntType where
  | int8
  | int16
  | int32
  | int64
  | uint8
  | uint16
  | uint32
  | uint64
  deriving DecidableEq, Repr

namespace IntType

/-- All integer types. -/
def all : List IntType := [int8, int16, int32, int64, uint8, uint16, uint32, uint64]

/-- Name of the type. -/
def name : IntType → String
  | int8 => "int8"
  | int16 => "int16"
  | int32 => "int32"
  | int64 => "int64"
  | uint8 => "uint8"
  | uint16 => "uint16"
  | uint32 => "uint32"
  | uint64 => "uint64"

/-- Number of bytes. -/
def size : IntType → Nat
  | int8 | uint8 => 1
  | int16 | uint16 => 2
  | int32 | uint32 => 4
  | int64 | uint64 => 8

/-- The type has negative numbers. -/
def isSigned : IntType → Bool
  | int8 | int16 | int32 | int64 => true
  | uint8 | uint16 | uint32 | uint64 => false

/-- Number of bit patterns. -/
def modulus (t : IntType) : Nat :=
  2 ^ (8 * t.size)

/-- Smallest number of the type. -/
def least (t : IntType) : Int :=
  if t.isSigned then -(t.modulus / 2 : Nat) else 0

/-- Greatest number of the type. -/
def greatest (t : IntType) : Int :=
  if t.isSigned then (t.modulus / 2 : Nat) - 1 else (t.modulus : Nat) - 1

/-- The number belongs to the type. -/
def Fits (t : IntType) (n : Int) : Prop :=
  t.least ≤ n ∧ n ≤ t.greatest

instance (t : IntType) (n : Int) : Decidable (t.Fits n) :=
  inferInstanceAs (Decidable (_ ∧ _))

theorem modulus_pos (t : IntType) : 0 < t.modulus :=
  Nat.two_pow_pos _

end IntType

end PortableSql
