import Mathlib.Data.List.Induction
import PortableSql.Bytes.BigEndian

/-!
# Numbers and their bytes

The bytes of a number are its last digits to the base 256. In two's complement the negative numbers
of a type are those whose digits are the greatest, so no two numbers of a type have the same bytes,
and a number is read back from its bytes whatever comes behind them. In the other direction all bytes
are those of a number, which is written as these bytes again.
-/
namespace PortableSql

namespace BigEndian

/-- Reading the digits gives the number as far as they reach. -/
theorem toNat_ofNat (width n : Nat) : toNat (ofNat width n) = n % 256 ^ width := by
  induction width generalizing n with
  | zero => simp [ofNat, Nat.mod_one]
  | succ width ih =>
    have hdigit : (UInt8.ofNat (n % 256)).toNat = n % 256 := by simp
    rw [ofNat, toNat_append_singleton, ih, hdigit, Nat.pow_succ, Nat.mul_comm (256 ^ width),
      Nat.mod_mul]
    omega

theorem toNat_lt (bytes : Bytes) : toNat bytes < 256 ^ bytes.length := by
  induction bytes using List.reverseRecOn with
  | nil => exact Nat.one_pos
  | append_singleton bytes b ih =>
    have hb := b.toNat_lt
    rw [toNat_append_singleton, List.length_append, List.length_singleton, Nat.pow_succ]
    omega

/-- Writing the number of some bytes gives the bytes, with the zeros in front of it. -/
theorem ofNat_toNat (bytes : Bytes) : ofNat bytes.length (toNat bytes) = bytes := by
  induction bytes using List.reverseRecOn with
  | nil => rfl
  | append_singleton bytes b ih =>
    have hb := b.toNat_lt
    have hfront : (toNat bytes * 256 + b.toNat) / 256 = toNat bytes := by omega
    have hlast : (toNat bytes * 256 + b.toNat) % 256 = b.toNat := by omega
    rw [toNat_append_singleton, List.length_append, List.length_singleton, ofNat, hfront, hlast, ih,
      UInt8.ofNat_toNat]

end BigEndian

namespace IntType

variable {t : IntType} {n : Int} {bits : Nat} {buffer : Bytes}

theorem modulus_eq (t : IntType) : t.modulus = 256 ^ t.size := by
  cases t <;> rfl

/-- The patterns of the type divide evenly between its signs. -/
theorem half_modulus (t : IntType) : t.modulus / 2 + t.modulus / 2 = t.modulus := by
  cases t <;> rfl

/-- A negative number has the pattern that is as many steps below the modulus. -/
theorem pattern_eq (h : t.Fits n) : (t.pattern n : Int) = if n < 0 then n + t.modulus else n := by
  obtain ⟨hleast, hgreatest⟩ := h
  have hhalf := t.half_modulus
  have hbelow : -(t.modulus : Int) ≤ n ∧ n < t.modulus := by
    rw [least] at hleast
    rw [greatest] at hgreatest
    constructor <;> split at hleast <;> split at hgreatest <;> omega
  have hpos : 0 ≤ n % t.modulus := Int.emod_nonneg n (by have := t.modulus_pos; omega)
  rw [pattern, Int.toNat_of_nonneg hpos]
  split
  · rw [← Int.add_emod_right, Int.emod_eq_of_lt] <;> omega
  · rw [Int.emod_eq_of_lt] <;> omega

/-- **Two's complement keeps every number of the type.** -/
theorem ofPattern_pattern (h : t.Fits n) : t.ofPattern (t.pattern n) = n := by
  have hpattern := pattern_eq h
  have hhalf := t.half_modulus
  obtain ⟨hleast, hgreatest⟩ := h
  rw [least] at hleast
  rw [greatest] at hgreatest
  rw [ofPattern]
  cases hsigned : t.isSigned with
  | true =>
    simp only [hsigned, if_true, Bool.true_and, decide_eq_true_eq] at hleast hgreatest ⊢
    split at hpattern <;> split <;> omega
  | false =>
    simp only [hsigned, Bool.false_eq_true, if_false, Bool.false_and] at hleast hgreatest ⊢
    split at hpattern <;> omega

/-- Every pattern is that of a number of the type. -/
theorem fits_ofPattern (h : bits < t.modulus) : t.Fits (t.ofPattern bits) := by
  have hhalf := t.half_modulus
  rw [Fits, least, greatest, ofPattern]
  cases t.isSigned with
  | true =>
    simp only [if_true, Bool.true_and, decide_eq_true_eq]
    split <;> omega
  | false =>
    simp only [Bool.false_eq_true, if_false, Bool.false_and]
    omega

theorem pattern_ofPattern (h : bits < t.modulus) : t.pattern (t.ofPattern bits) = bits := by
  have hmod : (bits : Int) % t.modulus = bits := Int.emod_eq_of_lt (by omega) (by omega)
  rw [pattern, ofPattern]
  split
  · rw [Int.sub_emod_right, hmod, Int.toNat_natCast]
  · rw [hmod, Int.toNat_natCast]

/-- **A number is read back from its bytes.** -/
theorem readBytes_toBytes (h : t.Fits n) : t.readBytes (t.toBytes n) = .ok n := by
  have hlt : t.pattern n < t.modulus := by
    have hpos := t.modulus_pos
    have hmod := Int.emod_lt_of_pos n (b := t.modulus) (by omega)
    simp only [pattern]
    omega
  have hdigits : BigEndian.toNat (t.toBytes n) = t.pattern n := by
    rw [toBytes, BigEndian.toNat_ofNat, ← modulus_eq, Nat.mod_eq_of_lt hlt]
  have hfirst : BigEndian.first t.size (t.toBytes n) = .ok (t.toBytes n) := by
    simp [BigEndian.first, List.take_of_length_le]
  rw [readBytes, hfirst, Except.map, hdigits, ofPattern_pattern h]

/-- Reading looks at no more bytes than the type has. -/
theorem readBytes_append (h : t.size ≤ buffer.length) (rest : Bytes) :
    t.readBytes (buffer ++ rest) = t.readBytes buffer := by
  have hlonger : t.size ≤ buffer.length + rest.length := by omega
  simp [readBytes, BigEndian.first, h, hlonger, List.take_append_of_le_length h]

theorem size_le_of_readBytes (h : t.readBytes buffer = .ok n) : t.size ≤ buffer.length := by
  rw [readBytes, BigEndian.first] at h
  split at h
  · assumption
  · cases h

/-- **A number that is read is written as the bytes that it was read from.** -/
theorem exists_readBytes (h : t.size ≤ buffer.length) :
    ∃ n, t.Fits n ∧ t.readBytes buffer = .ok n ∧ t.toBytes n = buffer.take t.size := by
  have hlength : (buffer.take t.size).length = t.size := List.length_take_of_le h
  have hlt : BigEndian.toNat (buffer.take t.size) < t.modulus := by
    have hdigits := BigEndian.toNat_lt (buffer.take t.size)
    rwa [hlength, ← modulus_eq] at hdigits
  refine ⟨t.ofPattern (BigEndian.toNat (buffer.take t.size)), fits_ofPattern hlt, ?_, ?_⟩
  · rw [readBytes, BigEndian.first, if_pos h, Except.map]
  · have hwritten := BigEndian.ofNat_toNat (buffer.take t.size)
    rwa [hlength, ← pattern_ofPattern hlt] at hwritten

end IntType

end PortableSql
