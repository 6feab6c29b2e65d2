import Mathlib.Algebra.Group.Int.Defs
import PortableSql.Error
import PortableSql.Number.IntType

/-!
# Arithmetic in words of 64 bits

Dates and times are computed with integers of any size. A machine has 64 bits for each of them: a
`Word` is an integer as long as it and all that it was computed from fit, and `overflow` from the first
step on that does not. So a formula over words that comes out as an integer has kept to 64 bits in all of
its parts.
-/
namespace PortableSql

/-- An integer, or that something did not fit on the way to it. -/
inductive Word where
  | exact (n : Int)
  | overflow
  deriving DecidableEq, Repr

namespace Word

/-- The word of an integer, if 64 bits hold it. -/
def hold (n : Int) : Word :=
  if IntType.int64.Fits n then exact n else overflow

/-- An operation on words. It fails if the exact result does not fit, and if an operand has failed. -/
def combine (op : Int → Int → Int) : Word → Word → Word
  | exact m, exact n => hold (op m n)
  | _, _ => overflow

instance : Coe Int Word := ⟨hold⟩

instance : Coe Int32 Word := ⟨fun n => hold n.toInt⟩

instance : Coe Int64 Word := ⟨fun n => hold n.toInt⟩

instance : Coe UInt32 Word := ⟨fun n => hold n.toNat⟩

instance (n : Nat) [OfNat Int n] : OfNat Word n := ⟨hold (OfNat.ofNat n)⟩

instance : Add Word := ⟨combine (· + ·)⟩

instance : Sub Word := ⟨combine (· - ·)⟩

instance : Mul Word := ⟨combine (· * ·)⟩

/-- Division by a positive number, rounded down. -/
instance : Div Word := ⟨combine (· / ·)⟩

/-- What division by a positive number leaves over, which is not negative. -/
instance : Mod Word := ⟨combine (· % ·)⟩

/-- The integer; nothing if a step has failed. -/
def value? : Word → Option Int
  | exact n => some n
  | overflow => none

/-- The integer as one of a narrower type; nothing if that does not hold it or a step has failed. -/
def narrow? (t : IntType) (w : Word) : Option Int :=
  w.value?.filter fun n => t.Fits n

/-- The integer, or the error for a step that has failed. -/
def orError (e : Error) : Word → Result Int
  | exact n => .ok n
  | overflow => .error e

/-! ## Steps that fit -/

theorem fits_iff {n : Int} : IntType.int64.Fits n ↔ -2 ^ 63 ≤ n ∧ n < 2 ^ 63 := by
  have hleast : IntType.int64.least = -2 ^ 63 := by decide
  have hgreatest : IntType.int64.greatest = 2 ^ 63 - 1 := by decide
  rw [IntType.Fits, hleast, hgreatest]
  omega

theorem hold_eq {n : Int} (h : -2 ^ 63 ≤ n ∧ n < 2 ^ 63) : hold n = exact n :=
  if_pos (fits_iff.2 h)

theorem ofNat_eq (n : Nat) [OfNat Int n] : (OfNat.ofNat n : Word) = hold (OfNat.ofNat n) := rfl

theorem add_eq (m n : Int) : exact m + exact n = hold (m + n) := rfl

theorem sub_eq (m n : Int) : exact m - exact n = hold (m - n) := rfl

theorem mul_eq (m n : Int) : exact m * exact n = hold (m * n) := rfl

example : (4611686018427387904 * 2 - 4611686018427387904 : Word) = .overflow := by decide

theorem div_eq (m n : Int) : exact m / exact n = hold (m / n) := rfl

theorem mod_eq (m n : Int) : exact m % exact n = hold (m % n) := rfl

@[simp] theorem value?_exact (n : Int) : (exact n).value? = some n := rfl

theorem narrow?_exact {t : IntType} {n : Int} (h : t.Fits n) : (exact n).narrow? t = some n := by
  simp [narrow?, h]

theorem narrow?_int32 (n : Int32) : (exact n.toInt).narrow? .int32 = some n.toInt := by
  have hleast : IntType.int32.least = -2 ^ 31 := by decide
  have hgreatest : IntType.int32.greatest = 2 ^ 31 - 1 := by decide
  have hhigh := Int32.toInt_lt n
  refine narrow?_exact ⟨?_, ?_⟩
  · rw [hleast]
    exact Int32.le_toInt n
  · rw [hgreatest]
    omega

theorem narrow?_uint32 {n : Int} (hnonneg : 0 ≤ n) (hlt : n < 2 ^ 32) :
    (exact n).narrow? .uint32 = some n := by
  have hgreatest : IntType.uint32.greatest = 2 ^ 32 - 1 := by decide
  refine narrow?_exact ⟨hnonneg, ?_⟩
  rw [hgreatest]
  omega

/-- The integers of a type with words are words. -/
theorem hold_int32 (n : Int32) : hold n.toInt = exact n.toInt := by
  have hlow := Int32.le_toInt n
  have hhigh := Int32.toInt_lt n
  exact hold_eq ⟨by omega, by omega⟩

theorem hold_int64 (n : Int64) : hold n.toInt = exact n.toInt :=
  hold_eq ⟨Int64.le_toInt n, Int64.toInt_lt n⟩

theorem hold_uint32 (n : UInt32) : hold n.toNat = exact n.toNat := by
  have hlt := n.toNat_lt
  exact hold_eq ⟨by omega, by omega⟩

/-- A product and a sum of which either may fail are answered alike. -/
theorem orError_hold_add (product : Int) {n : Int} (h : IntType.int64.Fits n) (e : Error) :
    (hold product + n : Word).orError e =
      if IntType.int64.Fits product ∧ IntType.int64.Fits (product + n) then .ok (product + n)
      else .error e := by
  rw [hold_eq (fits_iff.1 h)]
  by_cases hproduct : IntType.int64.Fits product
  · rw [hold_eq (fits_iff.1 hproduct), add_eq, hold]
    by_cases hsum : IntType.int64.Fits (product + n)
    · rw [if_pos hsum, if_pos ⟨hproduct, hsum⟩]
      rfl
    · rw [if_neg hsum, if_neg fun hboth => hsum hboth.2]
      rfl
  · rw [hold, if_neg hproduct, if_neg fun hboth => hproduct hboth.1]
    rfl

end Word

end PortableSql
