import Mathlib.Algebra.Order.Floor.Ring
import Mathlib.Data.Rat.Floor
import PortableSql.Proofs.Number.Rounding

/-!
# Arithmetic of doubles

What doubles stand for, and what the operations on them do to it. The exact result of an operation is
rounded once: if a double stands for it the result stands for it too, and else for the nearest multiple
of the spacing there.

## Main definitions

* `Double.value?` — the number that a double stands for.
* `Double.Nearest` — the double is the one that a number is rounded to.
-/
namespace PortableSql

open BinaryFormat (double)

variable {numerator denominator k : ℕ} {q v w : ℚ} {e : ℤ} {x : Double} {d : Datum}

/-! ## Exact results -/

namespace Datum

/-- An integer apart from its sign is the integer. -/
theorem signedMantissa_natAbs (n : ℤ) : signedMantissa (decide (n < 0)) n.natAbs = n := by
  rw [signedMantissa]
  split
  · next h => have := of_decide_eq_true h; omega
  · next h => have := of_decide_eq_false (eq_false_of_ne_true h); omega

/-- A mantissa that takes the place of another one under a sign, and is zero if that one is. -/
theorem signedMantissa_mul {negative : Bool} {m : ℕ} {b c : ℚ} (hb : 0 < b) (hk : m = 0 → k = 0) :
    (signedMantissa negative k * c : ℚ) =
      if (signedMantissa negative m * b : ℚ) < 0 then -(k * c) else k * c := by
  cases negative with
  | false =>
    have hsign : (0 : ℚ) ≤ signedMantissa false m * b := mul_nonneg (Nat.cast_nonneg m) hb.le
    rw [if_neg hsign.not_gt]
    rfl
  | true =>
    obtain rfl | hm := m.eq_zero_or_pos
    · simp [hk rfl, signedMantissa]
    · have hsign : (signedMantissa true m * b : ℚ) < 0 := by
        rw [signedMantissa, if_pos rfl, Int.cast_neg, neg_mul, neg_lt_zero]
        exact mul_pos (Nat.cast_pos.2 hm) hb
      rw [if_pos hsign, signedMantissa, if_pos rfl, Int.cast_neg, neg_mul, Int.cast_natCast]

/-- **The sum is exact.** -/
theorem value?_add {d' : Datum} (h : d.value? = some v) (h' : d'.value? = some w) :
    (d.add d').value? = some (v + w) := by
  obtain ⟨s, m, i, rfl, rfl⟩ := value?_eq_some_iff.1 h
  obtain ⟨t, n, j, rfl, rfl⟩ := value?_eq_some_iff.1 h'
  rw [add]
  -- both mantissas are brought to the lower exponent
  have hscale {z : ℤ} (hz : min i j ≤ z) :
      (2 : ℚ) ^ z = 2 ^ (z - min i j).toNat * 2 ^ min i j := by
    rw [← zpow_natCast, ← zpow_add₀ two_ne_zero]
    congr 1
    omega
  rw [hscale (min_le_left i j), hscale (min_le_right i j), ← mul_assoc, ← mul_assoc, ← add_mul]
  generalize hsum : signedMantissa s m * 2 ^ (i - min i j).toNat +
    signedMantissa t n * 2 ^ (j - min i j).toNat = sum
  have hcast : (signedMantissa s m : ℚ) * 2 ^ (i - min i j).toNat +
      signedMantissa t n * 2 ^ (j - min i j).toNat = sum := by
    rw [← hsum]
    push_cast
    rfl
  rw [hcast]
  split
  · next hzero => simp [value?, signedMantissa, hzero]
  · rw [value?, signedMantissa_natAbs]

end Datum

namespace Double

/-- The number that a double stands for, unless it is infinite or NaN. -/
def value? (x : Double) : Option ℚ :=
  x.datum.value?

theorem spans_of_value? (h : x.value? = some v) : double.Spans v :=
  BinaryFormat.spans_of_decode h

theorem datum_ofNatBits {bits : ℕ} (h : bits < 2 ^ 64) :
    (ofNatBits bits).datum = double.decode bits := by
  rw [datum, ofNatBits, UInt64.toNat_ofNat_of_lt' h]

theorem round_lt (negative : Bool) : double.round negative numerator denominator < 2 ^ 64 := by
  have hle : double.roundMagnitude numerator denominator ≤ double.infinityBits := by
    rw [BinaryFormat.roundMagnitude]
    split
    · exact Nat.zero_le _
    · exact min_le_left _ _
  have hbits : double.infinityBits = 2047 * 2 ^ 52 := rfl
  have hsign : double.signBit = 2 ^ 63 := rfl
  rw [BinaryFormat.round, BinaryFormat.withSign, hsign]
  split <;> omega

/-! ## Rounding -/

/-- Below the power of two that follows the greatest double, rounding finds a finite pattern. -/
theorem finite_of_lt (he : double.SpacedBy q e) (hk : NearestEven (q / 2 ^ e) k)
    (h : k * 2 ^ e < (2 : ℚ) ^ 1024) :
    (e - double.leastExponent).toNat * 2 ^ double.fractionBits + k < double.infinityBits := by
  have hleast : double.leastExponent = -1074 := rfl
  have hfraction : double.fractionBits = 52 := rfl
  have hbits : double.infinityBits = 2047 * 2 ^ 52 := rfl
  obtain ⟨hlow, hbelow, habove⟩ := he
  rw [hleast] at hlow habove ⊢
  rw [hfraction] at hbelow habove ⊢
  rw [hbits]
  have hpos : (0 : ℚ) < 2 ^ e := by positivity
  have hle : k ≤ 2 ^ 53 := hk.le_of_le (by rw [div_le_iff₀ hpos]; exact_mod_cast hbelow.le)
  obtain habove | rfl := habove
  · have hge : 2 ^ 52 ≤ k := hk.ge_of_ge (by rw [le_div_iff₀ hpos]; exact_mod_cast habove)
    have hexponent : e < 972 := by
      have hpow : (2 : ℚ) ^ (52 + e) < 2 ^ (1024 : ℤ) := by
        rw [zpow_add₀ two_ne_zero]
        refine lt_of_le_of_lt ?_ h
        gcongr
        exact_mod_cast hge
      have := (zpow_lt_zpow_iff_right₀ (by norm_num : (1 : ℚ) < 2)).1 hpow
      omega
    obtain hlt | rfl : e < 971 ∨ e = 971 := by omega
    · omega
    · have hk : (k : ℚ) < 2 ^ 53 := by
        refine lt_of_mul_lt_mul_right (h.trans_eq ?_) hpos.le
        rw [show (971 : ℤ) = (971 : ℕ) from rfl, zpow_natCast, ← pow_add]
      have hk : k < 2 ^ 53 := by exact_mod_cast hk
      omega
  · omega

/-- **A rounded ratio stands for the nearest multiple of the spacing.** -/
theorem value?_ofNatBits_round (negative : Bool) (hd : 0 < denominator)
    (he : double.SpacedBy (numerator / denominator) e)
    (hk : NearestEven (numerator / denominator / 2 ^ e) k) (h : k * 2 ^ e < (2 : ℚ) ^ 1024) :
    (ofNatBits (double.round negative numerator denominator)).value? =
      some (Datum.signedMantissa negative k * 2 ^ e : ℚ) := by
  rw [value?, datum_ofNatBits (round_lt negative)]
  exact BinaryFormat.value?_decode_round hd he hk (finite_of_lt he hk h)

/-- **The exact result is rounded once**, to the nearest multiple of the spacing there. -/
theorem value?_ofDatum (hd : d.value? = some v) (he : double.SpacedBy |v| e)
    (hk : NearestEven (|v| / 2 ^ e) k) (h : k * 2 ^ e < (2 : ℚ) ^ 1024) :
    (ofDatum d).value? = some (if v < 0 then -(k * 2 ^ e) else k * 2 ^ e : ℚ) := by
  obtain ⟨negative, m, i, rfl, rfl⟩ := Datum.value?_eq_some_iff.1 hd
  have hpos : (0 : ℚ) < 2 ^ i := by positivity
  have hratio := @scaleRatio_div m 1 i
  have habs : |(Datum.signedMantissa negative m : ℚ) * 2 ^ i| = m / (1 : ℕ) * 2 ^ i := by
    rw [abs_mul, Datum.abs_signedMantissa, abs_of_pos hpos, Nat.cast_one, div_one]
  rw [habs, ← hratio] at he hk
  rw [ofDatum, BinaryFormat.encode]
  simp only
  rw [value?_ofNatBits_round negative (scaleRatio_snd_pos one_pos i) he hk h, Option.some.injEq]
  refine Datum.signedMantissa_mul hpos fun hm => ?_
  rw [hratio, hm] at hk
  exact hk.unique (by simpa using NearestEven.natCast 0)

/-- A number of the format is a multiple of the spacing that is below the power of two which follows the
greatest double. -/
theorem exists_multiple (h : double.Spans v) :
    ∃ (e : ℤ) (k : ℕ), double.SpacedBy |v| e ∧ NearestEven (|v| / 2 ^ e) k ∧
      k * 2 ^ e < (2 : ℚ) ^ 1024 ∧ |v| = k * 2 ^ e := by
  obtain ⟨e, k, he, hgreatest, hk, hv⟩ := h.abs.exists_multiple (abs_nonneg v)
  have hpos : (0 : ℚ) < 2 ^ e := by positivity
  refine ⟨e, k, he, ?_, ?_, hv⟩
  · rw [hv, mul_div_cancel_right₀ _ hpos.ne']
    exact .natCast k
  · have hpow : (2 : ℚ) ^ e ≤ 2 ^ (971 : ℤ) := zpow_le_zpow_right₀ (by norm_num) hgreatest
    have hk : (k : ℚ) < 2 ^ 53 := by exact_mod_cast hk
    calc (k : ℚ) * 2 ^ e < 2 ^ 53 * 2 ^ e := by gcongr
      _ ≤ 2 ^ 53 * 2 ^ (971 : ℤ) := by gcongr
      _ = 2 ^ 1024 := by rw [show (971 : ℤ) = (971 : ℕ) from rfl, zpow_natCast, ← pow_add]

/-- **An exact result that a double stands for is not changed.** -/
theorem value?_ofDatum_of_spans (hd : d.value? = some v) (h : double.Spans v) :
    (ofDatum d).value? = some v := by
  obtain ⟨e, k, he, hk, hfinite, hv⟩ := exists_multiple h
  rw [value?_ofDatum hd he hk hfinite, ← hv, Option.some.injEq]
  split
  · next hneg => rw [abs_of_neg hneg, neg_neg]
  · next hneg => rw [abs_of_nonneg (not_lt.1 hneg)]

theorem ofInt_eq_ofDatum (n : ℤ) : ofInt n = ofDatum (.finite (decide (n < 0)) n.natAbs 0) := by
  simp [ofInt, ofDatum, BinaryFormat.encode, scaleRatio]

/-- An integer that a double stands for is put into that double. -/
theorem value?_ofInt {n : ℤ} (h : double.Spans n) : (ofInt n).value? = some (n : ℚ) := by
  have hvalue : (Datum.finite (decide (n < 0)) n.natAbs 0).value? = some (n : ℚ) := by
    rw [Datum.value?, Datum.signedMantissa_natAbs, zpow_zero, mul_one]
  rw [ofInt_eq_ofDatum, value?_ofDatum_of_spans hvalue h]

/-- The integer has a mantissa of at most fifty-three bits, or is a power of two. -/
theorem spans_intCast {n : ℤ} (h : |n| ≤ 2 ^ 53) : double.Spans n := by
  have hfraction : double.fractionBits + 1 = 53 := rfl
  obtain hlt | heq := h.lt_or_eq
  · exact ⟨n, 0, by rw [zpow_zero, mul_one], hlt, by decide, by decide⟩
  · obtain ⟨m, rfl⟩ : ∃ m, n = m * 2 := by
      rcases eq_or_eq_neg_of_abs_eq heq with rfl | rfl
      · exact ⟨2 ^ 52, by norm_num⟩
      · exact ⟨-2 ^ 52, by norm_num⟩
    rw [abs_mul, abs_two] at heq
    refine ⟨m, 1, by rw [zpow_one, Int.cast_mul, Int.cast_two], ?_, by decide, by decide⟩
    rw [hfraction]
    omega

/-- From `2 ^ 52` on the doubles are integers. -/
theorem exists_intCast (h : double.Spans v) (hv : 2 ^ 52 ≤ |v|) : ∃ n : ℤ, v = n := by
  obtain ⟨e, k, he, -, -, hform⟩ := exists_multiple h
  have hbelow := hv.trans_lt he.below
  rw [show double.fractionBits + 1 = 53 from rfl] at hbelow
  have hspacing : (2 : ℚ) ^ (-1 : ℤ) < 2 ^ e := by
    rw [zpow_neg_one]
    linarith
  have hexponent : -1 < e := (zpow_lt_zpow_iff_right₀ one_lt_two).1 hspacing
  obtain ⟨i, rfl⟩ := Int.eq_ofNat_of_zero_le (a := e) (by omega)
  have habs : |v| = ((k * 2 ^ i : ℕ) : ℤ) := by
    rw [hform, zpow_natCast]
    push_cast
    rfl
  obtain h | h := eq_or_eq_neg_of_abs_eq habs
  · exact ⟨_, h⟩
  · exact ⟨-(k * 2 ^ i : ℕ), by rw [h, Int.cast_neg]⟩

/-! ## The integer part and the sign -/

end Double

theorem Datum.truncate_eq_floor (m : ℕ) (i : ℤ) : (truncate m i : ℤ) = ⌊(m : ℚ) * 2 ^ i⌋ := by
  rw [truncate]
  split
  · next h =>
    obtain ⟨n, rfl⟩ := Int.eq_ofNat_of_zero_le h
    rw [Int.toNat_natCast, zpow_natCast]
    exact_mod_cast (Int.floor_intCast ((m * 2 ^ n : ℕ) : ℤ)).symm
  · next h =>
    obtain ⟨n, hn⟩ := Int.eq_ofNat_of_zero_le (a := -i) (by omega)
    obtain rfl : i = -n := by omega
    rw [neg_neg, Int.toNat_natCast, zpow_neg, zpow_natCast, ← div_eq_mul_inv]
    exact_mod_cast (Rat.floor_natCast_div_natCast m (2 ^ n)).symm

namespace Double

/-- The integer part is the nearest integer on the side of zero. -/
theorem truncate?_eq (h : x.value? = some v) :
    x.truncate? = some (if v < 0 then ⌈v⌉ else ⌊v⌋) := by
  obtain ⟨negative, m, i, hdatum, rfl⟩ := Datum.value?_eq_some_iff.1 h
  have hnonneg : (0 : ℚ) ≤ m * 2 ^ i := by positivity
  rw [truncate?, hdatum]
  simp only [Option.some.injEq]
  cases negative with
  | false =>
    have hv : (Datum.signedMantissa false m : ℚ) * 2 ^ i = m * 2 ^ i := rfl
    rw [hv, if_neg hnonneg.not_gt, ← Datum.truncate_eq_floor]
    rfl
  | true =>
    have hv : (Datum.signedMantissa true m : ℚ) * 2 ^ i = -(m * 2 ^ i) := by
      simp [Datum.signedMantissa]
    have htruncate : Datum.signedMantissa true (Datum.truncate m i) = -⌊(m : ℚ) * 2 ^ i⌋ := by
      rw [← Datum.truncate_eq_floor]
      rfl
    rw [hv, htruncate, Int.ceil_neg]
    split
    · rfl
    · next hzero =>
      have hzero : (m : ℚ) * 2 ^ i = 0 := by linarith
      rw [hzero, neg_zero, Int.floor_zero, neg_zero]

/-- Whether a double is below zero is whether its number is. -/
theorem less_zero (h : x.value? = some v) : x.less (ofInt 0) = decide (v < 0) := by
  obtain ⟨negative, m, i, hdatum, rfl⟩ := Datum.value?_eq_some_iff.1 h
  obtain ⟨-, rfl, hm, -⟩ := BinaryFormat.decode_eq_finite hdatum
  have hsign : double.signBit = 2 ^ 63 := rfl
  have hzero : ofInt 0 = ⟨0⟩ := by decide
  have hzeroKey : orderKey ⟨0⟩ = 0 := by decide
  have hzeroNan : isNan ⟨0⟩ = false := by decide
  have hnan : x.isNan = false := by rw [isNan, hdatum]
  have hbits : x.bits.toNat < 2 ^ 64 := x.bits.toNat_lt
  have hpos : (0 : ℚ) < 2 ^ i := by positivity
  rw [less, hzero, hnan, hzeroNan, hzeroKey, Bool.not_false, Bool.true_and, Bool.true_and,
    decide_eq_decide, orderKey]
  simp only [hsign] at hm ⊢
  split
  · next hle =>
    -- the sign bit alone is the negative zero
    have hv : (Datum.signedMantissa (decide (2 ^ 63 ≤ x.bits.toNat)) m : ℚ) * 2 ^ i < 0 ↔ m ≠ 0 := by
      rw [decide_eq_true hle, Datum.signedMantissa, if_pos rfl, Int.cast_neg, neg_mul,
        neg_lt_zero, mul_pos_iff_of_pos_right hpos]
      exact_mod_cast Nat.pos_iff_ne_zero
    rw [hv]
    omega
  · next hlt =>
    have hv : (0 : ℚ) ≤ (Datum.signedMantissa (decide (2 ^ 63 ≤ x.bits.toNat)) m : ℚ) * 2 ^ i := by
      rw [decide_eq_false hlt]
      exact mul_nonneg (Nat.cast_nonneg m) hpos.le
    exact iff_of_false (by omega) hv.not_gt

theorem isFinite_of_value? (h : x.value? = some v) : x.isFinite = true := by
  obtain ⟨negative, m, i, hdatum, -⟩ := Datum.value?_eq_some_iff.1 h
  rw [isFinite, hdatum]
  rfl

/-- No finite double is above the greatest. -/
theorem greatest_less_abs (h : x.isFinite = true) : greatest.less x.abs = false := by
  obtain ⟨negative, m, i, hdatum⟩ : ∃ negative m i, x.datum = .finite negative m i := by
    rw [isFinite] at h
    cases hd : x.datum with
    | finite negative m i => exact ⟨negative, m, i, rfl⟩
    | nan | infinite => rw [hd] at h; cases h
  obtain ⟨hfinite, -⟩ := BinaryFormat.decode_eq_finite hdatum
  have hsign : double.signBit = 2 ^ 63 := rfl
  have hbits : double.infinityBits = 2047 * 2 ^ 52 := rfl
  have hgreatest : greatest.orderKey = 2047 * 2 ^ 52 - 1 := by decide +kernel
  rw [hsign, hbits] at hfinite
  have habs : x.abs.bits.toNat = x.bits.toNat % 2 ^ 63 :=
    UInt64.toNat_ofNat_of_lt' (by rw [hsign, UInt64.size]; omega)
  have hkey : ¬greatest.orderKey < x.abs.orderKey := by
    rw [hgreatest, orderKey, habs]
    simp only [hsign]
    split <;> omega
  rw [less, decide_eq_false hkey, Bool.and_false]

/-! ## The nearest double -/

/-- The double stands for `w`, and no double is nearer to `v`. If one that stands for another number is
as near, the last bit of this one is zero. -/
structure Nearest (x : Double) (v w : ℚ) : Prop where
  value : x.value? = some w
  le : ∀ (y : Double) u, y.value? = some u → |v - w| ≤ |v - u|
  even : ∀ (y : Double) u, y.value? = some u → u ≠ w → |v - w| = |v - u| → x.bits.toNat % 2 = 0

/-- A number that a double stands for is the one it is rounded to. -/
theorem Nearest.eq_of_value? {y : Double} (h : x.Nearest v w) (hy : y.value? = some v) : w = v := by
  have hle := h.le y v hy
  rw [sub_self, abs_zero, abs_nonpos_iff, sub_eq_zero] at hle
  exact hle.symm

/-- An integer is rounded to an integer: to itself up to `2 ^ 53`, and to none below that beyond it. -/
theorem Nearest.exists_int {n : ℤ} (h : x.Nearest n w) :
    ∃ m : ℤ, w = m ∧ (|n| ≤ 2 ^ 53 → m = n) ∧ (2 ^ 53 < |n| → 2 ^ 53 ≤ |m|) := by
  obtain hle | hlt := le_or_gt |n| (2 ^ 53)
  · refine ⟨n, h.eq_of_value? (value?_ofInt (spans_intCast hle)), fun _ => rfl, fun hlt => ?_⟩
    exact absurd hlt hle.not_gt
  · -- the power of two itself would be nearer
    obtain ⟨u, hu, hdist⟩ : ∃ u : ℤ, |u| = 2 ^ 53 ∧ |n - u| = |n| - 2 ^ 53 := by
      obtain hneg | hpos := lt_or_ge n 0
      · refine ⟨-2 ^ 53, by decide, ?_⟩
        rw [abs_of_neg hneg] at hlt ⊢
        rw [abs_of_neg (by omega)]
        omega
      · refine ⟨2 ^ 53, by decide, ?_⟩
        rw [abs_of_nonneg hpos] at hlt ⊢
        rw [abs_of_nonneg (by omega)]
    have hnear : |(n : ℚ) - w| ≤ |(n : ℚ)| - 2 ^ 53 := by
      have hcast : |(n : ℚ) - u| = |(n : ℚ)| - 2 ^ 53 := by exact_mod_cast hdist
      rw [← hcast]
      exact h.le _ u (value?_ofInt (spans_intCast hu.le))
    have hfar : (2 : ℚ) ^ 53 ≤ |w| := by
      have := abs_sub_abs_le_abs_sub (n : ℚ) w
      linarith
    have hpow : (2 : ℚ) ^ 52 ≤ 2 ^ 53 := pow_le_pow_right₀ one_le_two (by decide)
    obtain ⟨m, rfl⟩ := exists_intCast (spans_of_value? h.value) (hpow.trans hfar)
    exact ⟨m, rfl, fun hle => absurd hlt hle.not_gt, fun _ => by exact_mod_cast hfar⟩

/-- The last bit of a rounded pattern is that of the multiple. -/
theorem bits_ofNatBits_round_mod_two (negative : Bool) (hd : 0 < denominator)
    (he : double.SpacedBy (numerator / denominator) e)
    (hk : NearestEven (numerator / denominator / 2 ^ e) k) (h : k * 2 ^ e < (2 : ℚ) ^ 1024) :
    (ofNatBits (double.round negative numerator denominator)).bits.toNat % 2 = k % 2 := by
  have hfraction : double.fractionBits = 52 := rfl
  have hsign : double.signBit = 2 ^ 63 := rfl
  have hlt : double.round negative numerator denominator < 2 ^ 64 := round_lt negative
  rw [ofNatBits, UInt64.toNat_ofNat_of_lt' hlt, BinaryFormat.round,
    BinaryFormat.roundMagnitude_eq hd he hk, min_eq_right (finite_of_lt he hk h).le,
    BinaryFormat.withSign, hfraction, hsign]
  split <;> omega

/-- Rounding does not leave the range of the doubles. -/
theorem mul_lt_of_lt (he : double.SpacedBy q e) (hk : NearestEven (q / 2 ^ e) k)
    (hq : q < 2 ^ 1023) : k * 2 ^ e < (2 : ℚ) ^ 1024 := by
  have hpos : (0 : ℚ) < 2 ^ e := zpow_pos two_pos e
  have hle : e ≤ 970 := by
    refine he.le_of_lt (by decide) (hq.trans_eq ?_)
    rw [show double.fractionBits + 1 = 53 from rfl, show (970 : ℤ) = (970 : ℕ) from rfl,
      zpow_natCast, ← pow_add]
  -- the bound is a multiple of the spacing too
  obtain ⟨i, hi⟩ : ∃ i : ℕ, (1023 : ℤ) = i + e := ⟨(1023 - e).toNat, by omega⟩
  have hbound : (2 : ℚ) ^ 1023 = (2 ^ i : ℕ) * 2 ^ e := by
    rw [← zpow_natCast, Nat.cast_pow, Nat.cast_two, ← zpow_natCast, ← zpow_add₀ two_ne_zero, ← hi]
    rfl
  have hk : k ≤ 2 ^ i := hk.le_of_le (by rw [div_le_iff₀ hpos, ← hbound]; exact hq.le)
  calc (k : ℚ) * 2 ^ e ≤ (2 ^ i : ℕ) * 2 ^ e :=
        mul_le_mul_of_nonneg_right (Nat.cast_le.2 hk) hpos.le
    _ = 2 ^ 1023 := hbound.symm
    _ < 2 ^ 1024 := pow_lt_pow_right₀ one_lt_two (by decide)

/-- **A ratio is rounded to the double nearest to it.** -/
theorem exists_nearest (negative : Bool) (hd : 0 < denominator)
    (hq : (numerator : ℚ) / denominator < 2 ^ 1023) :
    ∃ w, Nearest (ofNatBits (double.round negative numerator denominator))
      (if negative then -(numerator / denominator) else numerator / denominator) w := by
  have hnonneg : (0 : ℚ) ≤ (numerator : ℚ) / denominator :=
    div_nonneg (Nat.cast_nonneg _) (Nat.cast_nonneg _)
  obtain ⟨e, he⟩ := double.exists_spacedBy hnonneg
  have hpos : (0 : ℚ) < 2 ^ e := zpow_pos two_pos e
  obtain ⟨k, hk⟩ := exists_nearestEven (div_nonneg hnonneg hpos.le)
  have hfinite := mul_lt_of_lt he hk hq
  have hvalue := value?_ofNatBits_round negative hd he hk hfinite
  have heven := bits_ofNatBits_round_mod_two negative hd he hk hfinite
  generalize ofNatBits (double.round negative numerator denominator) = x at hvalue heven
  generalize (numerator : ℚ) / denominator = q at *
  -- under a sign the distances are those of the magnitudes
  have hnearest (u : ℚ) (hu : double.Spans u) (hne : u ≠ k * 2 ^ e) :
      |q - k * 2 ^ e| ≤ |q - u| ∧ (|q - k * 2 ^ e| = |q - u| → x.bits.toNat % 2 = 0) := by
    obtain ⟨hle, htie⟩ := he.nearest hk hu hne
    exact ⟨hle, fun heq => heven.trans (Nat.even_iff.1 (htie heq))⟩
  have hspans {y : Double} {u : ℚ} (hy : y.value? = some u) : double.Spans u :=
    spans_of_value? hy
  cases negative with
  | false =>
    refine ⟨k * 2 ^ e, hvalue, fun y u hy => ?_, fun y u hy hne => ?_⟩
    · by_cases hne : u = k * 2 ^ e
      · rw [hne]
      · exact (hnearest u (hspans hy) hne).1
    · exact (hnearest u (hspans hy) hne).2
  | true =>
    have hdist (u : ℚ) : |-q - u| = |q - -u| := by
      rw [← abs_neg]
      congr 1
      ring
    refine ⟨-(k * 2 ^ e), ?_, fun y u hy => ?_, fun y u hy hne => ?_⟩
    · rw [hvalue, Datum.signedMantissa, if_pos rfl, Int.cast_neg, neg_mul, Int.cast_natCast]
    · rw [if_pos rfl, hdist, hdist, neg_neg]
      by_cases hne : -u = k * 2 ^ e
      · rw [hne]
      · exact (hnearest (-u) (hspans hy).neg hne).1
    · rw [if_pos rfl, hdist, hdist, neg_neg]
      exact (hnearest (-u) (hspans hy).neg fun h => hne (by rw [← h, neg_neg])).2

end Double

end PortableSql
