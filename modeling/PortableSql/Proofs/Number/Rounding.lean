import Mathlib.Algebra.Order.Field.Power
import Mathlib.Algebra.Order.Ring.Abs
import Mathlib.Data.Rat.Cast.Order
import Mathlib.Tactic.FieldSimp
import Mathlib.Tactic.Linarith
import Mathlib.Tactic.NormNum
import Mathlib.Tactic.Positivity
import Mathlib.Tactic.Ring
import PortableSql.Number.Float

/-!
# Rounding to a binary format

What the pattern of a rounded ratio stands for. Around a number the format's numbers are the multiples
of a power of two, the spacing there, and the pattern stands for the multiple that is nearest, the even
one of two that are equally near. No other number of the format is nearer.

## Main definitions

* `Datum.value?` — the number that a datum stands for.
* `NearestEven` — the natural that a number is rounded to.
* `BinaryFormat.SpacedBy` — the spacing of the format's numbers around a number.
-/
namespace PortableSql

variable {numerator denominator k : ℕ} {q : ℚ}

/-! ## Numbers of data -/

/-- The number that a datum stands for, unless it is infinite or NaN. -/
def Datum.value? : Datum → Option ℚ
  | .finite negative mantissa exponent => some (signedMantissa negative mantissa * 2 ^ exponent)
  | _ => none

theorem Datum.value?_eq_some_iff {d : Datum} {v : ℚ} :
    d.value? = some v ↔
      ∃ negative m i, d = .finite negative m i ∧ v = signedMantissa negative m * 2 ^ i := by
  cases d <;> simp [value?, eq_comm]

theorem Datum.abs_signedMantissa (negative : Bool) (mantissa : ℕ) :
    |(signedMantissa negative mantissa : ℚ)| = mantissa := by
  cases negative <;> simp [signedMantissa]

/-! ## Ratios -/

theorem scaleRatio_snd_pos (h : 0 < denominator) (shift : ℤ) :
    0 < (scaleRatio numerator denominator shift).2 := by
  rw [scaleRatio]
  split
  · exact h
  · exact Nat.mul_pos h (Nat.two_pow_pos _)

/-- Scaling is exact. -/
theorem scaleRatio_div (shift : ℤ) :
    ((scaleRatio numerator denominator shift).1 : ℚ) / (scaleRatio numerator denominator shift).2 =
      numerator / denominator * 2 ^ shift := by
  rw [scaleRatio]
  split
  · next h =>
    obtain ⟨n, rfl⟩ := Int.eq_ofNat_of_zero_le h
    push_cast
    rw [Int.toNat_natCast, zpow_natCast]
    ring
  · next h =>
    obtain ⟨n, hn⟩ := Int.eq_ofNat_of_zero_le (a := -shift) (by omega)
    obtain rfl : shift = -n := by omega
    push_cast
    rw [neg_neg, Int.toNat_natCast, zpow_neg, zpow_natCast]
    field_simp

/-- The whole part of a scaled ratio is below a bound if the ratio is. -/
theorem scaleRatio_div_lt_iff (h : 0 < denominator) (shift : ℤ) (bound : ℕ) :
    (scaleRatio numerator denominator shift).1 / (scaleRatio numerator denominator shift).2 < bound ↔
      (numerator : ℚ) / denominator * 2 ^ shift < bound := by
  have hpos : 0 < (scaleRatio numerator denominator shift).2 := scaleRatio_snd_pos h shift
  rw [← scaleRatio_div, Nat.div_lt_iff_lt_mul hpos, div_lt_iff₀ (by exact_mod_cast hpos)]
  norm_cast

/-! ## The nearest natural -/

/-- The natural is nearest to the number, and even if another one is as near. -/
structure NearestEven (q : ℚ) (k : ℕ) : Prop where
  near : |q - k| ≤ 1 / 2
  even : |q - k| = 1 / 2 → Even k

namespace NearestEven

theorem unique {m : ℕ} (hk : NearestEven q k) (hm : NearestEven q m) : k = m := by
  -- two different ones are a unit apart, with the number in the middle, and only one of them is even
  have hne {a b : ℕ} (ha : NearestEven q a) (hb : NearestEven q b) : ¬a < b := by
    intro hlt
    have ha' := abs_le.1 ha.near
    have hb' := abs_le.1 hb.near
    have hstep : (a : ℚ) + 1 ≤ b := by exact_mod_cast hlt
    have hnext : (b : ℚ) = a + 1 := by linarith
    obtain rfl : b = a + 1 := by exact_mod_cast hnext
    have heven := ha.even (by rw [abs_of_nonneg] <;> linarith)
    have heven' := hb.even (by rw [abs_of_nonpos] <;> linarith)
    exact (Nat.even_add_one.1 heven') heven
  exact le_antisymm (not_lt.1 (hne hm hk)) (not_lt.1 (hne hk hm))

theorem natCast (n : ℕ) : NearestEven n n := by
  constructor <;> norm_num

theorem le_of_le {m : ℕ} (h : NearestEven q k) (hq : q ≤ m) : k ≤ m := by
  by_contra hlt
  have hstep : (m : ℚ) + 1 ≤ k := by exact_mod_cast not_le.1 hlt
  have := abs_le.1 h.near
  linarith

theorem ge_of_ge {m : ℕ} (h : NearestEven q k) (hq : m ≤ q) : m ≤ k := by
  by_contra hlt
  have hstep : (k : ℚ) + 1 ≤ m := by exact_mod_cast not_le.1 hlt
  have := abs_le.1 h.near
  linarith

/-- Another integer is not nearer, and if it is as near then this one is even. -/
theorem of_ne (h : NearestEven q k) {j : ℤ} (hj : j ≠ k) :
    |q - k| ≤ |q - j| ∧ (|q - k| = |q - j| → Even k) := by
  have hstep : (1 : ℚ) ≤ |(k : ℚ) - j| := by
    exact_mod_cast Int.one_le_abs (sub_ne_zero.2 hj.symm)
  have htriangle := abs_sub_le (k : ℚ) q j
  rw [abs_sub_comm (k : ℚ) q] at htriangle
  have hnear := h.near
  constructor
  · linarith
  · intro heq
    exact h.even (by linarith)

end NearestEven

/-- **Division goes to the nearest natural**, and to the even one of two. -/
theorem nearestEven_divideEven (h : 0 < denominator) :
    NearestEven (numerator / denominator) (BinaryFormat.divideEven numerator denominator) := by
  have hpos : (0 : ℚ) < denominator := by exact_mod_cast h
  have hsum := Nat.div_add_mod numerator denominator
  have hlt := Nat.mod_lt numerator h
  rw [BinaryFormat.divideEven]
  generalize numerator / denominator = quotient, numerator % denominator = rest at *
  have hsum : (numerator : ℚ) / denominator = quotient + rest / denominator := by
    rw [← hsum]
    push_cast
    field_simp
  have hrest : (0 : ℚ) ≤ rest / denominator := by positivity
  have hrest_lt : (rest : ℚ) / denominator < 1 := by
    rw [div_lt_one hpos]
    exact_mod_cast hlt
  have hhalf : (rest : ℚ) / denominator = 1 / 2 ↔ 2 * rest = denominator := by
    rw [div_eq_div_iff hpos.ne' two_ne_zero]
    norm_cast
    omega
  have hle : (rest : ℚ) / denominator ≤ 1 / 2 ↔ 2 * rest ≤ denominator := by
    rw [div_le_div_iff₀ hpos two_pos]
    norm_cast
    omega
  rw [hsum]
  split
  · next hup =>
    have hge : 1 / 2 ≤ (rest : ℚ) / denominator := by
      rcases hup with hup | ⟨hup, -⟩
      · exact (lt_of_not_ge fun h => absurd (hle.1 h) (not_le.2 hup)).le
      · exact (hhalf.2 hup).ge
    have hdist : |(quotient : ℚ) + rest / denominator - (quotient + 1 : ℕ)| =
        1 - rest / denominator := by
      rw [abs_of_nonpos] <;> push_cast <;> linarith
    refine ⟨by rw [hdist]; linarith, fun heq => ?_⟩
    rw [hdist] at heq
    have htwice := hhalf.1 (by linarith)
    rw [Nat.even_add_one, Nat.not_even_iff]
    omega
  · next hdown =>
    have hdist : |(quotient : ℚ) + rest / denominator - quotient| = rest / denominator := by
      rw [add_sub_cancel_left, abs_of_nonneg hrest]
    refine ⟨by rw [hdist]; exact hle.2 (by omega), fun heq => ?_⟩
    rw [hdist] at heq
    have htwice := hhalf.1 heq
    rw [Nat.even_iff]
    omega

theorem natAbs_num_div_den (hq : 0 ≤ q) : (q.num.natAbs : ℚ) / q.den = q := by
  rw [Nat.cast_natAbs, abs_of_nonneg (Rat.num_nonneg.2 hq), Rat.num_div_den]

theorem exists_nearestEven (hq : 0 ≤ q) : ∃ k, NearestEven q k :=
  ⟨_, natAbs_num_div_den hq ▸ nearestEven_divideEven q.den_pos⟩

namespace BinaryFormat

variable (f : BinaryFormat)

/-! ## Spacing -/

/-- Around the number the format's numbers are the multiples of this power of two. -/
structure SpacedBy (q : ℚ) (e : ℤ) : Prop where
  least : f.leastExponent ≤ e
  below : q < 2 ^ (f.fractionBits + 1) * 2 ^ e
  above : 2 ^ f.fractionBits * 2 ^ e ≤ q ∨ e = f.leastExponent

variable {f} {e : ℤ}

theorem SpacedBy.unique {d : ℤ} (he : f.SpacedBy q e) (hd : f.SpacedBy q d) : e = d := by
  have hne {a b : ℤ} (ha : f.SpacedBy q a) (hb : f.SpacedBy q b) : ¬a < b := by
    intro hlt
    obtain habove | hleast := hb.above
    · have hpow : (2 : ℚ) ^ (a + 1) ≤ 2 ^ b := zpow_le_zpow_right₀ (by norm_num) hlt
      rw [zpow_add_one₀ (by norm_num)] at hpow
      have hscaled := mul_le_mul_of_nonneg_left hpow (by positivity : (0 : ℚ) ≤ 2 ^ f.fractionBits)
      have hbelow := ha.below
      rw [pow_succ] at hbelow
      linarith
    · have := ha.least
      omega
  exact le_antisymm (not_lt.1 (hne hd he)) (not_lt.1 (hne he hd))

/-- The logarithms of numerator and denominator tell the size of the ratio up to a factor of two. -/
theorem ratio_bounds (hn : 0 < numerator) (hd : 0 < denominator) :
    (2 : ℚ) ^ ((numerator.log2 : ℤ) - denominator.log2 - 1) ≤ numerator / denominator ∧
      (numerator : ℚ) / denominator < 2 ^ ((numerator.log2 : ℤ) - denominator.log2 + 1) := by
  have hnlow : (2 : ℚ) ^ numerator.log2 ≤ numerator := by
    exact_mod_cast Nat.log2_self_le hn.ne'
  have hnhigh : (numerator : ℚ) < 2 ^ (numerator.log2 + 1) := by
    exact_mod_cast Nat.lt_log2_self (n := numerator)
  have hdlow : (2 : ℚ) ^ denominator.log2 ≤ denominator := by
    exact_mod_cast Nat.log2_self_le hd.ne'
  have hdhigh : (denominator : ℚ) < 2 ^ (denominator.log2 + 1) := by
    exact_mod_cast Nat.lt_log2_self (n := denominator)
  have hpos : (0 : ℚ) < denominator := by exact_mod_cast hd
  constructor
  · rw [le_div_iff₀ hpos]
    calc (2 : ℚ) ^ ((numerator.log2 : ℤ) - denominator.log2 - 1) * denominator
        ≤ 2 ^ ((numerator.log2 : ℤ) - denominator.log2 - 1) * 2 ^ (denominator.log2 + 1) := by
          gcongr
      _ = 2 ^ numerator.log2 := by
          rw [← zpow_natCast, ← zpow_natCast, ← zpow_add₀ two_ne_zero]
          congr 1
          push_cast
          ring
      _ ≤ numerator := hnlow
  · rw [div_lt_iff₀ hpos]
    calc (numerator : ℚ) < 2 ^ (numerator.log2 + 1) := hnhigh
      _ = 2 ^ ((numerator.log2 : ℤ) - denominator.log2 + 1) * 2 ^ denominator.log2 := by
          rw [← zpow_natCast, ← zpow_natCast, ← zpow_add₀ two_ne_zero]
          congr 1
          push_cast
          ring
      _ ≤ 2 ^ ((numerator.log2 : ℤ) - denominator.log2 + 1) * denominator := by
          gcongr

/-- Between two powers of two the spacing is that of the lower one, or the least there is. -/
theorem spacedBy_max (hlow : 2 ^ f.fractionBits * 2 ^ e ≤ q)
    (hhigh : q < 2 ^ (f.fractionBits + 1) * 2 ^ e) : f.SpacedBy q (max f.leastExponent e) := by
  obtain h | h := le_total f.leastExponent e
  · rw [max_eq_right h]
    exact ⟨h, hhigh, .inl hlow⟩
  · rw [max_eq_left h]
    have hpow : (2 : ℚ) ^ e ≤ 2 ^ f.leastExponent := zpow_le_zpow_right₀ (by norm_num) h
    refine ⟨le_rfl, hhigh.trans_le ?_, .inr rfl⟩
    gcongr

/-- The spacing is found from the binary logarithms. -/
theorem spacedBy_unitExponent (hn : 0 < numerator) (hd : 0 < denominator) :
    f.SpacedBy (numerator / denominator) (f.unitExponent numerator denominator) := by
  obtain ⟨hlow, hhigh⟩ := ratio_bounds hn hd
  have hguess : (numerator.log2 : ℤ) - denominator.log2 =
      f.fractionBits + (numerator.log2 - denominator.log2 - f.fractionBits) := by ring
  rw [hguess] at hlow hhigh
  rw [unitExponent]
  simp only
  generalize (numerator.log2 : ℤ) - denominator.log2 - f.fractionBits = guess at *
  rw [zpow_sub_one₀ two_ne_zero, zpow_add₀ two_ne_zero, zpow_natCast] at hlow
  rw [zpow_add_one₀ two_ne_zero, zpow_add₀ two_ne_zero, zpow_natCast] at hhigh
  have hpos : (0 : ℚ) < 2 ^ guess := by positivity
  have hquotient := @scaleRatio_div_lt_iff numerator denominator hd (-guess) (2 ^ f.fractionBits)
  rw [zpow_neg, ← div_eq_mul_inv, div_lt_iff₀ hpos] at hquotient
  push_cast at hquotient
  split
  · next hbelow =>
    have hbelow := hquotient.1 hbelow
    refine spacedBy_max ?_ ?_ <;> rw [zpow_sub_one₀ two_ne_zero]
    · linarith
    · rw [pow_succ]
      linarith
  · next habove =>
    refine spacedBy_max (not_lt.1 (mt hquotient.2 habove)) ?_
    rw [pow_succ]
    linarith

/-! ## Patterns -/

/-- Finite numbers and infinity leave room for the sign. -/
theorem infinityBits_lt_signBit (f : BinaryFormat) : f.infinityBits < f.signBit := by
  rw [infinityBits, signBit, pow_add, mul_comm (2 ^ f.fractionBits)]
  have hpos := Nat.two_pow_pos f.exponentBits
  exact Nat.mul_lt_mul_of_pos_right (by omega) (Nat.two_pow_pos _)

/-- A magnitude is rounded to the nearest multiple of the spacing, and to infinity beyond the greatest
number of the format. -/
theorem roundMagnitude_eq (hd : 0 < denominator) (he : f.SpacedBy (numerator / denominator) e)
    (hk : NearestEven (numerator / denominator / 2 ^ e) k) :
    f.roundMagnitude numerator denominator =
      min f.infinityBits ((e - f.leastExponent).toNat * 2 ^ f.fractionBits + k) := by
  rw [roundMagnitude]
  split
  · next hzero =>
    subst hzero
    rw [Nat.cast_zero, zero_div] at he hk
    rw [zero_div, ← Nat.cast_zero] at hk
    obtain rfl := hk.unique (.natCast 0)
    have hleast : e = f.leastExponent := by
      refine he.above.resolve_left (not_le.2 ?_)
      positivity
    rw [hleast, sub_self, Int.toNat_zero, Nat.zero_mul, Nat.add_zero, Nat.min_zero]
  · next hne =>
    have hn := Nat.pos_of_ne_zero hne
    obtain rfl := he.unique (spacedBy_unitExponent hn hd)
    rw [div_eq_mul_inv _ (2 ^ _), ← zpow_neg, ← scaleRatio_div] at hk
    rw [hk.unique (nearestEven_divideEven (scaleRatio_snd_pos hd _))]

/-- The fields of a finite pattern. -/
theorem decode_withSign {negative : Bool} {magnitude : ℕ} (h : magnitude < f.infinityBits) :
    f.decode (f.withSign negative magnitude) =
      if magnitude / 2 ^ f.fractionBits = 0 then
        .finite negative (magnitude % 2 ^ f.fractionBits) f.leastExponent
      else
        .finite negative (magnitude % 2 ^ f.fractionBits + 2 ^ f.fractionBits)
          (f.leastExponent + (magnitude / 2 ^ f.fractionBits - 1 : ℕ)) := by
  have hsign := h.trans f.infinityBits_lt_signBit
  have hnegative : decide (f.signBit ≤ f.withSign negative magnitude) = negative := by
    cases negative <;> simp [withSign, hsign]
  have hmagnitude : f.withSign negative magnitude % f.signBit = magnitude := by
    cases negative <;> simp [withSign, Nat.mod_eq_of_lt hsign]
  simp only [decode, hnegative, hmagnitude, if_neg h.not_gt, if_neg h.ne]

/-- A mantissa above the patterns of `steps` exponents stands for the mantissa times the power of two
that is as many steps from the least. It may reach the next power of two. -/
theorem value?_decode_withSign {negative : Bool} {steps : ℕ} (hk : k ≤ 2 ^ (f.fractionBits + 1))
    (hnormal : 2 ^ f.fractionBits ≤ k ∨ steps = 0)
    (hfinite : steps * 2 ^ f.fractionBits + k < f.infinityBits) :
    (f.decode (f.withSign negative (steps * 2 ^ f.fractionBits + k))).value? =
      some (Datum.signedMantissa negative k * 2 ^ (f.leastExponent + steps) : ℚ) := by
  have hpos := Nat.two_pow_pos f.fractionBits
  rw [pow_succ] at hk
  rw [decode_withSign hfinite]
  obtain hsub | ⟨fraction, rfl⟩ : k < 2 ^ f.fractionBits ∨ ∃ i, k = 2 ^ f.fractionBits + i := by
    obtain h | h := lt_or_ge k (2 ^ f.fractionBits)
    · exact .inl h
    · exact .inr ⟨k - 2 ^ f.fractionBits, by omega⟩
  · -- below the normal numbers the field of the exponent is zero
    obtain rfl : steps = 0 := hnormal.resolve_left hsub.not_ge
    simp [Nat.div_eq_of_lt hsub, Nat.mod_eq_of_lt hsub, Datum.value?]
  · obtain hlt | rfl : fraction < 2 ^ f.fractionBits ∨ fraction = 2 ^ f.fractionBits := by omega
    · have hform : steps * 2 ^ f.fractionBits + (2 ^ f.fractionBits + fraction) =
          fraction + 2 ^ f.fractionBits * (steps + 1) := by ring
      rw [hform, Nat.add_mul_div_left _ _ hpos, Nat.add_mul_mod_self_left, Nat.div_eq_of_lt hlt,
        Nat.mod_eq_of_lt hlt, if_neg (by omega)]
      simp [Datum.value?, add_comm]
    · -- the mantissa has carried into the field of the exponent
      have hform : steps * 2 ^ f.fractionBits + (2 ^ f.fractionBits + 2 ^ f.fractionBits) =
          2 ^ f.fractionBits * (steps + 2) := by ring
      rw [hform, Nat.mul_div_cancel_left _ hpos, Nat.mul_mod_right, if_neg (by omega), zero_add,
        Datum.value?]
      have hexponent : f.leastExponent + ((steps + 2 - 1 : ℕ) : ℤ) = f.leastExponent + steps + 1 := by
        omega
      rw [hexponent, zpow_add_one₀ two_ne_zero]
      cases negative <;> simp [Datum.signedMantissa] <;> ring

/-- **A rounded ratio stands for the nearest multiple of the spacing.** -/
theorem value?_decode_round {negative : Bool} (hd : 0 < denominator)
    (he : f.SpacedBy (numerator / denominator) e)
    (hk : NearestEven (numerator / denominator / 2 ^ e) k)
    (hfinite : (e - f.leastExponent).toNat * 2 ^ f.fractionBits + k < f.infinityBits) :
    (f.decode (f.round negative numerator denominator)).value? =
      some (Datum.signedMantissa negative k * 2 ^ e : ℚ) := by
  have hsteps : f.leastExponent + ((e - f.leastExponent).toNat : ℤ) = e := by
    have := he.least
    omega
  have hpos : (0 : ℚ) < 2 ^ e := by positivity
  rw [round, roundMagnitude_eq hd he hk, min_eq_right hfinite.le, value?_decode_withSign ?_ ?_ hfinite,
    hsteps]
  · refine hk.le_of_le ?_
    rw [div_le_iff₀ hpos]
    exact_mod_cast he.below.le
  · refine he.above.imp (fun habove => hk.ge_of_ge ?_) fun hleast => ?_
    · rw [le_div_iff₀ hpos]
      exact_mod_cast habove
    · rw [hleast, sub_self, Int.toNat_zero]

/-! ## Numbers of the format -/

/-- Exponent of the last mantissa bit of the greatest numbers. -/
def greatestExponent (f : BinaryFormat) : ℤ :=
  f.leastExponent + (2 ^ f.exponentBits - 3 : ℕ)

/-- The number has a mantissa and an exponent as the finite numbers of the format have them. -/
def Spans (f : BinaryFormat) (u : ℚ) : Prop :=
  ∃ m d : ℤ, u = m * 2 ^ d ∧ |m| < 2 ^ (f.fractionBits + 1) ∧ f.leastExponent ≤ d ∧
    d ≤ f.greatestExponent

theorem Spans.neg {u : ℚ} (h : f.Spans u) : f.Spans (-u) := by
  obtain ⟨m, d, rfl, hm, hd⟩ := h
  exact ⟨-m, d, by push_cast; ring, by rwa [abs_neg], hd⟩

theorem Spans.abs {u : ℚ} (h : f.Spans u) : f.Spans |u| := by
  obtain ⟨m, d, rfl, hm, hd⟩ := h
  refine ⟨|m|, d, ?_, by rwa [abs_abs], hd⟩
  have hpos : (0 : ℚ) < 2 ^ d := by positivity
  rw [abs_mul, abs_of_pos hpos, Int.cast_abs]

/-- The parts of a finite pattern. -/
theorem decode_eq_finite {bits m : ℕ} {negative : Bool} {d : ℤ}
    (h : f.decode bits = .finite negative m d) :
    bits % f.signBit < f.infinityBits ∧ negative = decide (f.signBit ≤ bits) ∧
      (m = 0 ↔ bits % f.signBit = 0) ∧ m < 2 ^ (f.fractionBits + 1) ∧
      f.leastExponent ≤ d ∧ d ≤ f.greatestExponent := by
  have hpow : (2 : ℕ) ^ (f.fractionBits + 1) = 2 ^ f.fractionBits + 2 ^ f.fractionBits := by ring
  have hfraction := Nat.mod_lt (bits % f.signBit) (Nat.two_pow_pos f.fractionBits)
  have hsplit := Nat.div_add_mod (bits % f.signBit) (2 ^ f.fractionBits)
  rw [decode] at h
  simp only at h
  split at h
  · cases h
  · split at h
    · cases h
    · next hnan hinfinite =>
      have hfinite : bits % f.signBit < f.infinityBits := lt_of_le_of_ne (not_lt.1 hnan) hinfinite
      have hfield : bits % f.signBit / 2 ^ f.fractionBits < 2 ^ f.exponentBits - 1 := by
        rwa [Nat.div_lt_iff_lt_mul (Nat.two_pow_pos _)]
      rw [greatestExponent]
      split at h
      · next hzero =>
        obtain ⟨rfl, rfl, rfl⟩ := Datum.finite.inj h
        rw [hzero, Nat.mul_zero, Nat.zero_add] at hsplit
        exact ⟨hfinite, rfl, by rw [hsplit], by omega, by omega, by omega⟩
      · next hnormal =>
        obtain ⟨rfl, rfl, rfl⟩ := Datum.finite.inj h
        have hmagnitude : bits % f.signBit ≠ 0 := by
          intro hzero
          rw [hzero, Nat.zero_div] at hnormal
          exact hnormal rfl
        exact ⟨hfinite, rfl, by omega, by omega, by omega, by omega⟩

/-- A finite pattern stands for a number of the format. -/
theorem spans_of_decode {bits : ℕ} {u : ℚ} (h : (f.decode bits).value? = some u) : f.Spans u := by
  obtain ⟨negative, m, d, hdatum, rfl⟩ := Datum.value?_eq_some_iff.1 h
  obtain ⟨-, -, -, hm, hd⟩ := decode_eq_finite hdatum
  refine ⟨Datum.signedMantissa negative m, d, rfl, ?_, hd⟩
  have habs : |Datum.signedMantissa negative m| = m := by
    exact_mod_cast Datum.abs_signedMantissa negative m
  rw [habs]
  exact_mod_cast hm

/-- A number with a mantissa of the format's width is a multiple of the spacing there. -/
theorem SpacedBy.le_of_lt {d : ℤ} (he : f.SpacedBy q e) (hd : f.leastExponent ≤ d)
    (hq : q < 2 ^ (f.fractionBits + 1) * 2 ^ d) : e ≤ d := by
  by_contra hlt
  have habove := he.above.resolve_right (by omega)
  have hpow : (2 : ℚ) ^ (d + 1) ≤ 2 ^ e := zpow_le_zpow_right₀ (by norm_num) (by omega)
  rw [zpow_add_one₀ two_ne_zero] at hpow
  have hscaled := mul_le_mul_of_nonneg_left hpow (by positivity : (0 : ℚ) ≤ 2 ^ f.fractionBits)
  rw [pow_succ] at hq
  linarith

theorem exists_spacedBy (f : BinaryFormat) (hq : 0 ≤ q) : ∃ e, f.SpacedBy q e := by
  obtain rfl | hpos := hq.eq_or_lt
  · exact ⟨f.leastExponent, le_rfl, by positivity, .inr rfl⟩
  · have hn : 0 < q.num.natAbs := Int.natAbs_pos.2 (Rat.num_pos.2 hpos).ne'
    exact ⟨_, natAbs_num_div_den hq ▸ spacedBy_unitExponent hn q.den_pos⟩

/-- **A number of the format is a multiple of the spacing**, so that rounding does not change it. -/
theorem Spans.exists_multiple (h : f.Spans q) (hq : 0 ≤ q) :
    ∃ (e : ℤ) (k : ℕ), f.SpacedBy q e ∧ e ≤ f.greatestExponent ∧ k < 2 ^ (f.fractionBits + 1) ∧
      q = k * 2 ^ e := by
  obtain ⟨e, he⟩ := f.exists_spacedBy hq
  obtain ⟨m, d, rfl, hm, hleast, hgreatest⟩ := h
  have hpos : (0 : ℚ) < 2 ^ d := by positivity
  have hm0 : 0 ≤ m := by exact_mod_cast nonneg_of_mul_nonneg_left hq hpos
  obtain ⟨n, rfl⟩ := Int.eq_ofNat_of_zero_le hm0
  have hn : (n : ℚ) < 2 ^ (f.fractionBits + 1) := by
    rw [Int.abs_natCast] at hm
    exact_mod_cast hm
  have hle : e ≤ d := he.le_of_lt hleast (by rw [Int.cast_natCast]; gcongr)
  obtain ⟨i, rfl⟩ : ∃ i : ℕ, d = e + i := ⟨(d - e).toNat, by omega⟩
  have hform : ((n : ℤ) : ℚ) * 2 ^ (e + i) = (n * 2 ^ i : ℕ) * 2 ^ e := by
    rw [zpow_add₀ two_ne_zero, zpow_natCast]
    push_cast
    ring
  refine ⟨e, n * 2 ^ i, he, hle.trans hgreatest, ?_, hform⟩
  have hbelow := he.below
  rw [hform] at hbelow
  exact_mod_cast lt_of_mul_lt_mul_right hbelow (by positivity)

/-! ## No number is nearer -/

/-- A number on a finer grid is below all numbers of the coarser one. -/
theorem abs_lt_of_lt {m d : ℤ} (hm : |m| < 2 ^ (f.fractionBits + 1)) (hd : d < e) :
    |(m : ℚ) * 2 ^ d| < 2 ^ f.fractionBits * 2 ^ e := by
  have hpow : (2 : ℚ) ^ (d + 1) ≤ 2 ^ e := zpow_le_zpow_right₀ (by norm_num) hd
  have hm' : |(m : ℚ)| < 2 ^ (f.fractionBits + 1) := by exact_mod_cast hm
  have hpos : (0 : ℚ) < 2 ^ d := by positivity
  calc |(m : ℚ) * 2 ^ d| = |(m : ℚ)| * 2 ^ d := by rw [abs_mul, abs_of_pos hpos]
    _ < 2 ^ (f.fractionBits + 1) * 2 ^ d := by gcongr
    _ = 2 ^ f.fractionBits * 2 ^ (d + 1) := by
        rw [pow_succ, zpow_add_one₀ two_ne_zero]
        ring
    _ ≤ 2 ^ f.fractionBits * 2 ^ e := by gcongr

/-- **No number of the format is nearer** than the nearest multiple of the spacing, and if another one is
as near then the multiple is even. -/
theorem SpacedBy.nearest (he : f.SpacedBy q e) (hk : NearestEven (q / 2 ^ e) k) {u : ℚ}
    (hu : f.Spans u) (hne : u ≠ k * 2 ^ e) :
    |q - k * 2 ^ e| ≤ |q - u| ∧ (|q - k * 2 ^ e| = |q - u| → Even k) := by
  have hpos : (0 : ℚ) < 2 ^ e := by positivity
  -- in units of the spacing the multiples of it are the integers
  have hunits (j : ℤ) : |q - j * 2 ^ e| = |q / 2 ^ e - j| * 2 ^ e := by
    rw [← abs_of_pos hpos, ← abs_mul, abs_of_pos hpos, sub_mul, div_mul_cancel₀ _ hpos.ne']
  have hgrid (j : ℤ) (hj : j ≠ k) :
      |q - k * 2 ^ e| ≤ |q - j * 2 ^ e| ∧ (|q - k * 2 ^ e| = |q - j * 2 ^ e| → Even k) := by
    obtain ⟨hle, heven⟩ := hk.of_ne hj
    have hunits_k := hunits k
    rw [Int.cast_natCast] at hunits_k
    rw [hunits_k, hunits]
    exact ⟨by gcongr, fun heq => heven (mul_right_cancel₀ hpos.ne' heq)⟩
  obtain ⟨m, d, rfl, hm, hd, -⟩ := hu
  obtain hle | hlt := le_or_gt e d
  · -- the number is a multiple of the spacing itself
    obtain ⟨n, rfl⟩ : ∃ n : ℕ, d = e + n := ⟨(d - e).toNat, by omega⟩
    have hform : (m : ℚ) * 2 ^ (e + n : ℤ) = (m * 2 ^ n : ℤ) * 2 ^ e := by
      rw [zpow_add₀ two_ne_zero, zpow_natCast]
      push_cast
      ring
    rw [hform] at hne ⊢
    refine hgrid _ fun hj => hne ?_
    rw [hj, Int.cast_natCast]
  · -- the least normal number of this spacing stands between
    have habove := he.above.resolve_right (by omega)
    have hbelow := abs_lt_of_lt hm hlt
    have hnear : |q - k * 2 ^ e| ≤ |q - 2 ^ f.fractionBits * 2 ^ e| := by
      by_cases hj : ((2 ^ f.fractionBits : ℕ) : ℤ) = k
      · rw [show (k : ℚ) = 2 ^ f.fractionBits by exact_mod_cast hj.symm]
      · exact_mod_cast (hgrid _ hj).1
    have hstrict : |q - k * 2 ^ e| < |q - m * 2 ^ d| := by
      rw [abs_of_nonneg (by linarith : 0 ≤ q - 2 ^ f.fractionBits * 2 ^ e)] at hnear
      have := le_abs_self (q - m * 2 ^ d)
      have := le_abs_self ((m : ℚ) * 2 ^ d)
      linarith
    exact ⟨hstrict.le, fun heq => absurd heq hstrict.ne⟩

end BinaryFormat

end PortableSql
