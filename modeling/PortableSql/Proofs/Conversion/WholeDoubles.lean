import Mathlib.Algebra.Ring.Int.Parity
import PortableSql.Proofs.Conversion.Integers
import PortableSql.Proofs.Number.Double

/-!
# Whole numbers in doubles

A double that stands for an integer is converted to an integer by adding a half, or taking one away,
and dropping the fraction. The sum is rounded to a double first: from `2 ^ 52` on it cannot keep the
half, and an odd number goes to the even number that is next to it. All other integers are kept.

## Main definitions

* `Conversion.settle` — where an integer ends up.
-/
namespace PortableSql.Conversion

open BinaryFormat (double)

variable {n : ℤ} {x : Double} {q v : ℚ} {k N : ℕ} {e : ℤ}

/-- Where an integer ends up when a half is added to it in doubles and the fraction is dropped. Between
`2 ^ 52` and `2 ^ 53` the doubles are the integers, and a number with a half goes to the even one next
to it. Beyond, they are so far apart that a half makes no difference. -/
def settle (n : ℤ) : ℤ :=
  if 2 ^ 52 < |n| ∧ |n| < 2 ^ 53 ∧ Odd n then n + n.sign else n

/-- A magnitude ends up there under either sign. -/
def settleMagnitude (N : ℕ) : ℕ :=
  if 2 ^ 52 < N ∧ N < 2 ^ 53 ∧ Odd N then N + 1 else N

theorem settle_eq (n : ℤ) :
    settle n = if n < 0 then -(settleMagnitude n.natAbs : ℤ) else settleMagnitude n.natAbs := by
  have hcases : (2 ^ 52 < |n| ∧ |n| < 2 ^ 53 ∧ Odd n) ↔
      2 ^ 52 < n.natAbs ∧ n.natAbs < 2 ^ 53 ∧ Odd n.natAbs := by
    rw [Int.abs_eq_natAbs, ← Int.natAbs_odd]
    norm_cast
  rw [settle, settleMagnitude]
  by_cases h : 2 ^ 52 < n.natAbs ∧ n.natAbs < 2 ^ 53 ∧ Odd n.natAbs
  · rw [if_pos (hcases.2 h), if_pos h]
    obtain hneg | hpos : n < 0 ∨ 0 < n := by omega
    · rw [if_pos hneg, Int.sign_eq_neg_one_of_neg hneg]
      omega
    · rw [if_neg hpos.not_gt, Int.sign_eq_one_of_pos hpos]
      omega
  · rw [if_neg (mt hcases.1 h), if_neg h]
    split <;> omega

/-! ## A half more -/

/-- One half with the sign of the number. -/
theorem value?_halfLike (h : x.value? = some v) :
    (halfLike x).value? = some (if v < 0 then -(1 / 2) else 1 / 2) := by
  have hplus : (Double.ofRatio 1 2).datum = .finite false (2 ^ 52) (-53) := by decide +kernel
  have hminus : (-Double.ofRatio 1 2).datum = .finite true (2 ^ 52) (-53) := by decide +kernel
  rw [halfLike, x.less_zero h]
  by_cases hneg : v < 0
  · rw [if_pos (decide_eq_true hneg), if_pos hneg, Double.value?, hminus]
    norm_num [Datum.value?, Datum.signedMantissa]
  · rw [if_neg (by simpa using hneg), if_neg hneg, Double.value?, hplus]
    norm_num [Datum.value?, Datum.signedMantissa]

/-- The exact sum of an integer and its half. -/
theorem value?_add_halfLike (h : x.value? = some (n : ℚ)) :
    (x.datum.add (halfLike x).datum).value? =
      some (if n < 0 then -((n.natAbs : ℚ) + 1 / 2) else n.natAbs + 1 / 2) := by
  rw [Datum.value?_add h (value?_halfLike h), Option.some.injEq, Nat.cast_natAbs, Int.cast_abs]
  by_cases hneg : n < 0
  · have hcast : (n : ℚ) < 0 := Int.cast_lt_zero.2 hneg
    rw [if_pos hcast, if_pos hneg, abs_of_neg hcast]
    ring
  · have hcast : (0 : ℚ) ≤ n := Int.cast_nonneg (not_lt.1 hneg)
    rw [if_neg hcast.not_gt, if_neg hneg, abs_of_nonneg hcast]

/-- Below `2 ^ 52` a double can keep the half. -/
theorem spans_add_half (hN : N < 2 ^ 52) : double.Spans (N + 1 / 2) := by
  refine ⟨2 * N + 1, -1, ?_, ?_, by decide, by decide⟩
  · rw [zpow_neg_one]
    push_cast
    ring
  · rw [show double.fractionBits + 1 = 53 from rfl, abs_of_nonneg (by omega)]
    omega

/-- Between `2 ^ 52` and `2 ^ 53` a number with a half is rounded to the even one next to it. -/
theorem nearestEven_add_half (hlow : 2 ^ 52 ≤ N) (hhigh : N < 2 ^ 53) :
    double.SpacedBy (N + 1 / 2) 0 ∧
      NearestEven ((N + 1 / 2) / 2 ^ (0 : ℤ)) (settleMagnitude N) := by
  have hlow' : (2 : ℚ) ^ 52 ≤ N := by exact_mod_cast hlow
  have hhigh' : (N : ℚ) + 1 ≤ 2 ^ 53 := by exact_mod_cast hhigh
  have hfraction : double.fractionBits = 52 := rfl
  rw [zpow_zero, div_one]
  refine ⟨⟨by decide, ?_, .inl ?_⟩, ?_, ?_⟩
  · rw [hfraction, zpow_zero]
    linarith
  · rw [hfraction, zpow_zero]
    linarith
  · rw [settleMagnitude]
    split <;> push_cast <;> norm_num
  · intro _
    rw [settleMagnitude]
    split
    · next h => exact h.2.2.add_one
    · next h =>
      rw [← Nat.not_odd_iff_even]
      intro hodd
      -- the least number is even
      obtain heq | hlt := hlow.eq_or_lt
      · rw [← heq] at hodd
        exact absurd hodd (by decide)
      · exact h ⟨hlt, hhigh, hodd⟩

/-- Beyond, the half is less than half of the spacing. -/
theorem nearestEven_add_half_of_le (hN : 2 ^ 53 ≤ N) (hspans : double.Spans N) :
    ∃ (e : ℤ) (k : ℕ), double.SpacedBy (N + 1 / 2) e ∧ NearestEven ((N + 1 / 2) / 2 ^ e) k ∧
      k * 2 ^ e < (2 : ℚ) ^ 1024 ∧ (N : ℚ) = k * 2 ^ e := by
  obtain ⟨e, k, he, -, hfinite, hform⟩ := Double.exists_multiple hspans
  rw [Nat.abs_cast] at he hform
  have hpos : (0 : ℚ) < 2 ^ e := zpow_pos two_pos e
  have hfraction : double.fractionBits + 1 = 53 := rfl
  have hbelow := he.below
  rw [hfraction] at hbelow
  have hN' : (2 : ℚ) ^ 53 ≤ N := by exact_mod_cast hN
  have hspacing : (2 : ℚ) ≤ 2 ^ e := by
    have hone : (1 : ℚ) < 2 ^ e := by linarith
    have he : 0 < e := (one_lt_zpow_iff_right₀ one_lt_two).1 hone
    calc (2 : ℚ) = 2 ^ (1 : ℤ) := (zpow_one 2).symm
      _ ≤ 2 ^ e := zpow_le_zpow_right₀ one_le_two he
  have hk : (k : ℚ) + 1 ≤ 2 ^ 53 := by
    rw [hform] at hbelow
    have hlt : (k : ℚ) < 2 ^ 53 := lt_of_mul_lt_mul_right hbelow hpos.le
    exact_mod_cast hlt
  have hrest : (0 : ℚ) ≤ 1 / 2 / 2 ^ e ∧ (1 : ℚ) / 2 / 2 ^ e < 1 / 2 := by
    constructor
    · exact div_nonneg one_half_pos.le hpos.le
    · rw [div_lt_iff₀ hpos]
      linarith
  have hscaled : ((N : ℚ) + 1 / 2) / 2 ^ e - k = 1 / 2 / 2 ^ e := by
    rw [hform, add_div, mul_div_cancel_right₀ _ hpos.ne', add_sub_cancel_left]
  have hmore : (N : ℚ) ≤ N + 1 / 2 := le_add_of_nonneg_right one_half_pos.le
  refine ⟨e, k, ⟨he.least, ?_, he.above.imp_left hmore.trans'⟩, ⟨?_, ?_⟩, hfinite, hform⟩
  · have hnext := mul_le_mul_of_nonneg_right hk hpos.le
    rw [add_mul, ← hform, one_mul] at hnext
    rw [hfraction]
    linarith
  · rw [hscaled, abs_of_nonneg hrest.1]
    exact hrest.2.le
  · rw [hscaled, abs_of_nonneg hrest.1]
    exact fun h => absurd h hrest.2.ne

/-! ## The fraction dropped -/

/-- A double under the sign of an integer is truncated to the whole part under that sign. -/
theorem truncate?_of_signed {y : Double} (hq : 0 ≤ q)
    (h : y.value? = some (if n < 0 then -q else q)) :
    y.truncate? = some (if n < 0 then -⌊q⌋ else ⌊q⌋) := by
  rw [Double.truncate?_eq h, Option.some.injEq]
  by_cases hneg : n < 0
  · rw [if_pos hneg, if_pos hneg, Int.ceil_neg]
    split
    · rfl
    · next hzero =>
      obtain rfl : q = 0 := by linarith
      rw [neg_zero, Int.floor_zero, neg_zero]
  · rw [if_neg hneg, if_neg hneg, if_neg hq.not_gt]

/-- So is an exact result that is rounded to an integer. -/
theorem truncate?_ofDatum {d : Datum} {M : ℕ} (hq : 0 < q)
    (h : d.value? = some (if n < 0 then -q else q)) (he : double.SpacedBy q e)
    (hk : NearestEven (q / 2 ^ e) k) (hfinite : k * 2 ^ e < (2 : ℚ) ^ 1024)
    (hM : (M : ℚ) = k * 2 ^ e) :
    (Double.ofDatum d).truncate? = some (if n < 0 then -(M : ℤ) else M) := by
  have hvalue : (Double.ofDatum d).value? = some (if n < 0 then -(M : ℚ) else M) := by
    by_cases hneg : n < 0
    · rw [if_pos hneg] at h
      have habs : |-q| = q := by rw [abs_neg, abs_of_pos hq]
      rw [Double.value?_ofDatum h (habs.symm ▸ he) (habs.symm ▸ hk) hfinite,
        if_pos (neg_lt_zero.2 hq), if_pos hneg, hM]
    · rw [if_neg hneg] at h
      have habs : |q| = q := abs_of_pos hq
      rw [Double.value?_ofDatum h (habs.symm ▸ he) (habs.symm ▸ hk) hfinite, if_neg hq.not_gt,
        if_neg hneg, hM]
  rw [truncate?_of_signed M.cast_nonneg hvalue, Int.floor_natCast]

/-- **A half is added and the fraction dropped.** -/
theorem truncate?_add_halfLike (h : x.value? = some (n : ℚ)) :
    (x + halfLike x).truncate? = some (settle n) := by
  have hsum := value?_add_halfLike h
  have hadd : x + halfLike x = .ofDatum (x.datum.add (halfLike x).datum) := rfl
  have hspans : double.Spans n.natAbs := by
    rw [Nat.cast_natAbs, Int.cast_abs]
    exact (Double.spans_of_value? h).abs
  rw [hadd, settle_eq]
  generalize x.datum.add (halfLike x).datum = sum at hsum
  generalize n.natAbs = N at *
  have hhalf : (0 : ℚ) < (N : ℚ) + 1 / 2 := by positivity
  obtain hlow | hlow := lt_or_ge N (2 ^ 52)
  · have hsame : settleMagnitude N = N := if_neg (by omega)
    have hkept : double.Spans (if n < 0 then -((N : ℚ) + 1 / 2) else N + 1 / 2) := by
      split
      · exact (spans_add_half hlow).neg
      · exact spans_add_half hlow
    have hfloor : ⌊(N : ℚ) + 1 / 2⌋ = N := by
      rw [Int.floor_natCast_add]
      norm_num
    rw [truncate?_of_signed hhalf.le (Double.value?_ofDatum_of_spans hsum hkept), hfloor, hsame]
  · obtain hhigh | hhigh := lt_or_ge N (2 ^ 53)
    · obtain ⟨he, hk⟩ := nearestEven_add_half hlow hhigh
      have hle : settleMagnitude N ≤ 2 ^ 53 := by
        rw [settleMagnitude]
        split <;> omega
      refine truncate?_ofDatum hhalf hsum he hk ?_ (by rw [zpow_zero, mul_one])
      rw [zpow_zero, mul_one]
      calc (settleMagnitude N : ℚ) ≤ 2 ^ 53 := by exact_mod_cast hle
        _ < 2 ^ 1024 := pow_lt_pow_right₀ one_lt_two (by decide)
    · have hsame : settleMagnitude N = N := if_neg (by omega)
      obtain ⟨e, k, he, hk, hfinite, hform⟩ := nearestEven_add_half_of_le hhigh hspans
      rw [hsame, truncate?_ofDatum hhalf hsum he hk hfinite hform]

/-! ## Conversions -/

/-- **Where a double that stands for an integer is converted to.** -/
theorem floatToInt_of_value? (h : x.value? = some (n : ℚ)) (target : IntType) :
    floatToInt .double target x = narrowInt target (settle n) x.text "double" := by
  have htruncate := truncate?_add_halfLike h
  simp only [floatToInt, FloatType.widen, htruncate, FloatType.text, FloatType.name]

/-- The narrower types have no number beyond `2 ^ 52`. -/
theorem not_fits_of_lt {target : IntType} (hsize : target.size < 8) (hn : 2 ^ 52 < |n|) :
    ¬target.Fits n := by
  rw [lt_abs] at hn
  rw [IntType.Fits]
  cases target <;>
    simp [IntType.least, IntType.greatest, IntType.isSigned, IntType.modulus,
      IntType.size] at hsize ⊢ <;> omega

/-- The numbers that are not kept are beyond the range of the narrower types, and stay there. -/
theorem narrowInt_settle {target : IntType} (hsize : target.size < 8) (shown kind : String) :
    narrowInt target (settle n) shown kind = narrowInt target n shown kind := by
  by_cases hmoves : 2 ^ 52 < |n| ∧ |n| < 2 ^ 53 ∧ Odd n
  · have hsettled : 2 ^ 52 < |settle n| := by
      rw [settle, if_pos hmoves]
      obtain ⟨hlow, -⟩ := hmoves
      rw [lt_abs] at hlow ⊢
      obtain hpos | hneg := hlow
      · rw [Int.sign_eq_one_of_pos (by omega)]
        omega
      · rw [Int.sign_eq_neg_one_of_neg (by omega)]
        omega
    rw [narrowInt, narrowInt, if_neg (not_fits_of_lt hsize hsettled),
      if_neg (not_fits_of_lt hsize hmoves.1)]
  · rw [settle, if_neg hmoves]

/-- **What becomes of an integer below `2 ^ 53` in a double.** Every double that stands for it is
converted to the integer itself, except that beyond `2 ^ 52` an odd one comes out as the even one next to
it, away from zero; out of range is what the target type does not have. The types of less than 64 bits
have none of these, so that for them it is the integer itself that is kept or out of range. An integer
put into a parameter of doubles arrives as a double that stands for it, and is read back from there like
any other. -/
theorem whole_doubles_settle (hn : |n| < 2 ^ 53) :
    (∀ x : Double, x.value? = some (n : ℚ) → ∀ target : IntType,
      floatToInt .double target x =
        (if target.Fits (settle n) then .ok (settle n)
          else .error (integerRange x.text "double" target)) ∧
      (target.size < 8 →
        floatToInt .double target x =
          if target.Fits n then .ok n else .error (integerRange x.text "double" target))) ∧
    ∀ source : IntType, ∃ x : Double, landInt source .double n = .ok (.double x) ∧
      x.value? = some (n : ℚ) ∧
      ∀ cell : CellReader, Gives cell (.double x) → ∀ target : IntType,
        fetchInt cell .double target = floatToInt .double target x := by
  constructor
  · intro x hx target
    have hsettles := floatToInt_of_value? hx target
    refine ⟨hsettles, fun hsize => ?_⟩
    rw [hsettles, narrowInt_settle hsize, narrowInt]
  · intro source
    refine ⟨.ofInt n, rfl, Double.value?_ofInt (Double.spans_intCast hn.le), ?_⟩
    intro cell hcell target
    have hread : cell.double = .ok (.ofInt n) := hcell
    rw [fetchInt, hread]
    rfl

/-- The last even number below `2 ^ 53`, with a minus sign, comes back from a parameter of doubles, and
is out of range for the narrower types. -/
theorem last_even_number_comes_back :
    let n : ℤ := -9007199254740990
    |n| < 2 ^ 53 ∧ ∃ x : Double, landInt .int64 .double n = .ok (.double x) ∧
      fetchInt (.ofValue (.ok (.double x))) .double .int64 = .ok n ∧
      floatToInt .double .int32 x = .error (integerRange x.text "double" .int32) := by
  intro n
  have hn : |n| < 2 ^ 53 := by decide
  obtain ⟨hconverted, hparameter⟩ := whole_doubles_settle hn
  obtain ⟨x, hland, hvalue, hread⟩ := hparameter .int64
  refine ⟨hn, x, hland, ?_, ?_⟩
  · have hsettle : settle n = n := by decide
    have hcell : Gives (.ofValue (.ok (.double x))) (.double x) := rfl
    rw [hread _ hcell .int64, (hconverted x hvalue .int64).1, hsettle, if_pos (by decide)]
  · rw [(hconverted x hvalue .int32).2 (by decide), if_neg (by decide)]

/-- Every double that stands for an integer below `2 ^ 53` is converted to it. -/
def KeepsWholeDoubles : Prop :=
  ∀ (n : ℤ) (x : Double), |n| < 2 ^ 53 → x.value? = some (n : ℚ) →
    floatToInt .double .int64 x = .ok n

/-- The first odd number beyond `2 ^ 52` comes out as the next one. -/
theorem first_odd_number_moves :
    let n : ℤ := 4503599627370497
    let x : Double := ⟨0x4330000000000001⟩
    x.value? = some (n : ℚ) ∧ floatToInt .double .int64 x = .ok (n + 1) ∧ ¬KeepsWholeDoubles := by
  intro n x
  have hdatum : x.datum = .finite false 4503599627370497 0 := by decide +kernel
  have hvalue : x.value? = some (n : ℚ) := by
    rw [Double.value?, hdatum, Datum.value?, zpow_zero, mul_one]
    rfl
  have hmoves : floatToInt .double .int64 x = .ok (n + 1) := by
    have hsettle : settle n = n + 1 := by decide
    rw [floatToInt_of_value? hvalue, hsettle, narrowInt, if_pos (by decide)]
  refine ⟨hvalue, hmoves, fun hkeeps => ?_⟩
  have hkept := hkeeps n x (by decide) hvalue
  rw [hmoves] at hkept
  exact absurd hkept (by decide)

end PortableSql.Conversion
