import PortableSql.Proofs.Conversion.WholeDoubles
import PortableSql.Proofs.Number.DecimalFraction
import PortableSql.SqlServer.Cells

/-!
# Numbers with decimal places

A cell of a number with decimal places is read as the double nearest to the number, by way of its text.
A whole number that is read as an integer goes the same way: it arrives if a double stands for it, and
else what arrives is the integer that the nearest double stands for.
-/
namespace PortableSql.SqlServer

open Conversion (floatToInt integerRange narrowInt settle)
open Text.Decimal (IsDigits value digits padded isDigits_digits isDigits_padded value_padded
  length_padded length_digits_le value_append)

variable {n m : ℤ} {x : Double}

/-! ## The text of a number -/

namespace Numeric

variable (n : Numeric)

/-- The digits in front of the point. -/
def whole : List Char :=
  digits (n.unscaled.natAbs / 10 ^ n.scale)

/-- The digits behind the point. -/
def fraction : List Char :=
  padded n.scale (n.unscaled.natAbs % 10 ^ n.scale)

theorem isDigits_whole : IsDigits n.whole :=
  isDigits_digits _

theorem isDigits_fraction : IsDigits n.fraction :=
  isDigits_padded _ _

theorem toList_text :
    n.text.toList =
      FloatText.signText (decide (n.unscaled < 0)) ++ (n.whole ++ '.' :: n.fraction) := by
  rw [text, String.toList_ofList, List.append_assoc, FloatText.signText, whole, fraction]
  by_cases hneg : n.unscaled < 0 <;> simp [hneg]

/-- There is a digit behind the point, also if there are no decimal places. -/
theorem length_fraction : n.fraction.length = max n.scale 1 := by
  have hlen : (digits (n.unscaled.natAbs % 10 ^ n.scale)).length ≤ max n.scale 1 := by
    refine length_digits_le (by omega) ?_
    calc n.unscaled.natAbs % 10 ^ n.scale < 10 ^ n.scale := Nat.mod_lt _ (Nat.pow_pos (by decide))
      _ ≤ 10 ^ max n.scale 1 := Nat.pow_le_pow_right (by decide) (le_max_left _ _)
  have hpos : 0 < (digits (n.unscaled.natAbs % 10 ^ n.scale)).length :=
    List.length_pos_of_ne_nil (isDigits_digits _).ne_nil
  rw [fraction, length_padded]
  omega

/-- The digits without the point. -/
theorem value_digits : value (n.whole ++ n.fraction) =
    n.unscaled.natAbs * 10 ^ (max n.scale 1 - n.scale) := by
  rw [value_append, length_fraction, whole, fraction, Text.Decimal.value_digits, value_padded]
  obtain hzero | hpos := n.scale.eq_zero_or_pos
  · rw [hzero, pow_zero, Nat.div_one, Nat.mod_one, Nat.add_zero]
    rfl
  · have hmax : max n.scale 1 = n.scale := by omega
    rw [hmax, Nat.sub_self, pow_zero, Nat.mul_one, Nat.div_add_mod']

/-- What the digits are worth, divided by the power of ten for their places. -/
theorem value_div : (value (n.whole ++ n.fraction) : ℚ) / (10 ^ n.fraction.length : ℕ) =
    n.unscaled.natAbs / 10 ^ n.scale := by
  have hten : (10 : ℚ) ≠ 0 := by norm_num
  have hplaces : max n.scale 1 = n.scale + (max n.scale 1 - n.scale) := by omega
  rw [value_digits, length_fraction]
  nth_rewrite 2 [hplaces]
  push_cast
  rw [pow_add, mul_div_mul_right _ _ (pow_ne_zero _ hten)]

/-- Nothing of the text is blank. -/
theorem trim_text : Text.trim n.text.toList = n.text.toList := by
  refine Text.trim_eq_self fun c hc => ?_
  rw [toList_text, FloatText.signText] at hc
  simp only [List.mem_append, List.mem_cons] at hc
  obtain hsign | hwhole | rfl | hfraction := hc
  · split at hsign
    · rw [List.mem_singleton.1 hsign]
      rfl
    · cases hsign
  · exact Text.isBlank_of_isDigit (n.isDigits_whole.isDigit c hwhole)
  · rfl
  · exact Text.isBlank_of_isDigit (n.isDigits_fraction.isDigit c hfraction)

end Numeric

/-- A number that is not infinite is in the range of doubles. -/
theorem narrowFloat_double {x : Double} (hfinite : x.isFinite = true) (shown source : String) :
    Conversion.narrowFloat .double x shown source = .ok x := by
  have hrange : (x.isFinite && FloatType.double.greatest.less x.abs) = false := by
    rw [hfinite, Bool.true_and]
    exact Double.greatest_less_abs hfinite
  simp only [Conversion.narrowFloat, hrange]
  rfl

/-- A text that is read as a number that is not infinite gives that number. -/
theorem readDouble_of_parse? {n : Numeric} {x : Double}
    (hparse : FloatText.parse? n.text.toList = some x) (hfinite : x.isFinite = true) :
    readDouble (.value (.numeric n)) = .ok x := by
  rw [readDouble, Conversion.textToFloat]
  simp only [n.trim_text, hparse]
  exact narrowFloat_double hfinite _ _

/-- **A number with decimal places is read as the double nearest to it.** -/
theorem exists_nearest_readDouble {n : Numeric} (hunscaled : |n.unscaled| ≤ 2 ^ 127)
    (hscale : n.scale ≤ 38) :
    ∃ x w, readDouble (.value (.numeric n)) = .ok x ∧
      x.Nearest ((n.unscaled : ℚ) / 10 ^ n.scale) w := by
  have hvalue : value (n.whole ++ n.fraction) < 10 ^ 300 := by
    have hle : n.unscaled.natAbs ≤ 2 ^ 127 := by
      rw [Int.abs_eq_natAbs] at hunscaled
      omega
    rw [n.value_digits]
    calc n.unscaled.natAbs * 10 ^ (max n.scale 1 - n.scale)
        ≤ 2 ^ 127 * 10 ^ 1 :=
          Nat.mul_le_mul hle (Nat.pow_le_pow_right (by decide) (by omega))
      _ ≤ 10 ^ 40 := by norm_num
      _ < 10 ^ 300 := by gcongr <;> decide
  have hlen : n.fraction.length ≤ 300 := by
    rw [n.length_fraction]
    omega
  obtain ⟨x, w, hparse, hnearest⟩ := FloatText.exists_nearest_fixed (decide (n.unscaled < 0))
    n.isDigits_whole n.isDigits_fraction hvalue hlen
  have hsigned : (if decide (n.unscaled < 0) then -((n.unscaled.natAbs : ℚ) / 10 ^ n.scale)
      else n.unscaled.natAbs / 10 ^ n.scale) = n.unscaled / 10 ^ n.scale := by
    rw [Nat.cast_natAbs]
    by_cases hneg : n.unscaled < 0
    · rw [if_pos (decide_eq_true hneg), abs_of_neg hneg, Int.cast_neg, neg_div, neg_neg]
    · rw [if_neg (by simpa using hneg), abs_of_nonneg (not_lt.1 hneg)]
  rw [n.value_div, hsigned] at hnearest
  rw [← n.toList_text] at hparse
  exact ⟨x, w, readDouble_of_parse? hparse (Double.isFinite_of_value? hnearest.value), hnearest⟩

/-! ## Whole numbers -/

/-- Read as a double, a cell of a number with decimal places is its double. -/
theorem decodeCell_numeric_double {a : Numeric} (h : readDouble (.value (.numeric a)) = .ok x)
    (hfinite : x.isFinite = true) :
    decodeCell (.value (.numeric a)) .double = .ok (.double x) := by
  have hcell : Conversion.fetchFloat (reader (.value (.numeric a))) .double .double = .ok x := by
    rw [Conversion.fetchFloat, reader, h]
    exact narrowFloat_double hfinite _ _
  have hdecode : decodeCell (.value (.numeric a)) .double =
      (Conversion.fetchFloat (reader (.value (.numeric a))) .double .double).map .double := rfl
  rw [hdecode, hcell]
  rfl

/-- Read as an integer, it is converted from its double. -/
theorem decodeCell_numeric {a : Numeric} (h : readDouble (.value (.numeric a)) = .ok x) :
    decodeCell (.value (.numeric a)) .int16 =
        (floatToInt .double .int16 x).map (fun n => .int16 (.ofInt n)) ∧
      decodeCell (.value (.numeric a)) .int32 =
        (floatToInt .double .int32 x).map (fun n => .int32 (.ofInt n)) ∧
      decodeCell (.value (.numeric a)) .int64 =
        (floatToInt .double .int64 x).map (fun n => .int64 (.ofInt n)) := by
  have hcell (target : IntType) :
      Conversion.fetchInt (reader (.value (.numeric a))) .double target =
        floatToInt .double target x := by
    rw [Conversion.fetchInt, reader, h]
    rfl
  rw [← hcell .int16, ← hcell .int32, ← hcell .int64]
  exact ⟨rfl, rfl, rfl⟩

/-- For the narrower types it makes no difference that an integer has been rounded. -/
theorem narrowInt_rounded {target : IntType} (hsize : target.size < 8)
    (hkept : |n| ≤ 2 ^ 53 → m = n) (hfar : 2 ^ 53 < |n| → 2 ^ 53 ≤ |m|) (shown kind : String) :
    narrowInt target m shown kind = narrowInt target n shown kind := by
  obtain hle | hlt := le_or_gt |n| (2 ^ 53)
  · rw [hkept hle]
  · have hm : ¬target.Fits m := Conversion.not_fits_of_lt hsize (by have := hfar hlt; omega)
    have hn : ¬target.Fits n := Conversion.not_fits_of_lt hsize (by omega)
    rw [narrowInt, narrowInt, if_neg hm, if_neg hn]

theorem settle_rounded (hkept : |n| ≤ 2 ^ 53 → m = n) (hfar : 2 ^ 53 < |n| → 2 ^ 53 ≤ |m|)
    (hmoves : ¬(2 ^ 52 < |n| ∧ |n| < 2 ^ 53 ∧ Odd n)) : settle m = m := by
  refine if_neg fun hm => ?_
  obtain hle | hlt := le_or_gt |n| (2 ^ 53)
  · exact hmoves (hkept hle ▸ hm)
  · exact absurd hm.2.1 (hfar hlt).not_gt

theorem map_narrowInt {target : IntType} {shown kind : String} (f : ℤ → Value) :
    (narrowInt target n shown kind).map f =
      if target.Fits n then .ok (f n) else .error (integerRange shown kind target) := by
  rw [narrowInt]
  split <;> rfl

/-- **What becomes of a whole number in a cell with decimal places.** It is read as the double nearest to
it, ties to even, which stands for the number itself up to `2 ^ 53`. A small integer or an integer is the number, or out
of range. A big integer is the number that the double stands for, which is out of range if it is `2 ^ 63`.
The odd numbers between `2 ^ 52` and `2 ^ 53` are left aside: they are lost when the double is converted,
and not when it is read. -/
theorem whole_numeric_is_nearest {cells : Cells} {slot : ℕ}
    (hcell : cells.cell slot = .ok (.value (.numeric ⟨n, 0⟩))) (hn : IntType.int64.Fits n) :
    ∃ (x : Double) (m : ℤ), x.Nearest n m ∧ (|n| ≤ 2 ^ 53 → m = n) ∧
      cells.decode slot .double = .ok (.double x) ∧
      cells.decode slot .int16 = (if IntType.int16.Fits n then .ok (.int16 (.ofInt n))
        else .error (integerRange x.text "double" .int16)) ∧
      cells.decode slot .int32 = (if IntType.int32.Fits n then .ok (.int32 (.ofInt n))
        else .error (integerRange x.text "double" .int32)) ∧
      (¬(2 ^ 52 < |n| ∧ |n| < 2 ^ 53 ∧ Odd n) →
        cells.decode slot .int64 = if IntType.int64.Fits m then .ok (.int64 (.ofInt m))
          else .error (integerRange x.text "double" .int64)) := by
  obtain ⟨hlow, hhigh⟩ := hn
  have hunscaled : |n| ≤ 2 ^ 127 := by
    rw [abs_le]
    simp only [IntType.least, IntType.greatest, IntType.isSigned, IntType.modulus,
      IntType.size] at hlow hhigh
    omega
  obtain ⟨x, w, hread, hnearest⟩ := exists_nearest_readDouble (n := ⟨n, 0⟩) hunscaled (Nat.zero_le _)
  rw [pow_zero, div_one] at hnearest
  obtain ⟨m, rfl, hkept, hfar⟩ := hnearest.exists_int
  have hdecode (kind : ValueKind) :
      cells.decode slot kind = decodeCell (.value (.numeric ⟨n, 0⟩)) kind := by
    rw [Cells.decode, hcell]
    rfl
  have hconverted := Conversion.floatToInt_of_value? hnearest.value
  have hnarrow {target : IntType} (hsize : target.size < 8) :
      floatToInt .double target x = narrowInt target n x.text "double" := by
    rw [hconverted, Conversion.narrowInt_settle hsize, narrowInt_rounded hsize hkept hfar]
  have hdouble := decodeCell_numeric_double hread (Double.isFinite_of_value? hnearest.value)
  obtain ⟨hint16, hint32, hint64⟩ := decodeCell_numeric hread
  refine ⟨x, m, hnearest, hkept, ?_, ?_, ?_, fun hmoves => ?_⟩
  · rw [hdecode, hdouble]
  · rw [hdecode, hint16, hnarrow (by decide), map_narrowInt]
  · rw [hdecode, hint32, hnarrow (by decide), map_narrowInt]
  · rw [hdecode, hint64, hconverted, settle_rounded hkept hfar hmoves, map_narrowInt]

/-- The least number that is kept for sure is read as a big integer, and is out of range for an integer
with the text of the double that is read. -/
theorem negative_power_is_kept :
    let n : ℤ := -9007199254740992
    let cells : Cells := [.value (.numeric ⟨n, 0⟩)]
    cells.cell 1 = .ok (.value (.numeric ⟨n, 0⟩)) ∧ IntType.int64.Fits n ∧
      cells.decode 1 .int64 = .ok (.int64 (.ofInt n)) ∧
      ∃ x : Double, cells.decode 1 .double = .ok (.double x) ∧ x.Nearest n n ∧
        cells.decode 1 .int32 = .error (integerRange x.text "double" .int32) := by
  intro n cells
  have hcell : cells.cell 1 = .ok (.value (.numeric ⟨n, 0⟩)) := rfl
  have hn : IntType.int64.Fits n := by decide
  obtain ⟨x, m, hnearest, hkept, hdouble, -, hint32, hint64⟩ := whole_numeric_is_nearest hcell hn
  obtain rfl : m = n := hkept (by decide)
  refine ⟨hcell, hn, ?_, x, hdouble, hnearest, ?_⟩
  · rw [hint64 (by decide), if_pos hn]
  · rw [hint32, if_neg (by decide)]

/-- Every whole number of 64 bits in a cell with decimal places is read as it is. -/
def KeepsWholeNumerics : Prop :=
  ∀ (cells : Cells) (slot : ℕ) (n : ℤ), cells.cell slot = .ok (.value (.numeric ⟨n, 0⟩)) →
    IntType.int64.Fits n → cells.decode slot .int64 = .ok (.int64 (.ofInt n))

/-- No double stands for the number that follows `2 ^ 53`, and the number before it is read. -/
theorem number_without_double_is_changed :
    let n : ℤ := 9007199254740993
    Cells.decode [.value (.numeric ⟨n, 0⟩)] 1 .int64 = .ok (.int64 (.ofInt (n - 1))) ∧
      ¬KeepsWholeNumerics := by
  intro n
  have hread : Cells.decode [.value (.numeric ⟨n, 0⟩)] 1 .int64 = .ok (.int64 (.ofInt (n - 1))) := by
    decide +kernel
  refine ⟨hread, fun hkeeps => ?_⟩
  have hkept := hkeeps [.value (.numeric ⟨n, 0⟩)] 1 n rfl (by decide)
  rw [hread] at hkept
  exact absurd hkept (by decide)

end PortableSql.SqlServer
