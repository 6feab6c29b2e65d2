import PortableSql.Number.FloatText
import PortableSql.Proofs.Number.Double
import PortableSql.Proofs.Text.LowerCase
import PortableSql.Proofs.Text.Numeral

/-!
# Reading decimal fractions

A text of digits with a point among them, behind a minus sign or not, is read as the double nearest to
the number it writes.
-/
namespace PortableSql.FloatText

open BinaryFormat (double)
open Text.Decimal (IsDigits value digits length_digits_le)

variable {negative : Bool} {whole fraction : List Char}

/-- The sign in front of a negative number. -/
def signText (negative : Bool) : List Char :=
  if negative then ['-'] else []

/-! ## The parts of the text -/

theorem splitSign_signText (hwhole : IsDigits whole) (rest : List Char) :
    splitSign (signText negative ++ (whole ++ rest)) = (negative, whole ++ rest) := by
  cases negative with
  | true => rfl
  | false =>
    obtain ⟨c, whole, rfl⟩ := List.exists_cons_of_ne_nil hwhole.ne_nil
    have hdigit := hwhole.isDigit c List.mem_cons_self
    rw [signText, if_neg (by decide), List.nil_append, List.cons_append, splitSign]
    · rintro rest ⟨⟩
      exact absurd hdigit (by decide)
    · rintro rest ⟨⟩
      exact absurd hdigit (by decide)

/-- No word begins with a digit. -/
theorem ne_of_isDigits (hwhole : IsDigits whole) (rest : List Char) (word : String) {c : Char}
    {tail : List Char} (hword : word = String.ofList (c :: tail)) (hc : c.isDigit = false) :
    String.ofList ((whole ++ rest).map Char.toLower) ≠ word := by
  obtain ⟨d, whole, rfl⟩ := List.exists_cons_of_ne_nil hwhole.ne_nil
  have hdigit := hwhole.isDigit d List.mem_cons_self
  rw [hword]
  intro heq
  have hhead := List.head_eq_of_cons_eq (String.ofList_injective heq)
  rw [Text.toLower_of_isDigit hdigit] at hhead
  rw [← hhead, hdigit] at hc
  cases hc

/-- The digits are read with the point left out, which counts as a negative power of ten. -/
theorem scientific?_fixed (hwhole : IsDigits whole) (hfraction : ∀ c ∈ fraction, c.isDigit = true) :
    scientific? (whole ++ '.' :: fraction) =
      some ⟨value (whole ++ fraction), -(fraction.length : ℤ)⟩ := by
  have htake : (whole ++ '.' :: fraction).takeWhile Char.isDigit = whole := by
    rw [List.takeWhile_append_of_pos hwhole.isDigit, List.takeWhile_cons_of_neg (by decide),
      List.append_nil]
  have hdrop : (whole ++ '.' :: fraction).dropWhile Char.isDigit = '.' :: fraction := by
    rw [List.dropWhile_append_of_pos hwhole.isDigit, List.dropWhile_cons_of_neg (by decide)]
  have htake' : fraction.takeWhile Char.isDigit = fraction := List.takeWhile_eq_self_iff.2 hfraction
  have hdrop' : fraction.dropWhile Char.isDigit = [] := List.dropWhile_eq_nil_iff.2 hfraction
  have hne : (whole ++ fraction).isEmpty = false := by
    rw [List.isEmpty_eq_false_iff]
    exact List.append_ne_nil_of_left_ne_nil hwhole.ne_nil _
  rw [scientific?]
  simp only [htake, hdrop, htake', hdrop', hne, exponent?, Option.map_some]
  simp

/-- Within the range of the format a number with a negative power is the ratio of its digits and the
power of ten. -/
theorem Scientific.round_of_lt {m k : ℕ} (hm : m < 10 ^ 300) (hk : 0 < k ∧ k ≤ 300) :
    (Scientific.mk m (-(k : ℤ))).round double negative = double.round negative m (10 ^ k) := by
  rw [Scientific.round]
  simp only
  split
  · next hzero =>
    rw [hzero, BinaryFormat.round, BinaryFormat.roundMagnitude, if_pos rfl]
  · have hle := length_digits_le (by decide) hm
    rw [if_neg (by omega), if_neg (by omega), if_neg (by omega), neg_neg, Int.toNat_natCast]

/-- **A decimal fraction is read as the double nearest to it.** -/
theorem exists_nearest_fixed (negative : Bool) (hwhole : IsDigits whole) (hfraction : IsDigits fraction)
    (hvalue : value (whole ++ fraction) < 10 ^ 300) (hlen : fraction.length ≤ 300) :
    ∃ x w, parse? (signText negative ++ (whole ++ '.' :: fraction)) = some x ∧
      x.Nearest (if negative then -((value (whole ++ fraction) : ℚ) / (10 ^ fraction.length : ℕ))
        else value (whole ++ fraction) / (10 ^ fraction.length : ℕ)) w := by
  have hk : 0 < fraction.length := List.length_pos_of_ne_nil hfraction.ne_nil
  have hd : (0 : ℕ) < 10 ^ fraction.length := Nat.pow_pos (by decide)
  have hbound : (value (whole ++ fraction) : ℚ) / (10 ^ fraction.length : ℕ) < 2 ^ 1023 := by
    rw [div_lt_iff₀ (Nat.cast_pos.2 hd)]
    have hlt : value (whole ++ fraction) < 2 ^ 1023 * 10 ^ fraction.length :=
      calc value (whole ++ fraction) < 10 ^ 300 := hvalue
        _ = (10 ^ 3) ^ 100 := by rw [← pow_mul]
        _ ≤ (2 ^ 10) ^ 100 := Nat.pow_le_pow_left (by decide) 100
        _ ≤ 2 ^ 1023 := by
          rw [← pow_mul]
          gcongr <;> decide
        _ ≤ 2 ^ 1023 * 10 ^ fraction.length := Nat.le_mul_of_pos_right _ hd
    exact_mod_cast hlt
  obtain ⟨w, hw⟩ := Double.exists_nearest negative hd hbound
  refine ⟨_, w, ?_, hw⟩
  have hinf := ne_of_isDigits hwhole ('.' :: fraction) "inf" rfl rfl
  have hinfinity := ne_of_isDigits hwhole ('.' :: fraction) "infinity" rfl rfl
  have hnan := ne_of_isDigits hwhole ('.' :: fraction) "nan" rfl rfl
  rw [parse?, splitSign_signText hwhole]
  simp only [hinf, hinfinity, hnan, or_self, if_false, scientific?_fixed hwhole hfraction.isDigit,
    Option.map_some]
  rw [Scientific.round_of_lt hvalue ⟨hk, hlen⟩]

end PortableSql.FloatText
