import PortableSql.Text.LowerCase

/-!
# Lower-casing and the case of ASCII letters

A capital ASCII letter and its small form have the same lower-case form, both have case, and neither
is transparent. So the lower-case form of a text, which looks at the letters around a capital sigma,
does not change when ASCII letters of the text change their case.
-/
namespace PortableSql.Text

/-- A character is its own ASCII lower-case form, or one of the twenty-six capital letters. -/
theorem toLower_eq_or_capital (c : Char) :
    c.toLower = c ∨ ∃ n < 26, c = Char.ofNat (65 + n) := by
  by_cases h : c.val ≥ 'A'.val ∧ c.val ≤ 'Z'.val
  · right
    have hlow : 65 ≤ c.toNat := UInt32.le_iff_toNat_le.1 h.1
    have hhigh : c.toNat ≤ 90 := UInt32.le_iff_toNat_le.1 h.2
    refine ⟨c.toNat - 65, by omega, ?_⟩
    rw [Nat.add_sub_cancel' hlow, Char.ofNat_toNat]
  · left
    exact dif_neg h

/-- A property that the capital letters share with their small forms does not see ASCII case. -/
theorem apply_toLower {α : Type} (f : Char → α)
    (h : ∀ n < 26, f (Char.ofNat (65 + n)).toLower = f (Char.ofNat (65 + n))) (c : Char) :
    f c.toLower = f c := by
  obtain hc | ⟨n, hn, rfl⟩ := toLower_eq_or_capital c
  · rw [hc]
  · exact h n hn

theorem transparent_toLower (c : Char) :
    inRanges transparentRanges c.toLower.toNat = inRanges transparentRanges c.toNat :=
  apply_toLower (fun c => inRanges transparentRanges c.toNat) (by decide +kernel) c

theorem cased_toLower (c : Char) :
    inRanges casedRanges c.toLower.toNat = inRanges casedRanges c.toNat :=
  apply_toLower (fun c => inRanges casedRanges c.toNat) (by decide +kernel) c

theorem lowerChar_toLower (c : Char) : lowerChar c.toLower = lowerChar c :=
  apply_toLower lowerChar (by decide +kernel) c

theorem toLower_eq_sigma_iff (c : Char) : c.toLower = 'Σ' ↔ c = 'Σ' := by
  have h := apply_toLower (fun c => decide (c = 'Σ')) (by decide +kernel) c
  simpa using h

/-- Whether a letter is met first does not depend on ASCII case. -/
theorem meetsLetter_map_toLower (text : List Char) :
    meetsLetter (text.map Char.toLower) = meetsLetter text := by
  induction text with
  | nil => rfl
  | cons c text ih =>
    by_cases hc : inRanges transparentRanges c.toNat = true
    · simpa [meetsLetter, List.dropWhile_cons, transparent_toLower, hc] using ih
    · simp [meetsLetter, transparent_toLower, cased_toLower, hc]

theorem lowerSigma_map_toLower (before after : List Char) :
    lowerSigma (before.map Char.toLower) (after.map Char.toLower) = lowerSigma before after := by
  simp only [lowerSigma, meetsLetter_map_toLower]

/-- **Lower-casing does not see the case of ASCII letters**, neither in the text nor in what stands
before it. -/
theorem lowerAfter_map_toLower (before text : List Char) :
    lowerAfter (before.map Char.toLower) (text.map Char.toLower) = lowerAfter before text := by
  induction text generalizing before with
  | nil => rfl
  | cons c text ih =>
    have hrest := ih (c :: before)
    rw [List.map_cons] at hrest
    simp only [List.map_cons, lowerAfter, hrest, toLower_eq_sigma_iff, lowerSigma_map_toLower,
      lowerChar_toLower]

/-- Texts that differ at most in the case of ASCII letters have the same lower-case form. -/
theorem lower_congr_ascii {a b : String}
    (h : a.toList.map Char.toLower = b.toList.map Char.toLower) : lower a = lower b := by
  unfold lower
  rw [← lowerAfter_map_toLower [] a.toList, ← lowerAfter_map_toLower [] b.toList, h]

/-! ## Texts of ASCII characters -/

/-- Lower-casing a text of ASCII characters looks at each of them alone. -/
theorem lowerAfter_of_ascii (before : List Char) {text : List Char}
    (h : ∀ c ∈ text, c.toNat < 128) : lowerAfter before text = text.map Char.toLower := by
  induction text generalizing before with
  | nil => rfl
  | cons c text ih =>
    have hc : c.toNat < 128 := h c (by simp)
    have hsigma : c ≠ 'Σ' := by
      rintro rfl
      revert hc
      decide
    rw [lowerAfter, if_neg hsigma, lowerChar, if_pos hc, ih (c :: before) fun d hd => h d (by simp [hd])]
    rfl

/-- A digit has no case. -/
theorem toLower_of_isDigit {c : Char} (h : c.isDigit = true) : c.toLower = c := by
  obtain hc | ⟨n, hn, rfl⟩ := toLower_eq_or_capital c
  · exact hc
  · have hcapital : ∀ n < 26, (Char.ofNat (65 + n)).isDigit = false := by decide
    rw [hcapital n hn] at h
    cases h

end PortableSql.Text
