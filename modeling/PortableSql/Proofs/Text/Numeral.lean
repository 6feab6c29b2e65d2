import Mathlib.Data.List.DropRight
import Mathlib.Data.List.Induction
import Mathlib.Data.List.TakeWhile
import Mathlib.Data.Nat.Digits.Defs
import PortableSql.Number.Power
import PortableSql.Text.Blank
import PortableSql.Text.Decimal

/-!
# Texts that write an integer

A numeral is one or more decimal digits, behind a sign or not, and means what its digits are worth
at their places. `parseInt?` reads numerals and nothing else, and the text of an integer is a numeral
of it. No character of a numeral is blank, so nothing of it is trimmed away.
-/
namespace PortableSql

/-- A run begins with the first character. -/
theorem takeWhile_eq_nil_iff_head? {p : Char → Bool} {text : List Char} :
    text.takeWhile p = [] ↔ ∀ c ∈ text.head?, p c = false := by
  cases text with
  | nil => simp
  | cons c rest => cases hc : p c <;> simp [hc]

/-- A run ends with the first character of another class. -/
theorem takeWhile_append_eq {p : Char → Bool} {part rest : List Char} (hpart : ∀ c ∈ part, p c = true)
    (hrest : ∀ c ∈ rest.head?, p c = false) :
    (part ++ rest).takeWhile p = part ∧ (part ++ rest).dropWhile p = rest := by
  constructor
  · rw [List.takeWhile_append_of_pos hpart, takeWhile_eq_nil_iff_head?.2 hrest, List.append_nil]
  · rw [List.dropWhile_append_of_pos hpart]
    cases rest with
    | nil => rfl
    | cons c rest => simp [hrest c rfl]

namespace Text

theorem dropTrailing_eq_self {α : Type} {drop : α → Bool} {text : List α}
    (h : ∀ x ∈ text, drop x = false) : dropTrailing drop text = text := by
  refine List.rdropWhile_eq_self_iff.2 fun hne => ?_
  simp [h _ (List.getLast_mem hne)]

theorem trim_eq_self {text : List Char} (h : ∀ c ∈ text, isBlank c = false) : trim text = text := by
  have hstart : trimStart text = text := by
    rw [trimStart, List.dropWhile_eq_self_iff]
    intro hlen
    simp [h _ (List.getElem_mem hlen)]
  rw [trim, hstart, dropTrailing_eq_self h]

theorem isBlank_of_isDigit {c : Char} (h : c.isDigit = true) : isBlank c = false := by
  simp only [Char.isDigit, Bool.and_eq_true, decide_eq_true_eq] at h
  have hlow : 48 ≤ c.toNat := UInt32.le_iff_toNat_le.1 h.1
  have hhigh : c.toNat ≤ 57 := UInt32.le_iff_toNat_le.1 h.2
  simp [isBlank]
  omega

namespace Decimal

/-- One or more decimal digits. -/
structure IsDigits (text : List Char) : Prop where
  ne_nil : text ≠ []
  isDigit : ∀ c ∈ text, c.isDigit = true

/-- What digits are worth at their places. -/
def placeValue (digits : List Char) : Nat :=
  Nat.ofDigits 10 (digits.reverse.map digitValue)

/-- The text writes the integer. -/
inductive Numeral : List Char → Int → Prop
  | unsigned {digits : List Char} (h : IsDigits digits) : Numeral digits (placeValue digits)
  | plus {digits : List Char} (h : IsDigits digits) : Numeral ('+' :: digits) (placeValue digits)
  | minus {digits : List Char} (h : IsDigits digits) : Numeral ('-' :: digits) (-placeValue digits)

variable {text : List Char} {n : Int}

theorem value_eq_placeValue (digits : List Char) : value digits = placeValue digits := by
  induction digits using List.reverseRecOn with
  | nil => rfl
  | append_singleton digits c ih =>
    rw [value_append_singleton, ih, placeValue, placeValue, List.reverse_concat, List.map_cons,
      Nat.ofDigits_cons]
    omega

theorem isDigits_digits (n : Nat) : IsDigits (digits n) :=
  ⟨digits_ne_nil n, fun _ => isDigit_of_mem_digits⟩

theorem isDigits_iff : IsDigits text ↔ (text.isEmpty || !text.all Char.isDigit) = false := by
  constructor
  · intro h
    simpa [h.ne_nil] using h.isDigit
  · intro h
    simp only [Bool.or_eq_false_iff, List.isEmpty_eq_false_iff, Bool.not_eq_false',
      List.all_eq_true] at h
    exact ⟨h.1, h.2⟩

/-- **An integer is read from numerals of it**, and from no other text. -/
theorem parseInt?_eq_some_iff : parseInt? text = some n ↔ Numeral text n := by
  have hdigits : ∀ (run : List Char) (m : Int),
      (if run.isEmpty || !run.all Char.isDigit then none else some (value run : Int)) = some m ↔
        IsDigits run ∧ m = placeValue run := by
    intro run m
    rw [isDigits_iff, value_eq_placeValue]
    cases run.isEmpty || !run.all Char.isDigit <;> simp [eq_comm]
  constructor
  · intro h
    simp only [parseInt?] at h
    split at h
    · obtain ⟨m, hm, rfl⟩ := Option.map_eq_some_iff.1 h
      obtain ⟨hrest, rfl⟩ := (hdigits _ _).1 hm
      exact .minus hrest
    · obtain ⟨hrest, rfl⟩ := (hdigits _ _).1 h
      exact .plus hrest
    · obtain ⟨hrest, rfl⟩ := (hdigits _ _).1 h
      exact .unsigned hrest
  · intro h
    simp only [parseInt?]
    cases h with
    | plus h => exact (hdigits _ _).2 ⟨h, rfl⟩
    | minus h => exact Option.map_eq_some_iff.2 ⟨_, (hdigits _ _).2 ⟨h, rfl⟩, rfl⟩
    | unsigned h =>
      -- a sign in front would be a digit
      split
      · cases h.isDigit '-' List.mem_cons_self
      · cases h.isDigit '+' List.mem_cons_self
      · exact (hdigits _ _).2 ⟨h, rfl⟩

/-- A numeral is one of a single integer. -/
theorem Numeral.unique {m : Int} (h : Numeral text n) (hm : Numeral text m) : n = m := by
  rw [← parseInt?_eq_some_iff] at h hm
  exact Option.some_inj.1 (h.symm.trans hm)

/-- The text of an integer is a numeral of it. -/
theorem numeral_signed (n : Int) : Numeral (signed n) n := by
  cases n with
  | ofNat m =>
    have h := Numeral.unsigned (isDigits_digits m)
    rwa [← value_eq_placeValue, value_digits] at h
  | negSucc m =>
    have h := Numeral.minus (isDigits_digits (m + 1))
    rwa [← value_eq_placeValue, value_digits] at h

/-- A natural number is read from its digits. -/
theorem parseInt?_digits (n : ℕ) : parseInt? (digits n) = some (n : ℤ) :=
  parseInt?_eq_some_iff.2 (numeral_signed n)

theorem notMem_digits {c : Char} (h : c.isDigit = false) (n : ℕ) : c ∉ digits n := by
  intro hmem
  rw [isDigit_of_mem_digits hmem] at h
  cases h

theorem Numeral.isBlank_of_mem (h : Numeral text n) {c : Char} (hc : c ∈ text) :
    isBlank c = false := by
  cases h with
  | unsigned h => exact isBlank_of_isDigit (h.isDigit c hc)
  | plus h | minus h =>
    rcases List.mem_cons.1 hc with rfl | hc
    · decide
    · exact isBlank_of_isDigit (h.isDigit c hc)

theorem Numeral.trim_eq (h : Numeral text n) : trim text = text :=
  trim_eq_self fun _ => h.isBlank_of_mem

/-! ## Places -/

/-- A number of at most so many digits has no more of them. -/
theorem length_digits_le {n k : ℕ} (hk : 0 < k) (h : n < 10 ^ k) : (digits n).length ≤ k := by
  induction n using digits.induct generalizing k with
  | case1 n hn =>
    rw [digits, if_pos hn]
    exact hk
  | case2 n hn ih =>
    obtain ⟨i, rfl⟩ : ∃ i, k = i + 1 := ⟨k - 1, by omega⟩
    have hi : 0 < i := by
      rw [Nat.pos_iff_ne_zero]
      rintro rfl
      omega
    have hlt : n / 10 < 10 ^ i := by
      rw [pow_succ] at h
      omega
    rw [digits, if_neg hn, List.length_append]
    exact Nat.add_le_add_right (ih hi hlt) 1

theorem digitValue_lt {c : Char} (h : c.isDigit = true) : digitValue c < 10 := by
  simp only [Char.isDigit, Bool.and_eq_true, decide_eq_true_eq] at h
  have hhigh : c.toNat ≤ 57 := UInt32.le_iff_toNat_le.1 h.2
  change c.toNat - 48 < 10
  omega

/-- So many digits are worth less than the next place. -/
theorem value_lt_pow_length (h : IsDigits text) : value text < 10 ^ text.length := by
  rw [value_eq_placeValue, placeValue, ← List.length_reverse, ← List.length_map (f := digitValue)]
  refine Nat.ofDigits_lt_base_pow_length (by decide) fun n hn => ?_
  obtain ⟨c, hc, rfl⟩ := List.mem_map.1 hn
  exact digitValue_lt (h.isDigit c (List.mem_reverse.1 hc))

/-- Digits that follow others move them to higher places. -/
theorem value_append (text text' : List Char) :
    value (text ++ text') = value text * 10 ^ text'.length + value text' := by
  rw [value_eq_placeValue, value_eq_placeValue, value_eq_placeValue, placeValue, placeValue,
    placeValue, List.reverse_append, List.map_append, Nat.ofDigits_append, List.length_map,
    List.length_reverse, Nat.mul_comm, Nat.add_comm]

theorem isDigits_padded (width n : ℕ) : IsDigits (padded width n) := by
  refine ⟨List.append_ne_nil_of_right_ne_nil _ (digits_ne_nil n), fun c hc => ?_⟩
  rcases List.mem_append.1 hc with hc | hc
  · rw [List.eq_of_mem_replicate hc]
    rfl
  · exact isDigit_of_mem_digits hc

theorem length_padded (width n : ℕ) :
    (padded width n).length = max width (digits n).length := by
  rw [padded, List.length_append, List.length_replicate]
  omega

theorem length_padded_of_lt {width n : ℕ} (hwidth : 0 < width) (h : n < 10 ^ width) :
    (padded width n).length = width := by
  rw [length_padded, max_eq_left (length_digits_le hwidth h)]

/-- Zeros in front add nothing. -/
theorem value_padded (width n : ℕ) : value (padded width n) = n := by
  have hzeros (k : ℕ) : value (List.replicate k '0') = 0 := by
    induction k with
    | zero => rfl
    | succ k ih => rw [List.replicate_succ', value_append_singleton, ih]; rfl
  rw [padded, value_append, hzeros, Nat.zero_mul, Nat.zero_add, value_digits]

end Decimal

end Text

end PortableSql
