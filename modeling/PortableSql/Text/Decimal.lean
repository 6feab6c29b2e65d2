/-!
# Whole numbers as decimal text

`digits` writes a number with the fewest digits and `value` reads any run of digits, so
`value (digits n) = n`. Signed numbers carry a leading `-` when negative; `padded` adds zeros in
front up to a least width, the sign counted.
-/
namespace PortableSql.Text.Decimal

/-- The character of a digit below ten. -/
def digitChar (d : Nat) : Char :=
  Char.ofNat ('0'.toNat + d)

/-- The value of a decimal digit. -/
def digitValue (c : Char) : Nat :=
  c.toNat - '0'.toNat

/-- Decimal digits of a number, without leading zeros. -/
def digits (n : Nat) : List Char :=
  if n < 10 then [digitChar n] else digits (n / 10) ++ [digitChar (n % 10)]

/-- The number that a run of digits denotes; zero for no digits. -/
def value (text : List Char) : Nat :=
  text.foldl (fun n c => n * 10 + digitValue c) 0

/-- Decimal text of a natural number. -/
def ofNat (n : Nat) : String :=
  String.ofList (digits n)

/-- Digits of an integer after its sign. -/
def signed : Int → List Char
  | .ofNat n => digits n
  | .negSucc n => '-' :: digits (n + 1)

/-- Decimal text of an integer. -/
def ofInt (n : Int) : String :=
  String.ofList (signed n)

/-- At least `width` digits, with zeros in front. -/
def padded (width n : Nat) : List Char :=
  let text := digits n
  List.replicate (width - text.length) '0' ++ text

/-- At least `width` characters, the sign counted, with zeros between sign and digits. -/
def paddedInt (width : Nat) : Int → List Char
  | .ofNat n => padded width n
  | .negSucc n => '-' :: padded (width - 1) (n + 1)

/-- Reads an optional sign and one or more digits, which must be the whole text. -/
def parseInt? (text : List Char) : Option Int :=
  let parseDigits? (run : List Char) : Option Int :=
    if run.isEmpty || !run.all Char.isDigit then none else some (value run)
  match text with
  | '-' :: rest => (parseDigits? rest).map (- ·)
  | '+' :: rest => parseDigits? rest
  | rest => parseDigits? rest

theorem digits_ne_nil (n : Nat) : digits n ≠ [] := by
  rw [digits]; split <;> simp

theorem value_append_singleton (text : List Char) (c : Char) :
    value (text ++ [c]) = value text * 10 + digitValue c := by
  simp [value]

theorem digitValue_digitChar {d : Nat} (h : d < 10) : digitValue (digitChar d) = d := by
  have : ∀ d : Fin 10, digitValue (digitChar d.val) = d.val := by decide
  exact this ⟨d, h⟩

/-- **Reading digits undoes writing them.** -/
@[simp] theorem value_digits (n : Nat) : value (digits n) = n := by
  induction n using digits.induct with
  | case1 n h => rw [digits, if_pos h]; simp [value, digitValue_digitChar h]
  | case2 n h ih =>
    rw [digits, if_neg h, value_append_singleton, ih,
      digitValue_digitChar (Nat.mod_lt _ (by omega))]
    omega

/-- Different numbers have different digits. -/
theorem digits_injective {m n : Nat} (h : digits m = digits n) : m = n := by
  rw [← value_digits m, h, value_digits]

theorem isDigit_digitChar {d : Nat} (h : d < 10) : (digitChar d).isDigit = true := by
  have : ∀ d : Fin 10, (digitChar d.val).isDigit = true := by decide
  exact this ⟨d, h⟩

theorem isDigit_of_mem_digits {n : Nat} {c : Char} (h : c ∈ digits n) : c.isDigit = true := by
  induction n using digits.induct with
  | case1 n hn =>
    rw [digits, if_pos hn, List.mem_singleton] at h
    rw [h]
    exact isDigit_digitChar hn
  | case2 n hn ih =>
    rw [digits, if_neg hn, List.mem_append, List.mem_singleton] at h
    rcases h with h | rfl
    · exact ih h
    · exact isDigit_digitChar (Nat.mod_lt _ (by omega))

end PortableSql.Text.Decimal
