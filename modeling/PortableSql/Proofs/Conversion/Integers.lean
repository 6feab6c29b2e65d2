import PortableSql.Proofs.Conversion.RoundTrip
import PortableSql.Proofs.Result
import PortableSql.Proofs.Text.Numeral

/-!
# Integers in parameters, in columns and in texts

An integer that is put into a parameter either arrives with its value or is refused because the
value is out of range, and so it is when it is taken out of a column as an integer of any type. Texts
hold integers as numerals. A text that is no numeral is refused as such, but so is a numeral of a
number that does not fit 128 bits.

## Main definitions

* `Conversion.IsWide` — the numbers that conversions compute with.
* `Conversion.LandsAs` — what an integer is in a parameter that it fits.
-/
namespace PortableSql.Conversion

open Text.Decimal

variable {source target : IntType} {slot : ValueType} {n : Int}

theorem narrowInt_eq_ok_iff {m : Int} {shown kind : String} :
    narrowInt target n shown kind = .ok m ↔ target.Fits n ∧ m = n := by
  rw [narrowInt]
  split <;> simp_all [eq_comm]

theorem narrowInt_eq_error_iff {e : Error} {shown kind : String} :
    narrowInt target n shown kind = .error e ↔
      ¬target.Fits n ∧ e = integerRange shown kind target := by
  rw [narrowInt]
  split <;> simp_all [eq_comm]

/-! ## Texts -/

/-- The number fits 128 bits. -/
def IsWide (n : Int) : Prop := -2 ^ (127 : Nat) ≤ n ∧ n < 2 ^ (127 : Nat)

instance (n : Int) : Decidable (IsWide n) := inferInstanceAs (Decidable (_ ∧ _))

theorem isWide_of_fits (h : target.Fits n) : IsWide n := by
  obtain ⟨hlow, hhigh⟩ := h
  constructor <;> cases target <;>
    simp [IntType.least, IntType.greatest, IntType.isSigned, IntType.modulus, IntType.size] at * <;>
    omega

theorem wideInt?_eq_some_iff {text : List Char} :
    wideInt? text = some n ↔ Numeral text n ∧ IsWide n := by
  rw [← parseInt?_eq_some_iff, wideInt?]
  cases parseInt? text with
  | none => simp
  | some m =>
    simp only [Option.some.injEq]
    split
    · next hwide => grind [IsWide]
    · next hwide => grind [IsWide]

/-- A numeral is read and then checked against the range of the type. -/
theorem textToInt_of_numeral {text : String} (h : Numeral (Text.trim text.toList) n)
    (hn : IsWide n) :
    textToInt target text =
      narrowInt target n (String.ofList (Text.trim text.toList)) "string" := by
  rw [textToInt, wideInt?_eq_some_iff.2 ⟨h, hn⟩]

theorem textToInt_of_not_wide {text : String}
    (h : ∀ n, Numeral (Text.trim text.toList) n → ¬IsWide n) :
    textToInt target text = .error (notNumeric text target.name) := by
  have hnone : wideInt? (Text.trim text.toList) = none := by
    rw [Option.eq_none_iff_forall_ne_some]
    intro n hsome
    obtain ⟨hnumeral, hwide⟩ := wideInt?_eq_some_iff.1 hsome
    exact h n hnumeral hwide
  rw [textToInt, hnone]

/-- **What a text is read as.** Blanks around it apart, a numeral of at most 128 bits is read as its
number if the type has it, and else is out of range. A numeral of more bits, which no type has room
for, is refused as if it were no numeral, and so is every other text. -/
theorem text_read_up_to_128_bits (target : IntType) (text : String) :
    let trimmed := Text.trim text.toList
    (∀ n, Numeral trimmed n →
      textToInt target text =
        if target.Fits n then .ok n
        else if IsWide n then .error (integerRange (String.ofList trimmed) "string" target)
        else .error (notNumeric text target.name)) ∧
      ((∀ n, ¬Numeral trimmed n) →
        textToInt target text = .error (notNumeric text target.name)) := by
  intro trimmed
  constructor
  · intro n hnumeral
    by_cases hwide : IsWide n
    · rw [textToInt_of_numeral hnumeral hwide, if_pos hwide, narrowInt]
    · -- no type has numbers beyond 128 bits, so the text would have to be out of range
      have hfits : ¬target.Fits n := fun h => hwide (isWide_of_fits h)
      rw [if_neg hfits, if_neg hwide]
      refine textToInt_of_not_wide fun m hm => ?_
      obtain rfl : n = m := hnumeral.unique hm
      exact hwide
  · intro hnone
    exact textToInt_of_not_wide fun n hn => absurd hn (hnone n)

/-- The greatest number of 128 bits, with a sign and between blanks, is out of range. -/
theorem greatest_wide_numeral_out_of_range :
    let text := " +170141183460469231731687303715884105727 "
    Numeral (Text.trim text.toList) (2 ^ 127 - 1) ∧
      textToInt .int64 text =
        .error (integerRange "+170141183460469231731687303715884105727" "string" .int64) := by
  intro text
  have hnumeral : Numeral (Text.trim text.toList) (2 ^ 127 - 1) :=
    parseInt?_eq_some_iff.1 (by decide +kernel)
  have hread := (text_read_up_to_128_bits .int64 text).1 _ hnumeral
  have htrim : String.ofList (Text.trim text.toList) =
      "+170141183460469231731687303715884105727" := by
    decide +kernel
  rw [if_neg (by decide), if_pos (by decide), htrim] at hread
  exact ⟨hnumeral, hread⟩

/-- Integers of any length are told from texts that are no integers. -/
def TellsNumerals : Prop :=
  ∀ (target : IntType) (text : String),
    let trimmed := Text.trim text.toList
    (∀ n, Numeral trimmed n →
      textToInt target text =
        if target.Fits n then .ok n
        else .error (integerRange (String.ofList trimmed) "string" target)) ∧
      ((∀ n, ¬Numeral trimmed n) → textToInt target text = .error (notNumeric text target.name))

/-- The first number of more than 128 bits is taken for a text that is no integer. -/
theorem numeral_of_129_bits_refused :
    let text := "170141183460469231731687303715884105728"
    Numeral text.toList (2 ^ 127) ∧
      textToInt .int64 text = .error (notNumeric text "int64") ∧
      ¬TellsNumerals := by
  intro text
  have hnumeral : Numeral text.toList (2 ^ 127) := parseInt?_eq_some_iff.1 (by decide +kernel)
  have hrefused : textToInt .int64 text = .error (notNumeric text "int64") := by
    refine textToInt_of_not_wide fun n hn => ?_
    rw [hnumeral.trim_eq] at hn
    obtain rfl := hnumeral.unique hn
    decide
  refine ⟨hnumeral, hrefused, fun htells => ?_⟩
  have htold := (htells .int64 text).1 (2 ^ 127) (hnumeral.trim_eq.symm ▸ hnumeral)
  rw [if_neg (by decide), hrefused] at htold
  cases htold

/-! ## Parameters and columns -/

/-- Parameters and columns in which integers keep their value: numbers and texts. -/
def holdsIntegers : ValueType → Bool
  | .short | .integer | .bigint | .char | .varchar => true
  | _ => false

/-- The type of the numbers in a parameter or column; texts hold any. -/
def numberType? : ValueType → Option IntType
  | .short => some .int16
  | .integer => some .int32
  | .bigint => some .int64
  | _ => none

/-- What an integer is in a parameter that it fits. -/
inductive LandsAs (n : Int) : ValueType → Value → Prop
  | short (h : IntType.int16.Fits n) : LandsAs n .short (.int16 (.ofInt n))
  | integer (h : IntType.int32.Fits n) : LandsAs n .integer (.int32 (.ofInt n))
  | bigint (h : IntType.int64.Fits n) : LandsAs n .bigint (.int64 (.ofInt n))
  | char : LandsAs n .char (.utf8 (ofInt n))
  | varchar : LandsAs n .varchar (.utf8 (ofInt n))

theorem map_intToInt_eq_ok_iff {f : Int → Value} {w : Value} :
    (intToInt source target n).map f = .ok w ↔ target.Fits n ∧ w = f n := by
  rw [Result.map_eq_ok_iff, intToInt]
  simp only [narrowInt_eq_ok_iff]
  grind

theorem map_intToInt_eq_error_iff {f : Int → Value} {e : Error} :
    (intToInt source target n).map f = .error e ↔
      ¬target.Fits n ∧ e = integerRange (ofInt n) source.name target := by
  rw [Result.map_eq_error_iff, intToInt, narrowInt_eq_error_iff]

/-- **An integer arrives as itself**, or does not arrive. -/
theorem landInt_eq_ok_iff (hslot : holdsIntegers slot = true) {w : Value} :
    landInt source slot n = .ok w ↔ LandsAs n slot w := by
  cases slot with
  | short | integer | bigint =>
    rw [landInt, map_intToInt_eq_ok_iff]
    constructor
    · rintro ⟨hfits, rfl⟩
      constructor
      exact hfits
    · rintro ⟨⟩
      exact ⟨by assumption, rfl⟩
  | char | varchar =>
    constructor
    · rintro ⟨⟩
      constructor
    · rintro ⟨⟩
      rfl
  | _ => cases hslot

/-- It is refused only by a parameter of numbers that it does not fit. -/
theorem landInt_eq_error_iff (hslot : holdsIntegers slot = true) {e : Error} :
    landInt source slot n = .error e ↔
      ∃ t, numberType? slot = some t ∧ ¬t.Fits n ∧ e = integerRange (ofInt n) source.name t := by
  cases slot with
  | short | integer | bigint =>
    rw [landInt, map_intToInt_eq_error_iff]
    simp [numberType?]
  | char | varchar => simp [landInt, numberType?]
  | _ => cases hslot

/-- What the numbers of a column are called when one of them is out of range. -/
def integerKind (slot : ValueType) : String :=
  ((numberType? slot).map IntType.name).getD "string"

/-- The text of an integer is read as the integer. -/
theorem textToInt_ofInt (hn : IsWide n) :
    textToInt target (ofInt n) = narrowInt target n (ofInt n) "string" := by
  have htext : (ofInt n).toList = signed n := String.toList_ofList
  have hnumeral : Numeral (Text.trim (ofInt n).toList) n := by
    rw [htext, (numeral_signed n).trim_eq]
    exact numeral_signed n
  rw [textToInt_of_numeral hnumeral hn, htext, (numeral_signed n).trim_eq, ofInt]

theorem trimPadding_ofInt (n : Int) : trimPadding (ofInt n) = ofInt n := by
  have hsolid : ∀ c ∈ signed n, (c == ' ') = false := by
    intro c hc
    rw [beq_eq_false_iff_ne]
    rintro rfl
    cases (numeral_signed n).isBlank_of_mem hc
  rw [trimPadding, ofInt, String.toList_ofList, Text.dropTrailing_eq_self hsolid]

/-- **What has arrived is read as the integer that went in**, in a type that has it. -/
theorem LandsAs.fetch {w : Value} (h : LandsAs n slot w) (hn : IsWide n) {cell : CellReader}
    (hcell : Gives cell w) (target : IntType) :
    fetchInt cell slot target = narrowInt target n (ofInt n) (integerKind slot) := by
  cases h with
  | short h =>
    have hread : cell.int16 = .ok (.ofInt n) := hcell
    have hvalue : (Int16.ofInt n).toInt = n :=
      Int16.toInt_ofInt_of_le h.1 (Int.lt_of_le_sub_one h.2)
    simp only [fetchInt, hread, bind, Except.bind, hvalue, intToInt, integerKind, numberType?,
      Option.map_some, Option.getD_some]
  | integer h =>
    have hread : cell.int32 = .ok (.ofInt n) := hcell
    have hvalue : (Int32.ofInt n).toInt = n :=
      Int32.toInt_ofInt_of_le h.1 (Int.lt_of_le_sub_one h.2)
    simp only [fetchInt, hread, bind, Except.bind, hvalue, intToInt, integerKind, numberType?,
      Option.map_some, Option.getD_some]
  | bigint h =>
    have hread : cell.int64 = .ok (.ofInt n) := hcell
    have hvalue : (Int64.ofInt n).toInt = n :=
      Int64.toInt_ofInt_of_le h.1 (Int.lt_of_le_sub_one h.2)
    simp only [fetchInt, hread, bind, Except.bind, hvalue, intToInt, integerKind, numberType?,
      Option.map_some, Option.getD_some]
  | char =>
    have hread : cell.text = .ok (ofInt n) := hcell
    simp only [fetchInt, hread, bind, Except.bind, trimPadding_ofInt, textToInt_ofInt hn,
      integerKind, numberType?, Option.map_none, Option.getD_none]
  | varchar =>
    have hread : cell.text = .ok (ofInt n) := hcell
    simp only [fetchInt, hread, bind, Except.bind, textToInt_ofInt hn, integerKind, numberType?,
      Option.map_none, Option.getD_none]

/-- **No integer is changed silently.** A parameter of texts takes every integer. A parameter of
numbers refuses those that do not fit it, as out of range, and takes every other. Read back from a
column of the parameter's type, in any integer type, what has arrived is the integer that went in, or
is refused as out of range if that type does not have it. -/
theorem integer_kept_or_out_of_range (hn : source.Fits n) (hslot : holdsIntegers slot = true) :
    (∀ e, landInt source slot n = .error e ↔
      ∃ t, numberType? slot = some t ∧ ¬t.Fits n ∧ e = integerRange (ofInt n) source.name t) ∧
    ∀ w, landInt source slot n = .ok w → ∀ cell, Gives cell w → ∀ target,
      fetchInt cell slot target =
        if target.Fits n then .ok n
        else .error (integerRange (ofInt n) (integerKind slot) target) := by
  constructor
  · intro e
    exact landInt_eq_error_iff hslot
  · intro w hland cell hcell target
    rw [((landInt_eq_ok_iff hslot).1 hland).fetch (isWide_of_fits hn) hcell, narrowInt]

/-- The greatest number of 64 bits without a sign is refused by a parameter of numbers with a sign. As
a text it is kept, and read again as such a number only. -/
theorem greatest_unsigned_kept_as_text :
    let n : Int := 18446744073709551615
    let cell := CellReader.ofValue (.ok (.utf8 "18446744073709551615"))
    landInt .uint64 .bigint n = .error (integerRange (ofInt n) "uint64" .int64) ∧
      landInt .uint64 .char n = .ok (.utf8 "18446744073709551615") ∧
      fetchInt cell .char .uint64 = .ok n ∧
      fetchInt cell .char .int64 = .error (integerRange (ofInt n) "string" .int64) := by
  intro n cell
  have hn : IntType.uint64.Fits n := by decide
  have htext : ofInt n = "18446744073709551615" := by decide +kernel
  have hland : landInt .uint64 .char n = .ok (.utf8 "18446744073709551615") :=
    (landInt_eq_ok_iff rfl).2 (htext ▸ .char)
  have hread := (integer_kept_or_out_of_range hn rfl).2 _ hland cell rfl
  refine ⟨?_, hland, ?_, ?_⟩
  · exact ((integer_kept_or_out_of_range hn rfl).1 _).2 ⟨.int64, rfl, by decide, rfl⟩
  · rw [hread, if_pos hn]
  · rw [hread, if_neg (by decide)]
    rfl

end PortableSql.Conversion
