import Mathlib.Data.List.DropRight
import Mathlib.Data.List.Induction
import PortableSql.Postgres.Cells
import PortableSql.Proofs.Result
import PortableSql.Proofs.Text.Utf16
import PortableSql.SqlServer.Cells

/-!
# Text read in 16-bit units

A cell that is read as text in 16-bit units gives the units of the text that it gives when it is read
as UTF-8, and fails as it fails then. The spaces at the end of fixed-width text are the same ones in
either form, because no other character has a unit at its end that is a space.

## Main definitions

* `AgreeOnText` — two readings give the same text in either form, or fail alike.
-/
namespace PortableSql

open Text.Utf16 (ofChar ofChars)

/-! ## Spaces at the end -/

namespace Conversion

/-- The last unit of a character that is no space is no space. -/
theorem exists_last_unit {c : Char} (hc : c ≠ ' ') :
    ∃ front last, ofChar c = front ++ [last] ∧ last ≠ spaceUnit := by
  rcases Text.Utf16.ofChar_cases c with ⟨u, hunits, -, -, hback⟩ | ⟨u, v, hunits, -, hv, -⟩
  · refine ⟨[], u, hunits, ?_⟩
    rintro rfl
    exact hc hback.symm
  · refine ⟨[u], v, hunits, ?_⟩
    rintro rfl
    cases hv

/-- Dropping the spaces before or after the encoding is the same, character by character from the
end. -/
theorem dropTrailing_ofChars (text : List Char) :
    Text.dropTrailing (· == spaceUnit) (ofChars text) =
      ofChars (Text.dropTrailing (· == ' ') text) := by
  induction text using List.reverseRecOn with
  | nil => rfl
  | append_singleton text c ih =>
    have hsplit : ofChars (text ++ [c]) = ofChars text ++ ofChar c := by
      simp [ofChars]
    by_cases hc : c = ' '
    · subst hc
      have hspace : ofChar ' ' = [spaceUnit] := rfl
      have hunits : Text.dropTrailing (· == spaceUnit) (ofChars text ++ [spaceUnit]) =
          Text.dropTrailing (· == spaceUnit) (ofChars text) :=
        List.rdropWhile_concat_pos _ _ _ rfl
      have hchars : Text.dropTrailing (· == ' ') (text ++ [' ']) =
          Text.dropTrailing (· == ' ') text :=
        List.rdropWhile_concat_pos _ _ _ rfl
      rw [hsplit, hspace, hunits, ih, hchars]
    · -- a pair keeps both its units: nothing in front of the last one is looked at
      obtain ⟨front, last, hlast, hne⟩ := exists_last_unit hc
      have hunits : Text.dropTrailing (· == spaceUnit) ((ofChars text ++ front) ++ [last]) =
          (ofChars text ++ front) ++ [last] :=
        List.rdropWhile_concat_neg _ _ _ (by simpa using hne)
      have hchars : Text.dropTrailing (· == ' ') (text ++ [c]) = text ++ [c] :=
        List.rdropWhile_concat_neg _ _ _ (by simpa using hc)
      rw [hchars, hsplit, hlast, ← List.append_assoc, hunits]

/-- **The units of a text lose their spaces as the text does.** -/
theorem trimPaddingUnits_encode (text : String) :
    trimPaddingUnits (Text.Utf16.encode text) = Text.Utf16.encode (trimPadding text) := by
  rw [trimPaddingUnits, trimPadding, Text.Utf16.encode, Text.Utf16.encode, dropTrailing_ofChars,
    String.toList_ofList]

end Conversion

/-! ## Two readings of a text -/

/-- The one reading gives a text exactly if the other gives its units, and they fail with the same
errors. Neither gives anything but texts. -/
structure AgreeOnText (narrow wide : Result Value) : Prop where
  text : ∀ text, wide = .ok (.utf16 (Text.Utf16.encode text)) ↔ narrow = .ok (.utf8 text)
  error : ∀ e, wide = .error e ↔ narrow = .error e
  narrow_cases : (∃ text, narrow = .ok (.utf8 text)) ∨ ∃ e, narrow = .error e
  wide_cases : (∃ text, wide = .ok (.utf16 (Text.Utf16.encode text))) ∨ ∃ e, wide = .error e

theorem Text.Utf16.encode_inj {s t : String} : encode s = encode t ↔ s = t := by
  constructor
  · intro h
    have hs : decode? (encode t) = some s := decode?_eq_some_iff.2 h.symm
    have ht : decode? (encode t) = some t := decode?_eq_some_iff.2 rfl
    exact Option.some.inj (hs.symm.trans ht)
  · rintro rfl
    rfl

namespace AgreeOnText

/-- Two forms of one text agree. -/
theorem of_text (r : Result String) :
    AgreeOnText (r.map .utf8) (r.map fun text => .utf16 (Text.Utf16.encode text)) := by
  cases r with
  | error e => exact ⟨by simp [Except.map], fun _ => Iff.rfl, .inr ⟨e, rfl⟩, .inr ⟨e, rfl⟩⟩
  | ok text =>
    refine ⟨fun other => ?_, by simp [Except.map], .inl ⟨text, rfl⟩, .inl ⟨text, rfl⟩⟩
    simp [Except.map, Text.Utf16.encode_inj]

/-- What is read next agrees, whatever has been read first. -/
theorem bind {α : Type} {narrow wide : α → Result Value} (r : Result α)
    (h : ∀ a, AgreeOnText (narrow a) (wide a)) : AgreeOnText (r >>= narrow) (r >>= wide) := by
  cases r with
  | error e =>
    exact ⟨fun _ => ⟨nofun, nofun⟩, fun _ => Iff.rfl, .inr ⟨e, rfl⟩, .inr ⟨e, rfl⟩⟩
  | ok a => exact h a

end AgreeOnText

/-! ## Columns -/

namespace Conversion

variable (cell : CellReader) (source : ValueType)

theorem fetchUnits_eq : fetchUnits cell source =
    (fetchText cell source).map Text.Utf16.encode := by
  cases source with
  | char =>
    rw [fetchUnits, fetchText, CellReader.units]
    cases cell.text with
    | error e => rfl
    | ok text => exact congrArg Except.ok (trimPaddingUnits_encode text)
  | _ => rfl

/-- **A column of any type reads as the units of its text.** -/
theorem agreeOnText_fetch : AgreeOnText (fetch cell source .utf8) (fetch cell source .utf16) := by
  have hwide : fetch cell source .utf16 =
      (fetchText cell source).map fun text => .utf16 (Text.Utf16.encode text) := by
    rw [fetch, fetchUnits_eq]
    cases fetchText cell source <;> rfl
  rw [hwide]
  exact .of_text (fetchText cell source)

end Conversion

/-! ## Products -/

theorem Postgres.agreeOnText_decodeBytes (source : ValueType) (raw : Bytes) :
    AgreeOnText (decodeBytes source .utf8 raw) (decodeBytes source .utf16 raw) := by
  have hfetch := Conversion.agreeOnText_fetch (reader raw) source
  cases source with
  | date | time | timestamp | boolean => exact .of_text _
  | _ => exact hfetch

theorem SqlServer.agreeOnText_decodeCell (cell : Cell) :
    AgreeOnText (decodeCell cell .utf8) (decodeCell cell .utf16) := by
  rw [decodeCell, decodeCell]
  cases writtenText? cell with
  | some text => exact .of_text text
  | none => exact Conversion.agreeOnText_fetch (reader cell) cell.valueType

/-- **Text in 16-bit units is the encoding of the text in UTF-8**, for every cell of a row in every
product and for every cell that reads its units by way of its text. -/
theorem wide_text_is_encoded_text :
    (∀ (cells : Postgres.Cells) source slot,
      AgreeOnText (cells.decode source slot .utf8) (cells.decode source slot .utf16)) ∧
    (∀ (cells : SqlServer.Cells) slot,
      AgreeOnText (cells.decode slot .utf8) (cells.decode slot .utf16)) ∧
    (∀ (cell : CellReader) source,
      AgreeOnText (Conversion.fetch cell source .utf8) (Conversion.fetch cell source .utf16)) ∧
    ∀ text, Conversion.trimPaddingUnits (Text.Utf16.encode text) =
      Text.Utf16.encode (Conversion.trimPadding text) := by
  refine ⟨?_, ?_, ?_, ?_⟩
  · exact fun cells source slot => .bind _ fun raw => Postgres.agreeOnText_decodeBytes source raw
  · exact fun cells slot => .bind _ fun cell => SqlServer.agreeOnText_decodeCell cell
  · exact Conversion.agreeOnText_fetch
  · exact Conversion.trimPaddingUnits_encode

end PortableSql
