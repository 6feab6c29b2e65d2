import PortableSql.Conversion.Fetch
import PortableSql.Proofs.Text.Utf16

/-!
# Values through a parameter and out of a column

A number or a text that is put into a parameter of its own type arrives unchanged, text in 16-bit
units as the text that they encode. What has arrived can be fetched from a column of that type: the
value comes out that went in, in the kind it had.
-/
namespace PortableSql

namespace IntType

theorem fits_int16 (n : Int16) : int16.Fits n.toInt :=
  ⟨n.le_toInt, Int.le_sub_one_of_lt n.toInt_lt⟩

theorem fits_int32 (n : Int32) : int32.Fits n.toInt :=
  ⟨n.le_toInt, Int.le_sub_one_of_lt n.toInt_lt⟩

theorem fits_int64 (n : Int64) : int64.Fits n.toInt :=
  ⟨n.le_toInt, Int.le_sub_one_of_lt n.toInt_lt⟩

end IntType

/-- The value is no floating-point number, and a date or time of it exists. -/
def Value.Discrete : Value → Prop
  | .float _ | .double _ => False
  | .date d => d.Valid
  | .time t => t.Valid
  | .timestamp t => t.Valid
  | _ => True

namespace Conversion

/-- What becomes of a number or a text in a parameter of its own type. -/
inductive Arrives : Value → Value → Prop
  | int16 (n : Int16) : Arrives (.int16 n) (.int16 n)
  | int32 (n : Int32) : Arrives (.int32 n) (.int32 n)
  | int64 (n : Int64) : Arrives (.int64 n) (.int64 n)
  | utf8 (text : String) : Arrives (.utf8 text) (.utf8 text)
  | utf16 (text : String) : Arrives (.utf16 (Text.Utf16.encode text)) (.utf8 text)

theorem intToInt_of_fits {target : IntType} {n : Int} (h : target.Fits n) (source : IntType) :
    intToInt source target n = .ok n :=
  if_pos h

theorem land_int16 (n : Int16) : land .short (.int16 n) = .ok (.int16 n) := by
  simp [land, landInt, intToInt_of_fits (IntType.fits_int16 n), Except.map]

theorem land_int32 (n : Int32) : land .integer (.int32 n) = .ok (.int32 n) := by
  simp [land, landInt, intToInt_of_fits (IntType.fits_int32 n), Except.map]

theorem land_int64 (n : Int64) : land .bigint (.int64 n) = .ok (.int64 n) := by
  simp [land, landInt, intToInt_of_fits (IntType.fits_int64 n), Except.map]

theorem land_utf8 (text : String) : land .varchar (.utf8 text) = .ok (.utf8 text) := rfl

/-- Text in 16-bit units arrives as the text that they encode. -/
theorem land_utf16_eq_ok_iff {units : List UInt16} {arrived : Value} :
    land .varchar (.utf16 units) = .ok arrived ↔
      ∃ text, units = Text.Utf16.encode text ∧ arrived = .utf8 text := by
  simp only [land, landUnits, takesText, if_true, textOfUnits, ← Text.Utf16.decode?_eq_some_iff]
  cases Text.Utf16.decode? units with
  | none => simp [bind, Except.bind]
  | some text => simp [bind, Except.bind, landText, eq_comm]

/-- It fails to arrive if a surrogate in it has no partner. -/
theorem land_utf16_fails_iff {units : List UInt16} :
    (∃ e, land .varchar (.utf16 units) = .error e) ↔ Text.Utf16.HasLoneSurrogate units := by
  simp only [land, landUnits, takesText, if_true, textOfUnits, ← Text.Utf16.decode?_eq_none_iff]
  cases Text.Utf16.decode? units with
  | none => simp [bind, Except.bind]
  | some text => simp [bind, Except.bind, landText]

/-- **A number or a text arrives in a parameter of its own type, and nothing else does.** -/
theorem arrives_of_land {v arrived : Value} (hv : v.Discrete)
    (h : land v.kind.naturalType v = .ok arrived) : Arrives v arrived := by
  cases v with
  | int16 n =>
    cases (land_int16 n).symm.trans h
    exact .int16 n
  | int32 n =>
    cases (land_int32 n).symm.trans h
    exact .int32 n
  | int64 n =>
    cases (land_int64 n).symm.trans h
    exact .int64 n
  | utf8 text =>
    cases (land_utf8 text).symm.trans h
    exact .utf8 text
  | utf16 units =>
    obtain ⟨text, rfl, rfl⟩ := land_utf16_eq_ok_iff.1 h
    exact .utf16 text
  | float | double => exact hv.elim
  | date | time | timestamp | blob => cases h

/-- The cell gives the value when it is read in the value's own kind. -/
def Gives (cell : CellReader) : Value → Prop
  | .int16 n => cell.int16 = .ok n
  | .int32 n => cell.int32 = .ok n
  | .int64 n => cell.int64 = .ok n
  | .float x => cell.float = .ok x
  | .double x => cell.double = .ok x
  | .utf8 text => cell.text = .ok text
  | _ => False

/-- **What has arrived is fetched as the value that went in.** -/
theorem Arrives.fetch {v arrived : Value} (h : Arrives v arrived) {cell : CellReader}
    (hcell : Gives cell arrived) : fetch cell v.kind.naturalType v.kind = .ok v := by
  cases h with
  | int16 n =>
    have hread : cell.int16 = .ok n := hcell
    simp [Conversion.fetch, Value.kind, ValueKind.naturalType, fetchInt, hread, bind, Except.bind,
      Except.map, intToInt_of_fits (IntType.fits_int16 n)]
  | int32 n =>
    have hread : cell.int32 = .ok n := hcell
    simp [Conversion.fetch, Value.kind, ValueKind.naturalType, fetchInt, hread, bind, Except.bind,
      Except.map, intToInt_of_fits (IntType.fits_int32 n)]
  | int64 n =>
    have hread : cell.int64 = .ok n := hcell
    simp [Conversion.fetch, Value.kind, ValueKind.naturalType, fetchInt, hread, bind, Except.bind,
      Except.map, intToInt_of_fits (IntType.fits_int64 n)]
  | utf8 text =>
    have hread : cell.text = .ok text := hcell
    simp [Conversion.fetch, Value.kind, ValueKind.naturalType, fetchText, hread, Except.map]
  | utf16 text =>
    have hread : cell.text = .ok text := hcell
    simp [Conversion.fetch, Value.kind, ValueKind.naturalType, fetchUnits, CellReader.units, hread,
      Except.map]

end Conversion

end PortableSql
