import PortableSql.Conversion.Fetch
import PortableSql.Proofs.Result

/-!
# Kinds of converted values

What arrives in a parameter has the kind that belongs to the type of the parameter. What is fetched
from a column has the kind that was asked for, whatever the type of the column and whatever the cell
gives.

## Main definitions

* `Conversion.arrivalKind?` — the kind of what arrives in a parameter.
* `WideReader` — a cell that reads text in 16-bit units in a way of its own.
-/
namespace PortableSql

open Result (Ensures)

/-! ## Into a parameter -/

/-- Values of the kind are stored as they are; the others are converted or have forms of their own. -/
def ValueKind.isNative : ValueKind → Bool
  | int16 | int32 | int64 | float | double | utf8 => true
  | _ => false

namespace Conversion

/-- The kind of what arrives in a parameter, for the types that take numbers or texts. -/
def arrivalKind? : ValueType → Option ValueKind
  | .short => some .int16
  | .integer => some .int32
  | .bigint => some .int64
  | .float => some .float
  | .double => some .double
  | .char | .varchar => some .utf8
  | _ => none

variable {target : ValueType}

theorem kind_of_landInt (source : IntType) (n : Int) :
    Ensures (landInt source target n) fun w => arrivalKind? target = some w.kind := by
  cases target with
  | short | integer | bigint => exact .map fun _ => rfl
  | float | double | char | varchar => exact .ok rfl
  | _ => exact .error

theorem kind_of_landFloat (source : FloatType) (x : source.Carrier) :
    Ensures (landFloat source target x) fun w => arrivalKind? target = some w.kind := by
  cases target with
  | short | integer | bigint | float | double => exact .map fun _ => rfl
  | char | varchar => exact .ok rfl
  | _ => exact .error

theorem kind_of_landText (text : String) :
    Ensures (landText target text) fun w => arrivalKind? target = some w.kind := by
  cases target with
  | short | integer | bigint | float | double => exact .map fun _ => rfl
  | char | varchar => exact .ok rfl
  | _ => exact .error

/-- **What arrives in a parameter has the kind of the parameter**, whatever it was before. -/
theorem kind_of_land (value : Value) :
    Ensures (land target value) fun w => arrivalKind? target = some w.kind := by
  cases value with
  | int16 | int32 | int64 => exact kind_of_landInt ..
  | float | double => exact kind_of_landFloat ..
  | utf8 text => exact kind_of_landText text
  | utf16 units =>
    rw [land, landUnits]
    split
    · exact .bind fun text => kind_of_landText text
    · exact .error
  | date | time | timestamp | blob => exact .error

/-- What arrives has a kind that needs no more conversion. -/
theorem isNative_of_land {value arrived : Value} (h : land target value = .ok arrived) :
    arrived.kind.isNative = true := by
  have hkind := (kind_of_land value).holds arrived h
  generalize arrived.kind = kind at hkind
  cases target <;> cases hkind <;> rfl

/-! ## Out of a column -/

/-- **What is fetched has the kind that was asked for.** -/
theorem kind_of_fetch (cell : CellReader) (source : ValueType) (kind : ValueKind) :
    Ensures (fetch cell source kind) fun v => v.kind = kind := by
  cases kind with
  | date | time | timestamp | blob => exact .error
  | _ => exact .map fun _ => rfl

end Conversion

/-- The readings of a cell that has one of its own for text in 16-bit units. -/
structure WideReader extends CellReader where
  wide : Result (List UInt16)

namespace WideReader

/-- A cell as text in 16-bit units. -/
def fetchUnits (cell : WideReader) (source : ValueType) : Result (List UInt16) :=
  match source with
  | .varchar => cell.wide
  | .char => cell.wide.map Conversion.trimPaddingUnits
  | _ => (Conversion.fetchText cell.toCellReader source).map Text.Utf16.encode

/-- A cell as a value of the wanted kind. -/
def fetch (cell : WideReader) (source : ValueType) (kind : ValueKind) : Result Value :=
  match kind with
  | .utf16 => (cell.fetchUnits source).map .utf16
  | kind => Conversion.fetch cell.toCellReader source kind

variable (cell : WideReader) (source : ValueType) {kind : ValueKind}

/-- The reading of its own matters for text in 16-bit units only. -/
theorem fetch_of_ne_utf16 (h : kind ≠ .utf16) :
    cell.fetch source kind = Conversion.fetch cell.toCellReader source kind := by
  cases kind with
  | utf16 => exact absurd rfl h
  | _ => rfl

theorem kind_of_fetch (kind : ValueKind) :
    Ensures (cell.fetch source kind) fun v => v.kind = kind := by
  by_cases hkind : kind = .utf16
  · subst hkind
    exact .map fun _ => rfl
  · rw [cell.fetch_of_ne_utf16 source hkind]
    exact Conversion.kind_of_fetch cell.toCellReader source kind

end WideReader

end PortableSql
