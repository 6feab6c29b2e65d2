import PortableSql.Proofs.Conversion.Kinds
import PortableSql.Proofs.Postgres.Rows
import PortableSql.Proofs.SqlServer.Rows
import PortableSql.Proofs.Sqlite.Parameters

/-!
# Values of the wanted kind

A cell that has a reading of the wanted kind is read as a value of that kind, in every product and
whatever the cell holds. The check of the kind that the readings of a column make is therefore always
passed, and they come to the same without it.

## Main definitions

* `StatementInterface.PassesKindChecks` — no reading of a column fails its check of the kind.
-/
namespace PortableSql

open Result (Ensures)

/-! ## Readings of a column -/

namespace StatementInterface

variable {σ S : Type}

/-- A reading of a column that must not be NULL. -/
def required (column : Identifier) : Result (Option Value) × S → Result Value × S
  | (.ok (some value), s) => (.ok value, s)
  | (.ok none, s) => (.error (.valueIsNull column.text), s)
  | (.error e, s) => (.error e, s)

/-- A reading of a column, with a default in place of NULL. -/
def orDefault (default : Value) : Result (Option Value) × S → Result Value × S
  | (.ok value?, s) => (.ok (value?.getD default), s)
  | (.error e, s) => (.error e, s)

/-- The check of the kind accepts every value that is read, and the readings come to what they would
come to without it. -/
structure PassesKindChecks (api : StatementInterface σ S) : Prop where
  ofKind : ∀ column kind s value, (api.getValue column kind s).1 = .ok (some value) →
    value.ofKind kind = .ok value
  getOpt : ∀ column kind s, api.getOpt column kind s = api.getValue column kind s
  get : ∀ column kind s, api.get column kind s = required column (api.getValue column kind s)
  getOr : ∀ column default s,
    api.getOr column default s = orDefault default (api.getValue column default.kind s)

variable {api : StatementInterface σ S}

theorem getOpt_eq_getValue {column : Identifier} {kind : ValueKind} {s : S}
    (h : ∀ value, (api.getValue column kind s).1 = .ok (some value) →
      value.ofKind kind = .ok value) :
    api.getOpt column kind s = api.getValue column kind s := by
  rw [getOpt]
  revert h
  rcases api.getValue column kind s with ⟨_ | _ | value, t⟩ <;> intro h
  · rfl
  · rfl
  · dsimp only
    rw [h value rfl]
    rfl

/-- What reads values of the wanted kind only passes the checks. -/
theorem passesKindChecks_of_kind
    (h : ∀ column kind s,
      Ensures (api.getValue column kind s).1 fun value? => ∀ value ∈ value?, value.kind = kind) :
    api.PassesKindChecks := by
  have hkind (column kind s value) (hvalue : (api.getValue column kind s).1 = .ok (some value)) :
      value.ofKind kind = .ok value :=
    if_pos ((h column kind s).holds _ hvalue value rfl)
  have hopt (column kind s) : api.getOpt column kind s = api.getValue column kind s :=
    getOpt_eq_getValue (hkind column kind s)
  refine ⟨hkind, hopt, fun column kind s => ?_, fun column default s => ?_⟩
  · rw [← hopt]
    rfl
  · rw [← hopt]
    rfl

end StatementInterface

/-- **Products pass the checks** if what they make of a cell is of the wanted kind. -/
theorem Browsing.passesKindChecks {σ S R C P : Type} {api : StatementInterface σ S}
    (b : Browsing api R C P)
    (h : ∀ frame kind cell,
      Ensures (b.valueOf frame kind cell) fun value? => ∀ value ∈ value?, value.kind = kind) :
    api.PassesKindChecks := by
  refine StatementInterface.passesKindChecks_of_kind fun column kind s => ?_
  rw [getValue_fst (b := b)]
  exact .bind fun cell => h _ kind cell

/-! ## PostgreSQL -/

namespace Postgres

variable (source : ValueType) (kind : ValueKind)

theorem kind_of_valueOfFlag (flag : Bool) :
    Ensures (valueOfFlag kind flag) fun v => v.kind = kind := by
  cases kind with
  | int16 | int32 | int64 | float | double => exact .ok rfl
  | _ => exact .error

theorem kind_of_decodeScalar (raw : Bytes) :
    Ensures (decodeScalar source kind raw) fun v => v.kind = kind := by
  rw [decodeScalar]
  split
  · exact .bind fun flag => kind_of_valueOfFlag kind flag
  · exact Conversion.kind_of_fetch (reader raw) source kind

/-- **The bytes of a cell are read as a value of the wanted kind**, if at all. -/
theorem kind_of_decodeBytes (raw : Bytes) :
    Ensures (decodeBytes source kind raw) fun v => v.kind = kind := by
  have hscalar := kind_of_decodeScalar source kind raw
  cases kind with
  | date | timestamp =>
    cases source with
    | date | timestamp => exact .map fun _ => rfl
    | _ => exact hscalar
  | time =>
    cases source with
    | time | timestamp => exact .map fun _ => rfl
    | _ => exact hscalar
  | blob =>
    cases source with
    | blob | any | char | varchar => exact .ok rfl
    | _ => exact hscalar
  | utf8 | utf16 =>
    rw [decodeBytes]
    split
    · exact .map fun _ => rfl
    · exact hscalar
  | _ => exact hscalar

theorem kind_of_decode (cells : Cells) (slot : Nat) :
    Ensures (cells.decode source slot kind) fun v => v.kind = kind :=
  .bind fun raw => kind_of_decodeBytes source kind raw

theorem kind_of_valueOf (types : List ValueType) (cell : Nat × Option Bytes) :
    Ensures (valueOf types kind cell) fun value? => ∀ value ∈ value?, value.kind = kind := by
  rcases cell with ⟨position, _ | raw⟩
  · exact .ok nofun
  · exact .map_some (kind_of_decodeBytes _ kind raw)

end Postgres

/-! ## SQL Server -/

namespace SqlServer

variable (kind : ValueKind)

/-- **A cell is read as a value of the wanted kind**, if at all. -/
theorem kind_of_decodeCell (cell : Cell) :
    Ensures (decodeCell cell kind) fun v => v.kind = kind := by
  have hnumber := Conversion.kind_of_fetch (reader cell) (readAs cell kind) kind
  cases kind with
  | date | time | timestamp | blob => exact .map fun _ => rfl
  | utf8 | utf16 =>
    rw [decodeCell]
    split
    · exact .map fun _ => rfl
    · exact Conversion.kind_of_fetch ..
  | _ => exact hnumber

theorem kind_of_decode (cells : Cells) (slot : Nat) :
    Ensures (cells.decode slot kind) fun v => v.kind = kind :=
  .bind fun cell => kind_of_decodeCell kind cell

theorem kind_of_valueOf (cell : Cell) :
    Ensures (valueOf kind cell) fun value? => ∀ value ∈ value?, value.kind = kind := by
  rw [valueOf]
  split
  · exact .ok nofun
  · exact .map_some (kind_of_decodeCell kind cell)

end SqlServer

/-! ## SQLite -/

namespace Sqlite

variable (kind : ValueKind)

theorem kind_of_decode (cell : Stored) : Ensures (decode cell kind) fun v => v.kind = kind := by
  have hfetch := Conversion.kind_of_fetch (reader (.ok cell)) cell.valueType kind
  cases kind with
  | date | time | timestamp | blob => exact .map fun _ => rfl
  | _ => exact hfetch

theorem kind_of_valueOf (cell : Stored) :
    Ensures (valueOf kind cell) fun value? => ∀ value ∈ value?, value.kind = kind := by
  rw [valueOf]
  split
  · exact .ok nofun
  · exact .map_some (kind_of_decode kind cell)

end Sqlite

/-! ## All products -/

/-- **What is decoded has the wanted kind**, from any cells and any types of them, and from any cell
that gives its values in a way of its own. No reading of a column fails its check of the kind. -/
theorem decoded_values_have_wanted_kind :
    (∀ (cells : Postgres.Cells) source slot kind,
      Ensures (cells.decode source slot kind) fun v => v.kind = kind) ∧
    (∀ (cells : SqlServer.Cells) slot kind,
      Ensures (cells.decode slot kind) fun v => v.kind = kind) ∧
    (∀ (cell : WideReader) source kind, Ensures (cell.fetch source kind) fun v => v.kind = kind) ∧
    (∀ {σ : Type} (server : Postgres.Link σ), (Postgres.statements server).PassesKindChecks) ∧
    (∀ {σ : Type} (server : SqlServer.Link σ), (SqlServer.statements server).PassesKindChecks) ∧
    Sqlite.Handle.statements.PassesKindChecks := by
  refine ⟨?_, ?_, ?_, ?_, ?_, ?_⟩
  · exact fun cells source slot kind => Postgres.kind_of_decode source kind cells slot
  · exact fun cells slot kind => SqlServer.kind_of_decode kind cells slot
  · exact fun cell source kind => cell.kind_of_fetch source kind
  · exact fun server => (Postgres.Statement.browsing server).passesKindChecks fun s kind cell =>
      Postgres.kind_of_valueOf kind s.columnTypes cell
  · exact fun server => (SqlServer.Statement.browsing server).passesKindChecks fun _ kind cell =>
      SqlServer.kind_of_valueOf kind cell
  · exact Sqlite.Statement.browsing.passesKindChecks fun _ kind cell =>
      Sqlite.kind_of_valueOf kind cell

end PortableSql
