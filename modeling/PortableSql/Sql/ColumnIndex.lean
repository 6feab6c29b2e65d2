import PortableSql.Error
import PortableSql.OneBased
import PortableSql.Sql.Identifier

/-!
# Finding columns by name

A `ColumnIndex` keeps the folded names of a result's columns once they have been read. A column
given by its position is not looked up at all. Of columns with one name the last is meant.
-/
namespace PortableSql

/-- Who knows the columns of a result: how many there are, and the name of each by its position, counted
from one. -/
structure ColumnSource (m : Type → Type) where
  count : ExceptT Error m Nat
  name : Nat → ExceptT Error m String

/-- The names of all columns, asked for one after another. The first answer that is an error is the
last that is asked for. -/
def ColumnSource.names {m : Type → Type} [Monad m] (source : ColumnSource m) :
    ExceptT Error m (List String) := do
  let count ← source.count
  (List.range' 1 count).mapM source.name

/-- The folded names of the columns, in order, if they have been read. -/
structure ColumnIndex where
  folded? : Option (List String)
  deriving DecidableEq, Repr

namespace ColumnIndex

/-- No names read yet. -/
def empty : ColumnIndex := ⟨none⟩

instance : Inhabited ColumnIndex := ⟨empty⟩

/-- Position, counted from one, of the last entry that equals `key`. -/
def lastPosition? (key : String) : List String → Option Nat
  | [] => none
  | name :: rest =>
    match lastPosition? key rest with
    | some n => some (n + 1)
    | none => if name = key then some 1 else none

/-- Position of the last name that folds like the given one. -/
def search (folded : List String) (name : String) : Result Nat :=
  match lastPosition? (foldName name) folded with
  | some n => .ok n
  | none => .error (.columnNotFound name)

/-- Position of a column. The names are taken from `source` if they have not been read yet; when
the source fails they stay unread. -/
def find {m : Type → Type} [Monad m] (index : ColumnIndex) (source : m (Result (List String))) :
    Identifier → m (Result Nat × ColumnIndex)
  | .position n => pure (.ok n, index)
  | .name name => do
    match index.folded? with
    | some folded => pure (search folded name, index)
    | none =>
      match ← source with
      | .ok names =>
        let folded := names.map foldName
        pure (search folded name, ⟨some folded⟩)
      | .error e => pure (.error e, index)

end ColumnIndex

/-- Name of the column at a position, counted from one. -/
def columnName (names : List String) (position : Nat) : Result String :=
  match OneBased.get? names position with
  | some name => .ok name
  | none => .error (.columnNotFound (Text.Decimal.ofNat position))

end PortableSql
