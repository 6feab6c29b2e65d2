import PortableSql.Sqlite.Affinity
import PortableSql.Sqlite.Command
import PortableSql.Sqlite.Comparison

/-!
# Tables

A table has columns and numbered rows, which it keeps in the order of their numbers. A column that
is declared as an integer primary key shows the number of the row; any other primary key is a column
whose values must differ.
-/
namespace PortableSql.Sqlite

/-- A column of a table. -/
structure Column where
  name : String
  declared? : Option String
  deriving DecidableEq, Repr

namespace Column

/-- The kind of values that the column prefers. -/
def affinity (c : Column) : Affinity :=
  .ofDeclaration c.declared?

/-- Position of the column with a name, in any letter case. -/
def find? (columns : List Column) (name : String) : Option Nat :=
  columns.findIdx? fun c => foldAscii c.name == foldAscii name

end Column

/-- A row: its number and its cells. -/
structure Row where
  number : Int64
  cells : List Stored
  deriving DecidableEq, Repr

/-- A table. -/
structure Table where
  name : String
  columns : List Column
  /-- Position of the column that shows the number of the row. -/
  numberColumn? : Option Nat
  /-- Position of a column whose values differ. -/
  uniqueColumn? : Option Nat
  /-- Rows in the order of their numbers. -/
  rows : List Row
  deriving DecidableEq, Repr

namespace Table

/-- The column shows the number of the row. -/
def showsNumber (d : ColumnDeclaration) : Bool :=
  d.isKey && d.declared?.map foldAscii == some "integer"

/-- An empty table, unless two columns have one name or two are the primary key. -/
def ofDeclarations? (name : String) (declarations : List ColumnDeclaration) : Option Table :=
  let names := declarations.map fun d => foldAscii d.name
  if names.Nodup ∧ declarations.countP (·.isKey) ≤ 1 then
    some
      { name := name
        columns := declarations.map fun d => ⟨d.name, d.declared?⟩
        numberColumn? := declarations.findIdx? showsNumber
        uniqueColumn? := declarations.findIdx? fun d => d.isKey && !showsNumber d
        rows := [] }
  else none

/-- The number of a new row that is given none: one more than the greatest. -/
def nextNumber? (t : Table) : Option Int64 :=
  match t.rows.getLast? with
  | none => some 1
  | some row => if row.number = Int64.maxValue then none else some (row.number + 1)

/-- The row number that a value is. -/
def numberOf? (value : Stored) : Option Int64 :=
  match Affinity.toNumber value with
  | .integer n => some n
  | _ => none

/-- The row number that cells ask for; the next one if they ask for none. -/
def chooseNumber? (t : Table) (cells : List Stored) : Option Int64 :=
  match t.numberColumn? with
  | none => t.nextNumber?
  | some index =>
    match cells.getD index .null with
    | .null => t.nextNumber?
    | value => numberOf? value

/-- A row as the table stores it. -/
def makeRow (t : Table) (number : Int64) (cells : List Stored) : Row :=
  let stored := List.zipWith (fun c value => c.affinity.store value) t.columns cells
  match t.numberColumn? with
  | some index => ⟨number, stored.set index (.integer number)⟩
  | none => ⟨number, stored⟩

/-- The row may not stand beside another. -/
def clashes (t : Table) (row other : Row) : Bool :=
  row.number == other.number ||
    match t.uniqueColumn? with
    | some index => (row.cells.getD index .null).equals (other.cells.getD index .null)
    | none => false

/-- Rows with another one in its place. -/
def place (row : Row) : List Row → List Row
  | [] => [row]
  | other :: rest =>
    if row.number < other.number then row :: other :: rest else other :: place row rest

/-- The table with another row, if that clashes with none. -/
def add? (row : Row) (t : Table) : Option Table :=
  if t.rows.any (t.clashes row) then none else some { t with rows := place row t.rows }

/-- Adds a row with the given cells; gives its number too. -/
def insert? (cells : List Stored) (t : Table) : Option (Int64 × Table) := do
  let number ← t.chooseNumber? cells
  let t ← t.add? (t.makeRow number cells)
  pure (number, t)

/-- The table without the row of a number. -/
def erase (number : Int64) (t : Table) : Table :=
  { t with rows := t.rows.filter (·.number != number) }

/-- The row of a number. -/
def row? (number : Int64) (t : Table) : Option Row :=
  t.rows.find? (·.number == number)

/-- Gives a row other cells, and another number if they ask for one. -/
def replace? (row : Row) (cells : List Stored) (t : Table) : Option Table := do
  let number ← match t.numberColumn? with
    | none => some row.number
    | some index => numberOf? (cells.getD index .null)
  (t.erase row.number).add? (t.makeRow number cells)

end Table

/-- The tables of a database, with different names. -/
abbrev Database := List Table

namespace Database

/-- The table with a name, in any letter case. -/
def table? (db : Database) (name : String) : Option Table :=
  db.find? fun t => foldAscii t.name == foldAscii name

/-- The database with a table in place of the one with its name. -/
def update (table : Table) (db : Database) : Database :=
  db.map fun t => if foldAscii t.name = foldAscii table.name then table else t

/-- The database without the table of a name. -/
def erase (name : String) (db : Database) : Database :=
  db.filter fun t => foldAscii t.name != foldAscii name

end Database

end PortableSql.Sqlite
