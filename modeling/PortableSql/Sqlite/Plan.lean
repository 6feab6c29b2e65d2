import PortableSql.OneBased
import PortableSql.Sqlite.Table

/-!
# Plans

A command becomes a plan when its names are looked up in a database. There is no plan for a command
that names what is not there, or that creates what is there already.
-/
namespace PortableSql.Sqlite

/-- Expressions whose names have been looked up. -/
inductive Operand where
  | literal (value : Stored)
  | parameter (n : Nat)
  /-- A cell of the current row. -/
  | field (index : Nat)
  deriving DecidableEq, Repr

/-- A condition whose names have been looked up: both sides are equal under an affinity. -/
structure Test where
  left : Operand
  right : Operand
  affinity : Affinity
  deriving DecidableEq, Repr

/-- What a query gives for a row. -/
inductive Output where
  | operand (o : Operand)
  /-- The number of all rows. -/
  | count
  deriving DecidableEq, Repr

/-- A part of a query. -/
inductive Part where
  | select (outputs : List Output) (table? : Option String) (where? : Option Test)
  | rows (rows : List (List Operand))
  deriving DecidableEq, Repr

/-- What rows are ordered by. -/
inductive SortKey where
  | output (index : Nat)
  | source (o : Operand)
  deriving DecidableEq, Repr

/-- Commands that can be run. -/
inductive Plan where
  | nothing
  | createTable (table : Table)
  | dropTable (name : String)
  /-- For every column of the table, which of the given values it takes. -/
  | insert (table : String) (sources : List (Option Nat)) (rows : List (List Operand))
  | update (table : String) (changes : List (Nat × Operand)) (where? : Option Test)
  | delete (table : String) (where? : Option Test)
  | query (parts : List Part) (order? : Option (SortKey × Bool))
  | begin
  | commit
  | rollback
  deriving DecidableEq, Repr

/-- A column of a result: its name, and its declaration if it is a column of a table. -/
structure Heading where
  name : String
  declared? : Option String
  deriving DecidableEq, Repr

namespace Operand

/-- The value of an expression for a row. -/
def eval (params cells : List Stored) : Operand → Stored
  | literal value => value
  | parameter n => (OneBased.get? params n).getD .null
  | field index => cells.getD index .null

/-- The affinity of an expression that is a column. -/
def affinity? (columns : List Column) : Operand → Option Affinity
  | field index => columns[index]?.map Column.affinity
  | _ => none

end Operand

/-- The condition holds for a row. -/
def Test.holds (params cells : List Stored) (t : Test) : Bool :=
  conditionHolds (t.left.eval params cells) (t.right.eval params cells) t.affinity

namespace Expr

/-- Looks up the names in an expression. -/
def resolve? (columns : List Column) : Expr → Option Operand
  | literal value => some (.literal value)
  | parameter n => some (.parameter n)
  | column name => (Column.find? columns name).map .field

end Expr

namespace Item

/-- The other name of what is selected. -/
def alias? : Item → Option String
  | expr _ _ alias? => alias?
  | count _ alias? => alias?

/-- What is selected has this other name. -/
def isCalled (name : String) (i : Item) : Bool :=
  i.alias?.map foldAscii == some (foldAscii name)

/-- Looks up the names in what is selected. -/
def resolve? (columns : List Column) : Item → Option Output
  | expr e _ _ => (e.resolve? columns).map .operand
  | count _ _ => some .count

/-- The column of the result that is selected: named as the table names it, or as it is written. -/
def heading (columns : List Column) : Item → Heading
  | expr (.column name) source alias? =>
    match (Column.find? columns name).bind (columns[·]?) with
    | some c => ⟨alias?.getD c.name, c.declared?⟩
    | none => ⟨alias?.getD source, none⟩
  | expr _ source alias? => ⟨alias?.getD source, none⟩
  | count source alias? => ⟨alias?.getD source, none⟩

end Item

namespace Plan

/-- The expression behind another name of something selected. -/
def aliased? (columns : List Column) (items : List Item) : Expr → Option Operand
  | .column name =>
    match items.find? (·.isCalled name) with
    | some (.expr e _ _) => e.resolve? columns
    | _ => none
  | _ => none

/-- Looks up the names in a condition: columns, then other names of what is selected. -/
def condition? (columns : List Column) (items : List Item) (c : Condition) : Option Test := do
  let side (e : Expr) := e.resolve? columns <|> aliased? columns items e
  let left ← side c.left
  let right ← side c.right
  pure ⟨left, right, comparisonAffinity (left.affinity? columns) (right.affinity? columns)⟩

/-- A condition that may be missing. -/
def where? (columns : List Column) (items : List Item) :
    Option Condition → Option (Option Test)
  | none => some none
  | some c => (condition? columns items c).map some

/-- The columns of a table that may be missing. -/
def columnsOf? (db : Database) : Option String → Option (List Column)
  | none => some []
  | some name => (db.table? name).map Table.columns

/-- Looks up the names in a part of a query. -/
def part? (db : Database) : Arm → Option Part
  | .select items table? condition? => do
    let columns ← columnsOf? db table?
    let outputs ← items.mapM (Item.resolve? columns)
    pure (.select outputs table? (← where? columns items condition?))
  | .rows rows => do
    let width := (rows.head?.map List.length).getD 0
    if rows.all (·.length == width) then
      pure (.rows (← rows.mapM fun row => row.mapM (Expr.resolve? [])))
    else none

/-- Number of columns of a part of a query. -/
def width : Arm → Nat
  | .select items _ _ => items.length
  | .rows rows => (rows.head?.map List.length).getD 0

/-- The place among the results of a part that an order names: by its other name, or as a column. -/
def outputNamed? (name : String) : Arm → Option Nat
  | .select items _ _ =>
    items.findIdx? (·.isCalled name) <|>
      items.findIdx? fun
        | .expr (.column c) _ _ => foldAscii c == foldAscii name
        | _ => false
  | .rows _ => none

/-- What the rows of a query are ordered by. -/
def sortKey? (db : Database) (arms : List Arm) (name : String) : Option SortKey :=
  match arms with
  | [.select items table? _] =>
    match items.findIdx? (·.isCalled name) with
    | some index => some (.output index)
    | none => do
      let columns ← columnsOf? db table?
      pure (.source ((← (Column.find? columns name).map .field)))
  | arms => (arms.findSome? (outputNamed? name)).map .output

/-- Looks up the names in a query, whose parts must be of one width. -/
def query? (db : Database) (q : Query) : Option Plan := do
  let parts ← q.arms.mapM (part? db)
  let widths := q.arms.map width
  let order ← match q.order? with
    | none => some none
    | some term => (sortKey? db q.arms term.column).map fun key => some (key, term.descending)
  if widths.all (some · == widths.head?) then pure (.query parts order) else none

/-- Looks up the names in an insertion. -/
def insert? (db : Database) (table : String) (names : List String) (rows : List (List Expr)) :
    Option Plan := do
  let t ← db.table? table
  let targets ← names.mapM (Column.find? t.columns)
  let sources := (List.range t.columns.length).map fun index => targets.findIdx? (· == index)
  let rows ← rows.mapM fun row =>
    if row.length = names.length then row.mapM (Expr.resolve? []) else none
  pure (.insert table sources rows)

/-- Looks up the names in a change of a column. -/
def change? (columns : List Column) (change : String × Expr) : Option (Nat × Operand) := do
  pure (← Column.find? columns change.1, ← change.2.resolve? columns)

/-- The plan of a command on a database. -/
def ofCommand? (db : Database) : Command → Option Plan
  | .nothing => some .nothing
  | .createTable name declarations =>
    if (db.table? name).isSome then none
    else (Table.ofDeclarations? name declarations).map .createTable
  | .dropTable name => (db.table? name).map fun _ => .dropTable name
  | .insert table names rows => insert? db table names rows
  | .update table changes condition? => do
    let t ← db.table? table
    pure (.update table (← changes.mapM (change? t.columns)) (← where? t.columns [] condition?))
  | .delete table condition? => do
    let t ← db.table? table
    pure (.delete table (← where? t.columns [] condition?))
  | .query q => query? db q
  | .begin => some .begin
  | .commit => some .commit
  | .rollback => some .rollback

end Plan

namespace Command

/-- The columns of a part of a query. -/
def armHeadings (db : Database) : Arm → List Heading
  | .select items table? _ => items.map (Item.heading ((Plan.columnsOf? db table?).getD []))
  | .rows rows =>
    let width := (rows.head?.map List.length).getD 0
    (List.range width).map fun index =>
      let number := Text.Decimal.ofNat (index + 1)
      ⟨s!"column{number}", none⟩

/-- The columns of the result of a command: those of the first part of a query, else none. -/
def headings (db : Database) : Command → List Heading
  | .query q => (q.arms.head?.map (armHeadings db)).getD []
  | _ => []

end Command

end PortableSql.Sqlite
