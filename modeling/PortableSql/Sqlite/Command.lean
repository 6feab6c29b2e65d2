import PortableSql.Sqlite.Storage

/-!
# Commands

What a statement of SQL says, before the names in it are looked up.
-/
namespace PortableSql.Sqlite

/-- A name in lower case, by which names are compared. -/
def foldAscii (name : String) : String :=
  String.ofList (name.toList.map Char.toLower)

/-- Expressions. -/
inductive Expr where
  | literal (value : Stored)
  | parameter (n : Nat)
  | column (name : String)
  deriving DecidableEq, Repr

/-- What a query selects. -/
inductive Item where
  | expr (e : Expr) (source : String) (alias? : Option String)
  | count (source : String) (alias? : Option String)
  deriving DecidableEq, Repr

/-- A condition: both sides are equal. -/
structure Condition where
  left : Expr
  right : Expr
  deriving DecidableEq, Repr

/-- One part of a query. -/
inductive Arm where
  | select (items : List Item) (table? : Option String) (where? : Option Condition)
  | rows (rows : List (List Expr))
  deriving DecidableEq, Repr

/-- The column by which rows are ordered. -/
structure OrderTerm where
  column : String
  descending : Bool
  deriving DecidableEq, Repr

/-- Rows of all parts one after another, possibly ordered. -/
structure Query where
  arms : List Arm
  order? : Option OrderTerm
  deriving DecidableEq, Repr

/-- A column as it is declared. -/
structure ColumnDeclaration where
  name : String
  declared? : Option String
  isKey : Bool
  deriving DecidableEq, Repr

/-- Commands. -/
inductive Command where
  /-- No command at all. -/
  | nothing
  | createTable (name : String) (columns : List ColumnDeclaration)
  | dropTable (name : String)
  | insert (table : String) (columns : List String) (rows : List (List Expr))
  | update (table : String) (changes : List (String × Expr)) (where? : Option Condition)
  | delete (table : String) (where? : Option Condition)
  | query (q : Query)
  | begin
  | commit
  | rollback
  deriving DecidableEq, Repr

/-- Names of parameters with their numbers, and the largest number. -/
structure ParameterTable where
  count : Nat
  names : List (String × Nat)
  deriving DecidableEq, Repr

namespace ParameterTable

/-- No parameters. -/
def empty : ParameterTable := ⟨0, []⟩

/-- The largest number that a parameter may have. -/
def limit : Nat := 32766

/-- The number of a name. -/
def number? (table : ParameterTable) (name : String) : Option Nat :=
  (table.names.find? (·.1 == name)).map (·.2)

/-- The name of a number. -/
def name? (table : ParameterTable) (n : Nat) : Option String :=
  (table.names.find? (·.2 == n)).map (·.1)

end ParameterTable

end PortableSql.Sqlite
