import PortableSql.Sql.Identifier
import PortableSql.Sql.StatementType
import PortableSql.Statement.State
import PortableSql.Value.Basic

/-!
# What every statement can do

`StatementInterface` lists the operations that a product supplies for its statements; the operations
below it are the same for all products. A statement runs on a link whose state is `σ`.
-/
namespace PortableSql

/-- The operations of the statements `S` of one product. -/
structure StatementInterface (σ S : Type) where
  /-- A statement that has done nothing yet. -/
  new : S
  state : S → StatementState
  /-- The text prepared or executed last, as the caller wrote it. -/
  lastSql? : S → Option String
  /-- Prepares a text, with native parameters if the flag is set. -/
  prepare : (sql : String) → (native : Bool) → S → σ → Result Unit × S × σ
  /-- Runs what has been prepared. -/
  run : S → σ → Result Unit × S × σ
  /-- Runs a text with native parameters. -/
  execute : (sql : String) → S → σ → Result Unit × S × σ
  /-- Goes to the next row; false if there is none. -/
  fetch : S → Result Bool × S
  rowsAffected : S → Result Nat
  /-- The key that the session generated last. -/
  lastRowId : S → σ → Result Int64 × σ
  paramsCount : S → Result Nat
  paramType : Identifier → S → Result ValueType
  columnsCount : S → Result Nat
  columnName : Nat → S → Result String
  columnType : Identifier → S → Result ValueType × S
  /-- Binds a value or NULL. -/
  setValue : Identifier → Option Value → S → Result Unit × S
  /-- Reads a column of the current row; nothing for NULL. -/
  getValue : Identifier → ValueKind → S → Result (Option Value) × S
  isNull : Identifier → S → Result Bool × S

/-- The value, which must be of the kind. -/
def Value.ofKind (kind : ValueKind) (value : Value) : Result Value :=
  if value.kind = kind then .ok value
  else .error (.typeConversion value.kind.name kind.name)

namespace StatementInterface

variable {σ S : Type} (api : StatementInterface σ S)

/-- The kind of the statement prepared or executed last. -/
def statementType (s : S) : Result StatementType := do
  (api.state s).checkPrepared
  match api.lastSql? s with
  | some sql => pure (.ofSql sql)
  | none => pure .unknown

/-- Reads a column of the current row as a value of a kind; nothing for NULL. -/
def getOpt (column : Identifier) (kind : ValueKind) (s : S) : Result (Option Value) × S :=
  match api.getValue column kind s with
  | (.ok (some value), s) => ((value.ofKind kind).map some, s)
  | (.ok none, s) => (.ok none, s)
  | (.error e, s) => (.error e, s)

/-- Reads a column of the current row that must not be NULL. -/
def get (column : Identifier) (kind : ValueKind) (s : S) : Result Value × S :=
  match api.getOpt column kind s with
  | (.ok (some value), s) => (.ok value, s)
  | (.ok none, s) => (.error (.valueIsNull column.text), s)
  | (.error e, s) => (.error e, s)

/-- Reads a column of the current row, with a default in place of NULL. -/
def getOr (column : Identifier) (default : Value) (s : S) : Result Value × S :=
  match api.getOpt column default.kind s with
  | (.ok value?, s) => (.ok (value?.getD default), s)
  | (.error e, s) => (.error e, s)

end StatementInterface

end PortableSql
