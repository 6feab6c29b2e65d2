import PortableSql.Sql.ColumnIndex
import PortableSql.Sql.Placeholders
import PortableSql.SqlServer.Dialect
import PortableSql.SqlServer.Link
import PortableSql.Statement.Interface

/-!
# Statements on SQL Server

The server does not prepare: preparing only renders the text. Parameters are sent in their own
types, and columns are known once the statement has run. An execution that fails changes nothing.
-/
namespace PortableSql.SqlServer

/-- A statement. -/
structure Statement where
  /-- The prepared text as it is sent; nothing after a text was executed directly. -/
  sql? : Option String
  lastSql? : Option String
  placeholders : Placeholders
  params : Cells
  columnNames : List String
  columnTypes : List ColumnType
  columns : ColumnIndex
  /-- Rows that have not been handed out. -/
  rows : List Cells
  current? : Option Cells
  rowsAffected : Nat
  state : StatementState
  deriving DecidableEq, Repr

namespace Statement

/-- A statement that has done nothing yet. -/
def new : Statement where
  sql? := none
  lastSql? := none
  placeholders := .initial
  params := []
  columnNames := []
  columnTypes := []
  columns := .empty
  rows := []
  current? := none
  rowsAffected := 0
  state := .undefined

instance : Inhabited Statement := ⟨new⟩

variable {σ : Type} (server : Link σ)

/-- The statement about to work on another text, and that text rendered. -/
def compile (sql : String) (native : Bool) (s : Statement) : Statement × String :=
  let (placeholders, text) := Placeholders.prepare dialect native dialect.coalescing sql
  ({ s with
      sql? := none
      lastSql? := some sql
      placeholders := placeholders
      params := .ofLength placeholders.slots.nativeCount
      columnNames := []
      columnTypes := []
      columns := .empty
      rows := []
      current? := none
      rowsAffected := 0
      state := .undefined }, text)

/-- Prepares a text. -/
def prepare (sql : String) (native : Bool) (s : Statement) : Statement :=
  let (s, text) := s.compile sql native
  { s with sql? := some text, state := .prepared }

/-- The results of a finished execution. -/
def accept (sets : List ResultSet) (affected : Nat) (s : Statement) : Statement :=
  let columns := (sets.head?.map ResultSet.columns).getD []
  { s with
    columnNames := columns.map (·.1)
    columnTypes := columns.map (·.2)
    columns := .empty
    rows := sets.flatMap ResultSet.rows
    current? := none
    rowsAffected := affected
    state := .executed }

/-- Results have columns. -/
def hasColumns : List ResultSet → Bool
  | set :: _ => !set.columns.isEmpty
  | [] => false

/-- Sends a text with the parameters bound so far. Without columns the server is asked how many rows
were changed. -/
def perform (text : String) (s : Statement) (link : σ) : Result Unit × Statement × σ :=
  match server.send text s.params link with
  | (.error e, link) => (.error e, s, link)
  | (.ok sets, link) =>
    if hasColumns sets then
      (.ok (), s.accept sets (sets.flatMap ResultSet.rows).length, link)
    else
      match server.rowCount link with
      | (.error e, link) => (.error e, s, link)
      | (.ok affected, link) => (.ok (), s.accept sets affected, link)

/-- The prepared text. -/
def requirePrepared (s : Statement) : Result String := do
  s.state.checkPrepared
  match s.sql? with
  | some text => pure text
  | none => .error (.sequence .notPrepared)

/-- Runs what has been prepared. -/
def run (s : Statement) (link : σ) : Result Unit × Statement × σ :=
  match s.requirePrepared with
  | .error e => (.error e, s, link)
  | .ok text => s.perform server text link

/-- Runs a text with native parameters, of which none are sent. -/
def execute (sql : String) (s : Statement) (link : σ) : Result Unit × Statement × σ :=
  let (s, text) := s.compile sql true
  s.perform server text link

/-- Goes to the next row. -/
def fetch (s : Statement) : Result Bool × Statement :=
  match s.state.checkCanFetch with
  | .error e => (.error e, s)
  | .ok _ =>
    let hasRow := !s.rows.isEmpty
    (.ok hasRow,
      { s with current? := s.rows.head?, rows := s.rows.tail, state := .afterFetch hasRow })

/-- Number of rows of the last execution, or of rows it changed. -/
def affected (s : Statement) : Result Nat := do
  s.state.checkExecuted
  pure s.rowsAffected

/-- The key that the session generated last. -/
def lastRowId (s : Statement) (link : σ) : Result Int64 × σ :=
  match s.state.checkExecuted with
  | .error e => (.error e, link)
  | .ok _ => server.identity link

/-- Number of distinct parameters. -/
def paramsCount (s : Statement) : Result Nat := do
  s.state.checkPrepared
  pure s.placeholders.slots.size

/-- Parameters have no declared type. -/
def paramType (param : Identifier) (s : Statement) : Result ValueType := do
  s.state.checkPrepared
  let slots ← s.placeholders.slotsOf param
  if slots.isEmpty then .error (.parameterNotFound param.text) else pure .any

/-- Number of columns. -/
def columnsCount (s : Statement) : Result Nat := do
  s.state.checkExecuted
  pure s.columnNames.length

/-- Name of the column at a position. -/
def columnName (position : Nat) (s : Statement) : Result String := do
  s.state.checkExecuted
  PortableSql.columnName s.columnNames position

/-- Position of a column. -/
def locate (column : Identifier) (s : Statement) : Result Nat × Statement :=
  let (found, columns) := s.columns.find (m := Id) (.ok s.columnNames) column
  (found, { s with columns := columns })

/-- The type of a value that is not NULL in the current row. -/
def currentType? (position : Nat) (s : Statement) : Option ValueType :=
  match s.current?.bind (OneBased.get? · position) with
  | some (.value scalar) => some scalar.kind.valueType
  | _ => none

/-- The type of a column: that of its current value, else the declared one. -/
def columnType (column : Identifier) (s : Statement) : Result ValueType × Statement :=
  match s.state.checkExecuted with
  | .error e => (.error e, s)
  | .ok _ =>
    match s.locate column with
    | (.error e, s) => (.error e, s)
    | (.ok position, s) =>
      match s.currentType? position, OneBased.get? s.columnTypes position with
      | some type, _ => (.ok type, s)
      | none, some declared => (.ok declared.valueType, s)
      | none, none => (.error (.columnNotFound column.text), s)

/-- Binds a value to slots, one after another; slots bound before a failure keep their value. -/
def bindSlots (value? : Option Value) (s : Statement) : List Nat → Result Unit × Statement
  | [] => (.ok (), s)
  | slot :: rest =>
    match s.params.bind slot value? with
    | .error e => (.error e, s)
    | .ok params => bindSlots value? { s with params := params } rest

/-- Binds a value or NULL to every slot of a parameter. -/
def setValue (param : Identifier) (value? : Option Value) (s : Statement) :
    Result Unit × Statement :=
  match s.requirePrepared >>= fun _ => s.placeholders.slotsOf param with
  | .error e => (.error e, s)
  | .ok slots => s.bindSlots value? slots

/-- A cell of the current row. -/
def currentCell (column : Identifier) (s : Statement) : Result Cell × Statement :=
  match s.state.checkHasData with
  | .error e => (.error e, s)
  | .ok _ =>
    match s.locate column with
    | (.error e, s) => (.error e, s)
    | (.ok position, s) =>
      match s.current? with
      | none => (.error (.sequence .noRow), s)
      | some row => (row.cell position, s)

/-- Reads a column of the current row; nothing for NULL. -/
def getValue (column : Identifier) (kind : ValueKind) (s : Statement) :
    Result (Option Value) × Statement :=
  match s.currentCell column with
  | (.error e, s) => (.error e, s)
  | (.ok cell, s) => if cell.isNull then (.ok none, s) else ((decodeCell cell kind).map some, s)

/-- A column of the current row is NULL. -/
def isNull (column : Identifier) (s : Statement) : Result Bool × Statement :=
  match s.currentCell column with
  | (.error e, s) => (.error e, s)
  | (.ok cell, s) => (.ok cell.isNull, s)

end Statement

/-- What statements on a SQL Server can do. -/
def statements {σ : Type} (server : Link σ) : StatementInterface σ Statement where
  new := .new
  state := Statement.state
  lastSql? := Statement.lastSql?
  prepare sql native s link := (.ok (), s.prepare sql native, link)
  run s link := s.run server link
  execute sql s link := s.execute server sql link
  fetch := Statement.fetch
  rowsAffected := Statement.affected
  lastRowId s link := s.lastRowId server link
  paramsCount := Statement.paramsCount
  paramType := Statement.paramType
  columnsCount := Statement.columnsCount
  columnName := Statement.columnName
  columnType := Statement.columnType
  setValue := Statement.setValue
  getValue := Statement.getValue
  isNull := Statement.isNull

end PortableSql.SqlServer
