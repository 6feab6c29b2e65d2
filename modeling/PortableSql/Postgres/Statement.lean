import PortableSql.Postgres.Dialect
import PortableSql.Postgres.Link
import PortableSql.Sql.ColumnIndex
import PortableSql.Sql.Placeholders
import PortableSql.Statement.Interface

/-!
# Statements on PostgreSQL

Parameters are written in the types that the server reports when the text is prepared, and columns
are read in the types it reports. A result is taken over whole and handed out row by row.
-/
namespace PortableSql.Postgres

/-- A statement. -/
structure Statement where
  /-- What the server said about the prepared text; nothing after a text was executed directly. -/
  prepared? : Option Prepared
  placeholders : Placeholders
  lastSql? : Option String
  paramTypes : List ValueType
  params : Cells
  columnNames : List String
  columnTypes : List ValueType
  columns : ColumnIndex
  /-- Rows that have not been handed out. -/
  rows : List Cells
  current? : Option Cells
  rowsAffected : Nat
  state : StatementState
  deriving DecidableEq, Repr

namespace Statement

/-- A statement that has done nothing yet. -/
def new : Statement where
  prepared? := none
  placeholders := .initial
  lastSql? := none
  paramTypes := []
  params := []
  columnNames := []
  columnTypes := []
  columns := .empty
  rows := []
  current? := none
  rowsAffected := 0
  state := .undefined

instance : Inhabited Statement := ⟨new⟩

variable {σ : Type} (server : Link σ)

/-- The statement without rows. -/
def discardRows (s : Statement) : Statement :=
  { s with rows := [], current? := none, rowsAffected := 0 }

/-- The statement with what the server says about a text. -/
def describe (s : Statement) (prepared : Prepared) : Statement :=
  { s with
    paramTypes := prepared.params.map typeOfOid
    params := .ofLength prepared.params.length
    columnNames := prepared.columns.map (·.1)
    columnTypes := prepared.columns.map fun column => typeOfOid column.2 }

/-- The statement about to work on another text, and that text rendered. -/
def forget (sql : String) (native : Bool) (s : Statement) : Statement × String :=
  let (placeholders, text) := Placeholders.prepare dialect native dialect.coalescing sql
  let s := s.discardRows
  ({ s with
      prepared? := none
      lastSql? := some sql
      columns := .empty
      state := .undefined
      placeholders := placeholders }, text)

/-- Renders a text and has the server prepare it. -/
def compile (sql : String) (native : Bool) (s : Statement) (link : σ) :
    Result Prepared × Statement × σ :=
  let (s, text) := s.forget sql native
  match server.prepare text link with
  | (none, link) => (.error (.refused .postgres), s, link)
  | (some prepared, link) => (.ok prepared, s.describe prepared, link)

/-- The rows of a finished execution and their number. -/
def accept (prepared : Prepared) (completed : Completed) (s : Statement) : Statement :=
  if prepared.columns.isEmpty then
    { s with rows := [], current? := none, rowsAffected := completed.affected, state := .executed }
  else
    { s with
      rows := completed.rows
      current? := none
      rowsAffected := completed.rows.length
      state := .executed }

/-- Has the server run a prepared text with the parameters bound so far. -/
def perform (prepared : Prepared) (s : Statement) (link : σ) : Result Unit × Statement × σ :=
  match server.run prepared s.params link with
  | (none, link) => (.error (.refused .postgres), s, link)
  | (some completed, link) => (.ok (), s.accept prepared completed, link)

/-- Prepares a text. -/
def prepare (sql : String) (native : Bool) (s : Statement) (link : σ) :
    Result Unit × Statement × σ :=
  match s.compile server sql native link with
  | (.error e, s, link) => (.error e, s, link)
  | (.ok prepared, s, link) =>
    (.ok (), { s with prepared? := some prepared, state := .prepared }, link)

/-- What has been prepared. -/
def requirePrepared (s : Statement) : Result Prepared := do
  s.state.checkPrepared
  match s.prepared? with
  | some prepared => pure prepared
  | none => .error (.sequence .notPrepared)

/-- Runs what has been prepared. The rows of an earlier execution are gone even if it fails. -/
def run (s : Statement) (link : σ) : Result Unit × Statement × σ :=
  match s.requirePrepared with
  | .error e => (.error e, s, link)
  | .ok prepared => perform server prepared { s.discardRows with columns := .empty } link

/-- Runs a text with native parameters, all of them NULL. -/
def execute (sql : String) (s : Statement) (link : σ) : Result Unit × Statement × σ :=
  match s.compile server sql true link with
  | (.error e, s, link) => (.error e, s, link)
  | (.ok prepared, s, link) => s.perform server prepared link

/-- Goes to the next row. -/
def fetch (s : Statement) : Result Bool × Statement :=
  match s.state.checkCanFetch with
  | .error e => (.error e, s)
  | .ok _ =>
    let hasRow := !s.rows.isEmpty
    (.ok hasRow,
      { s with current? := s.rows.head?, rows := s.rows.tail, state := .afterFetch hasRow })

/-- Number of rows of the last execution, or of rows it changed. -/
def affected (s : Statement) : Result Nat := do
  s.state.checkExecuted
  pure s.rowsAffected

/-- The key that the session generated last. -/
def lastRowId (s : Statement) (link : σ) : Result Int64 × σ :=
  match s.state.checkExecuted with
  | .error e => (.error e, link)
  | .ok _ => server.lastValue link

/-- Number of parameters: those of the server for native ones, else distinct identifiers. -/
def paramsCount (s : Statement) : Result Nat := do
  s.state.checkPrepared
  pure (if s.placeholders.passThrough then s.paramTypes.length else s.placeholders.slots.size)

/-- The type of a slot of a parameter. -/
def slotType (param : Identifier) (slot : Nat) (s : Statement) : Result ValueType :=
  match OneBased.get? s.paramTypes slot with
  | some type => .ok type
  | none => .error (.parameterNotFound param.text)

/-- The type of the first slot of a parameter. -/
def paramType (param : Identifier) (s : Statement) : Result ValueType := do
  s.state.checkPrepared
  match ← s.placeholders.slotsOf param with
  | slot :: _ => s.slotType param slot
  | [] => .error (.parameterNotFound param.text)

/-- Number of columns. -/
def columnsCount (s : Statement) : Result Nat := do
  s.state.checkPrepared
  pure s.columnNames.length

/-- Name of the column at a position. -/
def columnName (position : Nat) (s : Statement) : Result String := do
  s.state.checkPrepared
  PortableSql.columnName s.columnNames position

/-- Position of a column. -/
def locate (column : Identifier) (s : Statement) : Result Nat × Statement :=
  let (found, columns) := s.columns.find (m := Id) (.ok s.columnNames) column
  (found, { s with columns := columns })

/-- The type of a column. -/
def columnType (column : Identifier) (s : Statement) : Result ValueType × Statement :=
  match s.state.checkPrepared with
  | .error e => (.error e, s)
  | .ok _ =>
    match s.locate column with
    | (.error e, s) => (.error e, s)
    | (.ok position, s) =>
      match OneBased.get? s.columnTypes position with
      | some type => (.ok type, s)
      | none => (.error (.columnNotFound column.text), s)

/-- Binds a value to slots, one after another; slots bound before a failure keep their value. -/
def bindSlots (param : Identifier) (value? : Option Value) (s : Statement) :
    List Nat → Result Unit × Statement
  | [] => (.ok (), s)
  | slot :: rest =>
    match s.slotType param slot >>= fun target => s.params.bind slot target value? with
    | .error e => (.error e, s)
    | .ok params => bindSlots param value? { s with params := params } rest

/-- Binds a value or NULL to every slot of a parameter. -/
def setValue (param : Identifier) (value? : Option Value) (s : Statement) :
    Result Unit × Statement :=
  match s.requirePrepared >>= fun _ => s.placeholders.slotsOf param with
  | .error e => (.error e, s)
  | .ok slots => s.bindSlots param value? slots

/-- The bytes of a column of the current row, with its position. -/
def currentCell (column : Identifier) (s : Statement) :
    Result (Nat × Option Bytes) × Statement :=
  match s.state.checkHasData with
  | .error e => (.error e, s)
  | .ok _ =>
    match s.locate column with
    | (.error e, s) => (.error e, s)
    | (.ok position, s) =>
      match s.current? with
      | none => (.error (.sequence .noRow), s)
      | some row => ((row.raw position).map fun cell => (position, cell), s)

/-- Reads a column of the current row; nothing for NULL. -/
def getValue (column : Identifier) (kind : ValueKind) (s : Statement) :
    Result (Option Value) × Statement :=
  match s.currentCell column with
  | (.error e, s) => (.error e, s)
  | (.ok (_, none), s) => (.ok none, s)
  | (.ok (position, some bytes), s) =>
    let source := (OneBased.get? s.columnTypes position).getD .any
    ((decodeBytes source kind bytes).map some, s)

/-- A column of the current row is NULL. -/
def isNull (column : Identifier) (s : Statement) : Result Bool × Statement :=
  match s.currentCell column with
  | (.error e, s) => (.error e, s)
  | (.ok (_, cell), s) => (.ok cell.isNone, s)

end Statement

/-- What statements on a PostgreSQL server can do. -/
def statements {σ : Type} (server : Link σ) : StatementInterface σ Statement where
  new := .new
  state := Statement.state
  lastSql? := Statement.lastSql?
  prepare sql native s link := s.prepare server sql native link
  run s link := s.run server link
  execute sql s link := s.execute server sql link
  fetch := Statement.fetch
  rowsAffected := Statement.affected
  lastRowId s link := s.lastRowId server link
  paramsCount := Statement.paramsCount
  paramType := Statement.paramType
  columnsCount := Statement.columnsCount
  columnName := Statement.columnName
  columnType := Statement.columnType
  setValue := Statement.setValue
  getValue := Statement.getValue
  isNull := Statement.isNull

end PortableSql.Postgres
