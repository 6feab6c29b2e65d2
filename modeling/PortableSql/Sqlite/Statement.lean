import PortableSql.Conversion.Fetch
import PortableSql.Sql.ColumnIndex
import PortableSql.Sql.Rendering
import PortableSql.Sqlite.Dialect
import PortableSql.Sqlite.Engine
import PortableSql.Sqlite.Parser
import PortableSql.Sqlite.Temporal
import PortableSql.Statement.Interface

/-!
# Statements on SQLite

SQLite looks up its parameters itself: by number, by exact name, or else by a name that differs in
letter case only. Cells are read in the type of what they hold. A result is taken over whole and
handed out row by row.
-/
namespace PortableSql.Sqlite

/-- A text that has been compiled, with the values bound to its parameters. -/
structure Compiled where
  command : Command
  parameters : ParameterTable
  bindings : List Stored
  deriving DecidableEq, Repr

namespace Compiled

/-- The error for a request that SQLite refuses. -/
def refusal : Error := .refused .sqlite

/-- A text compiled for a database, with nothing bound. -/
def ofSql (db : Database) (sql : String) : Result Compiled :=
  match Command.read? sql with
  | none => .error refusal
  | some (command, parameters) =>
    if (Plan.ofCommand? db command).isSome then
      .ok ⟨command, parameters, List.replicate parameters.count .null⟩
    else .error refusal

/-- The number of a name: of that very name, else of the first that differs in letter case only. -/
def numberOfName? (parameters : ParameterTable) (name : String) : Option Nat :=
  parameters.number? name <|>
    (List.range parameters.count).findSome? fun index =>
      match parameters.name? (index + 1) with
      | some other => if foldAscii other = foldAscii name then some (index + 1) else none
      | none => none

/-- The number of a parameter. A name with a NUL cannot be asked for. -/
def locate (param : Identifier) (c : Compiled) : Result Nat :=
  match param with
  | .position n =>
    if 1 ≤ n ∧ n ≤ c.parameters.count then .ok n else .error (.parameterNotFound param.text)
  | .name name =>
    if name.toList.contains '\x00' then .error refusal
    else
      match numberOfName? c.parameters name with
      | some n => .ok n
      | none => .error (.parameterNotFound name)

/-- Binds a value to the parameter of a number. -/
def bind (n : Nat) (value : Stored) (c : Compiled) : Result Compiled :=
  match OneBased.set? c.bindings n value with
  | some bindings => .ok { c with bindings := bindings }
  | none => .error refusal

end Compiled

/-- The stored form of a value that has arrived in a parameter of its own type. -/
def nativeStored : Value → Stored
  | .int16 n => .integer (.ofInt n.toInt)
  | .int32 n => .integer (.ofInt n.toInt)
  | .int64 n => .integer n
  | .float x => .ofDouble x.widen
  | .double x => .ofDouble x
  | .utf8 text => .text text
  | _ => .null

/-- The stored form of a value. -/
def encode : Value → Result Stored
  | .date d => .ok (.ofDouble (JulianMoment.ofDate d))
  | .time t => .ok (.ofDouble (JulianMoment.ofTime t))
  | .timestamp t => .ok (.ofDouble (JulianMoment.ofTimestamp t))
  | .blob bytes => .ok (.blob bytes)
  | value => (Conversion.land value.kind.naturalType value).map nativeStored

/-- The integer in a cell. -/
def readInteger (cell : Stored) : Result Int64 :=
  match cell with
  | .integer n => .ok n
  | cell => .error (noReading cell .int64)

/-- The real number in a cell. -/
def readReal (cell : Stored) : Result Double :=
  match cell with
  | .real x => .ok x
  | cell => .error (noReading cell .double)

/-- The text in a cell. -/
def readText (cell : Stored) : Result String :=
  match cell with
  | .text text => .ok text
  | cell => .error (noReading cell .utf8)

/-- The readings of what may be a cell. -/
def reader (cell : Result Stored) : CellReader where
  int16 := cell >>= readInteger >>= fun n =>
    (Conversion.intToInt .int64 .int16 n.toInt).map .ofInt
  int32 := cell >>= readInteger >>= fun n =>
    (Conversion.intToInt .int64 .int32 n.toInt).map .ofInt
  int64 := cell >>= readInteger
  float := cell >>= readReal >>= Conversion.floatToFloat .double .float
  double := cell >>= readReal
  text := cell >>= readText

/-- A cell as a value of the wanted kind. -/
def decode (cell : Stored) (kind : ValueKind) : Result Value :=
  match kind with
  | .date => (readDate cell).map .date
  | .time => (readTime cell).map .time
  | .timestamp => (readTimestamp cell).map .timestamp
  | .blob => (readBlob cell).map .blob
  | kind => Conversion.fetch (reader (.ok cell)) cell.valueType kind

/-- A statement. -/
structure Statement where
  /-- The prepared text; nothing after a text was executed directly. -/
  compiled? : Option Compiled
  lastSql? : Option String
  headings : List Heading
  columns : ColumnIndex
  /-- Rows that have not been handed out. -/
  rows : List (List Stored)
  current? : Option (List Stored)
  rowsAffected : Nat
  state : StatementState
  deriving DecidableEq, Repr

namespace Statement

/-- A statement that has done nothing yet. -/
def new : Statement where
  compiled? := none
  lastSql? := none
  headings := []
  columns := .empty
  rows := []
  current? := none
  rowsAffected := 0
  state := .undefined

instance : Inhabited Statement := ⟨new⟩

/-- The statement without rows. -/
def discardRows (s : Statement) : Statement :=
  { s with columns := .empty, rows := [], current? := none, rowsAffected := 0 }

/-- Renders a text and compiles it. -/
def compile (sql : String) (native : Bool) (e : Engine) : Result Compiled × Statement :=
  let s := { new with lastSql? := some sql }
  let text := (renderSql dialect ⟨native, dialect.coalescing⟩ sql).sql
  match Compiled.ofSql e.database text with
  | .error error => (.error error, s)
  | .ok c => (.ok c, { s with headings := c.command.headings e.database })

/-- Runs a compiled text with the values bound so far. Without columns the number of changed rows is
kept, with columns the rows are. -/
def perform (c : Compiled) (s : Statement) (e : Engine) : Result Unit × Statement × Engine :=
  match e.run c.bindings c.command with
  | (none, e) => (.error Compiled.refusal, s, e)
  | (some rows, e) =>
    let affected := if s.headings.isEmpty then e.changes else 0
    let s := { s with rows := rows, current? := none, rowsAffected := affected, state := .executed }
    (.ok (), s, e)

/-- Prepares a text. -/
def prepare (sql : String) (native : Bool) (e : Engine) : Result Unit × Statement × Engine :=
  match compile sql native e with
  | (.error error, s) => (.error error, s, e)
  | (.ok c, s) => (.ok (), { s with compiled? := some c, state := .prepared }, e)

/-- What has been prepared. -/
def requireCompiled (s : Statement) : Result Compiled :=
  match s.compiled? with
  | some c => .ok c
  | none => .error (.sequence .notPrepared)

/-- Runs what has been prepared. The rows of an earlier execution are gone even if it fails. -/
def run (s : Statement) (e : Engine) : Result Unit × Statement × Engine :=
  match s.state.checkPrepared with
  | .error error => (.error error, s, e)
  | .ok _ =>
    let s := s.discardRows
    match s.requireCompiled with
    | .error error => (.error error, s, e)
    | .ok c => s.perform c e

/-- Runs a text with native parameters, all of them NULL. -/
def execute (sql : String) (e : Engine) : Result Unit × Statement × Engine :=
  match compile sql true e with
  | (.error error, s) => (.error error, s, e)
  | (.ok c, s) => s.perform c e

/-- Goes to the next row. -/
def fetch (s : Statement) : Result Bool × Statement :=
  match s.state.checkCanFetch with
  | .error error => (.error error, s)
  | .ok _ =>
    let hasRow := !s.rows.isEmpty
    (.ok hasRow,
      { s with current? := s.rows.head?, rows := s.rows.tail, state := .afterFetch hasRow })

/-- Number of rows that the last execution changed. -/
def affected (s : Statement) : Result Nat := do
  s.state.checkExecuted
  pure s.rowsAffected

/-- Number of the row that the session inserted last. -/
def lastRowId (s : Statement) (e : Engine) : Result Int64 × Engine :=
  (s.state.checkExecuted.map fun _ => e.lastRowId, e)

/-- The largest number of a parameter. -/
def paramsCount (s : Statement) : Result Nat := do
  s.state.checkPrepared
  pure (s.compiled?.elim 0 fun c => c.parameters.count)

/-- Parameters have no declared type. -/
def paramType (param : Identifier) (s : Statement) : Result ValueType := do
  s.state.checkPrepared
  match s.compiled? with
  | some c => (c.locate param).map fun _ => .any
  | none => .error (.parameterNotFound param.text)

/-- Number of columns. -/
def columnsCount (s : Statement) : Result Nat := do
  s.state.checkPrepared
  pure s.headings.length

/-- Name of the column at a position. -/
def columnName (position : Nat) (s : Statement) : Result String := do
  s.state.checkPrepared
  PortableSql.columnName (s.headings.map Heading.name) position

/-- Position of a column. -/
def locate (column : Identifier) (s : Statement) : Result Nat × Statement :=
  let (found, columns) := s.columns.find (m := Id) (.ok (s.headings.map Heading.name)) column
  (found, { s with columns := columns })

/-- The cell at a position of the current row. -/
def cell (position : Nat) (s : Statement) : Result Stored :=
  match s.current?.bind (OneBased.get? · position) with
  | some cell => .ok cell
  | none => .error (.columnNotFound (Text.Decimal.ofNat position))

/-- The type of a column: that of what the current row holds in it, else the declared one. -/
def typeAt (position : Nat) (s : Statement) : ValueType :=
  let declared := typeOfDeclaration ((OneBased.get? s.headings position).bind Heading.declared?)
  if s.state = .fetching then
    match s.cell position with
    | .ok cell => if cell.isNull then declared else cell.valueType
    | .error _ => declared
  else declared

/-- The type of a column. -/
def columnType (column : Identifier) (s : Statement) : Result ValueType × Statement :=
  match s.state.checkPrepared with
  | .error error => (.error error, s)
  | .ok _ =>
    match s.locate column with
    | (.error error, s) => (.error error, s)
    | (.ok position, s) => (.ok (s.typeAt position), s)

/-- Puts the stored form of a value into the parameter of a number. -/
def bind (n : Nat) (value : Stored) (s : Statement) : Result Unit × Statement :=
  match s.requireCompiled >>= Compiled.bind n value with
  | .error error => (.error error, s)
  | .ok c => (.ok (), { s with compiled? := some c })

/-- Binds a value or NULL to a parameter. -/
def setValue (param : Identifier) (value? : Option Value) (s : Statement) :
    Result Unit × Statement :=
  let prepared : Result (Nat × Stored) := do
    s.state.checkPrepared
    let c ← s.requireCompiled
    let n ← c.locate param
    let value ← value?.elim (pure .null) encode
    pure (n, value)
  match prepared with
  | .error error => (.error error, s)
  | .ok (n, value) => s.bind n value

/-- A cell of the current row. -/
def currentCell (column : Identifier) (s : Statement) : Result Stored × Statement :=
  match s.state.checkHasData with
  | .error error => (.error error, s)
  | .ok _ =>
    match s.locate column with
    | (.error error, s) => (.error error, s)
    | (.ok position, s) => (s.cell position, s)

/-- Reads a column of the current row; nothing for NULL. -/
def getValue (column : Identifier) (kind : ValueKind) (s : Statement) :
    Result (Option Value) × Statement :=
  match s.currentCell column with
  | (.error error, s) => (.error error, s)
  | (.ok cell, s) => if cell.isNull then (.ok none, s) else ((decode cell kind).map some, s)

/-- A column of the current row is NULL. -/
def isNull (column : Identifier) (s : Statement) : Result Bool × Statement :=
  match s.currentCell column with
  | (.error error, s) => (.error error, s)
  | (.ok cell, s) => (.ok cell.isNull, s)

/-- The parameter number that a slot of 64 bits is cut down to. -/
def slotNumber (slot : Nat) : Nat :=
  slot % 2 ^ (32 : Nat)

/-- Puts a native value into a slot, without converting it and without looking the slot up. -/
def setSlot (slot : Nat) (value : Value) (s : Statement) : Result Unit × Statement :=
  s.bind (slotNumber slot) (nativeStored value)

/-- Reads a slot of the current row as a value of a native kind. -/
def getSlot (slot : Nat) (kind : ValueKind) (s : Statement) : Result Value :=
  let cell := reader (s.cell slot)
  match kind with
  | .int16 => cell.int16.map .int16
  | .int32 => cell.int32.map .int32
  | .int64 => cell.int64.map .int64
  | .float => cell.float.map .float
  | .double => cell.double.map .double
  | .utf8 => cell.text.map .utf8
  | .utf16 => cell.units.map .utf16
  | kind => .error (.typeConversion ValueType.any.name kind.name)

end Statement

end PortableSql.Sqlite
