import PortableSql.Sqlite.Options
import PortableSql.Sqlite.Statement
import PortableSql.Transaction.Basic

/-!
# Handles

A handle is a database that has been opened. When it is closed a file keeps what has been committed,
and a database without a file is gone.
-/
namespace PortableSql.Sqlite

/-- A database that has been opened. -/
structure Handle where
  options : Options
  engine : Engine
  deriving DecidableEq, Repr

namespace Handle

/-- A new database; its file cannot be made where there is no directory for it. -/
def create (options : Options) (hasDirectory : Bool) : Result Handle :=
  if options.isInMemory || hasDirectory then .ok ⟨options, .ofDatabase []⟩
  else .error (.connection .unreachable)

/-- The database after it has been closed and opened again. -/
def reopen (h : Handle) : Handle :=
  { h with engine := .ofDatabase (if h.options.isInMemory then [] else h.engine.committed) }

/-- How the database keeps its journal. -/
def journalMode (h : Handle) : String :=
  if h.options.isInMemory then "memory" else if h.options.wal then "wal" else "delete"

/-- Lets the engine act. -/
def onEngine {α S : Type} (act : Engine → Result α × S × Engine) (h : Handle) :
    Result α × S × Handle :=
  let (answer, s, engine) := act h.engine
  (answer, s, { h with engine := engine })

/-- Runs a text without results. -/
def batch (sql : String) (h : Handle) : Result Unit × Handle :=
  let (answer, _, h) := h.onEngine (Statement.execute sql)
  (answer, h)

/-- How transactions are controlled. Their levels are not told apart. -/
def control : TransactionControl Handle where
  batch := batch
  begin _ := "BEGIN"
  afterBegin? _ := none
  commit := "COMMIT"
  rollback := "ROLLBACK"

/-- What statements on a handle can do. -/
def statements : StatementInterface Handle Statement where
  new := .new
  state := Statement.state
  lastSql? := Statement.lastSql?
  prepare sql native _ h := h.onEngine (Statement.prepare sql native)
  run s h := h.onEngine s.run
  execute sql _ h := h.onEngine (Statement.execute sql)
  fetch := Statement.fetch
  rowsAffected := Statement.affected
  lastRowId s h := ((s.lastRowId h.engine).1, h)
  paramsCount := Statement.paramsCount
  paramType := Statement.paramType
  columnsCount := Statement.columnsCount
  columnName := Statement.columnName
  columnType := Statement.columnType
  setValue := Statement.setValue
  getValue := Statement.getValue
  isNull := Statement.isNull

end Handle

end PortableSql.Sqlite
