import PortableSql.SqlServer.Cells
import PortableSql.SqlServer.ColumnType
import PortableSql.Transaction.Basic

/-!
# Requests to a SQL Server

A `Link` is a server as seen from its session: for every request it gives the answer and the state
that follows. No answer means that the server refused the request or is gone. What a session asks
about itself is asked in requests of their own.
-/
namespace PortableSql.SqlServer

/-- One result: its columns and its rows. -/
structure ResultSet where
  columns : List (String × ColumnType)
  rows : List Cells
  deriving DecidableEq, Repr

/-- The answers of a server whose state is `σ`. -/
structure Link (σ : Type) where
  /-- Runs a text without parameters. -/
  batch : String → σ → Option (List ResultSet) × σ
  /-- Runs a text with parameters. -/
  query : String → Cells → σ → Option (List ResultSet) × σ

/-- The answer, or the error for a refusal. -/
def orRefused {α : Type} : Option α × σ → Result α × σ
  | (some answer, s) => (.ok answer, s)
  | (none, s) => (.error (.refused .mssql), s)

namespace Link

variable {σ : Type} (server : Link σ)

/-- The statements that begin a transaction: its level if it has one, and how many milliseconds to
wait for locks. The access is not sent. -/
def beginSql (p : TransactionParams) : String :=
  let level := match p.level.keyword? with
    | some keyword => s!"SET TRANSACTION ISOLATION LEVEL {keyword}; "
    | none => ""
  let millis := Text.Decimal.ofNat p.effectiveLockTimeout.milliseconds
  s!"{level}SET LOCK_TIMEOUT {millis}; BEGIN TRANSACTION"

/-- How transactions are controlled. -/
def control : TransactionControl σ where
  batch sql s :=
    let (answer, s) := orRefused (server.batch sql s)
    (answer.map fun _ => (), s)
  begin := beginSql
  afterBegin? _ := none
  commit := "COMMIT TRANSACTION"
  rollback := "ROLLBACK TRANSACTION"

/-- Runs a text with its parameters. -/
def send (sql : String) (params : Cells) (s : σ) : Result (List ResultSet) × σ :=
  orRefused (if params.isEmpty then server.batch sql s else server.query sql params s)

/-- Text that asks how many rows the session changed last. -/
def rowCountSql : String := "SELECT @@ROWCOUNT"

/-- Text that asks for the key that the session generated last. -/
def identitySql : String := "SELECT CAST(@@IDENTITY AS BIGINT)"

/-- The first row of the first result. -/
def firstRow? : List ResultSet → Option Cells
  | set :: _ => set.rows.head?
  | [] => none

/-- A count in a cell of the two types it may have; nothing for NULL. -/
def countOf : Cell → Result (Option Int)
  | .value (.int n) => .ok (some n.toInt)
  | .value (.smallint n) => .ok (some n.toInt)
  | .null .int | .null .smallint => .ok none
  | _ => .error (.refused .mssql)

/-- A key in a cell; nothing for NULL. -/
def identityOf : Cell → Result (Option Int64)
  | .value (.bigint n) => .ok (some n)
  | .null .bigint => .ok none
  | _ => .error (.refused .mssql)

/-- Reads the first cell of the first row; nothing if there is no row. -/
def scalarOf {α : Type} (read : Cell → Result (Option α)) (sets : List ResultSet) :
    Result (Option α) :=
  match firstRow? sets with
  | none => .ok none
  | some (cell :: _) => read cell
  | some [] => .error (.refused .mssql)

/-- Asks for one value. -/
def scalar {α : Type} (sql : String) (read : Cell → Result (Option α)) (s : σ) :
    Result (Option α) × σ :=
  let (answer, s) := orRefused (server.batch sql s)
  (answer >>= scalarOf read, s)

/-- Number of rows that the session changed last; zero if the server does not say. -/
def rowCount (s : σ) : Result Nat × σ :=
  let (answer, s) := server.scalar rowCountSql countOf s
  (answer.map fun count? => (count?.getD 0).toNat, s)

/-- The key that the session generated last. -/
def identity (s : σ) : Result Int64 × σ :=
  let (answer, s) := server.scalar identitySql identityOf s
  (answer >>= fun id? =>
    match id? with
    | some id => .ok id
    | none => .error .noIdentity, s)

end Link

end PortableSql.SqlServer
