import PortableSql.Postgres.Copy
import PortableSql.Transaction.Basic

/-!
# Requests to a PostgreSQL server

A `Link` is a server as seen from its session: for every kind of request it gives the answer and the
state that follows. No answer means that the server refused the request or is gone.
-/
namespace PortableSql.Postgres

/-- What the server says about a text it has prepared. -/
structure Prepared where
  sql : String
  /-- Type numbers of the parameters. -/
  params : List Nat
  /-- Names and type numbers of the columns. -/
  columns : List (String × Nat)
  deriving DecidableEq, Repr

/-- What the server says about a statement it has run. -/
structure Completed where
  rows : List Cells
  /-- Number of rows changed, for a statement without columns. -/
  affected : Nat
  deriving DecidableEq, Repr

/-- The answers of a server whose state is `σ`. -/
structure Link (σ : Type) where
  /-- Runs a text without parameters and without results. -/
  batch : String → σ → Option Unit × σ
  prepare : String → σ → Option Prepared × σ
  run : Prepared → Cells → σ → Option Completed × σ
  /-- Runs a text that asks for a copy payload. -/
  startCopy : Prepared → σ → Option Unit × σ
  /-- Takes the payload and says how many rows it had. -/
  finishCopy : Prepared → Bytes → σ → Option Nat × σ

namespace Link

variable {σ : Type} (server : Link σ)

/-- The answer, or the error for a refusal. -/
def orRefused {α : Type} : Option α × σ → Result α × σ
  | (some answer, s) => (.ok answer, s)
  | (none, s) => (.error (.refused .postgres), s)

/-- The statement that begins a transaction. -/
def beginSql (p : TransactionParams) : String :=
  let level := match p.level.keyword? with
    | some keyword => s!" ISOLATION LEVEL {keyword}"
    | none => ""
  let access := match p.access with
    | .read => " READ ONLY"
    | .readWrite => " READ WRITE"
  s!"BEGIN TRANSACTION{level}{access}"

/-- The statement that sets how long to wait for locks: a millisecond instead of not at all, else
whole seconds. -/
def lockTimeoutSql (p : TransactionParams) : String :=
  match p.lockResolution with
  | .noWait => "SET LOCAL lock_timeout = '1ms'"
  | .wait =>
    let seconds := Text.Decimal.ofNat p.lockTimeout.seconds
    s!"SET LOCAL lock_timeout = '{seconds}s'"

/-- How transactions are controlled. -/
def control : TransactionControl σ where
  batch sql s := orRefused (server.batch sql s)
  begin := beginSql
  afterBegin? p := some (lockTimeoutSql p)
  commit := "COMMIT"
  rollback := "ROLLBACK"

/-- Sends a copy payload and says how many rows were copied. -/
def copyIn (sql : String) (buffer : CopyBuffer) (s : σ) : Result Nat × σ :=
  match server.prepare sql s with
  | (none, s) => (.error (.refused .postgres), s)
  | (some prepared, s) =>
    if prepared.params.isEmpty then
      match server.startCopy prepared s with
      | (none, s) => (.error (.refused .postgres), s)
      | (some _, s) => orRefused (server.finishCopy prepared buffer.payload s)
    else (.error (.refused .postgres), s)

/-- Sends a copy payload within a transaction, which must be running. -/
def copyInTransaction (tx : Transaction) (sql : String) (buffer : CopyBuffer) (s : σ) :
    Result Nat × σ :=
  match tx.state.checkStarted with
  | .error e => (.error e, s)
  | .ok _ => server.copyIn sql buffer s

/-- The text that asks for the key generated last. -/
def lastValueSql : String := "SELECT lastval()"

/-- The single 64-bit integer of a result. -/
def scalar? (prepared : Prepared) (completed : Completed) : Option Int64 :=
  match prepared.columns, completed.rows with
  | (_, oid) :: _, [some bytes :: _] =>
    if oid = bigintOid ∧ bytes.length = IntType.int64.size then
      (IntType.int64.readBytes bytes).toOption.map .ofInt
    else none
  | _, _ => none

/-- The key that the session generated last. -/
def lastValue (s : σ) : Result Int64 × σ :=
  match server.prepare lastValueSql s with
  | (none, s) => (.error (.refused .postgres), s)
  | (some prepared, s) =>
    if prepared.params.isEmpty then
      match server.run prepared [] s with
      | (none, s) => (.error (.refused .postgres), s)
      | (some completed, s) => orRefused (scalar? prepared completed, s)
    else (.error (.refused .postgres), s)

end Link

end PortableSql.Postgres
