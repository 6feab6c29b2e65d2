import PortableSql.Session.Backend

/-!
# Sessions

A session is a connection, the transaction that is open on it, and the statements of that
transaction, each under a name of the caller's. Closing the transaction drops its statements.
-/
namespace PortableSql

/-- A session with a product. -/
structure Session (b : Backend) where
  connection : Connection b.Link
  transaction? : Option Transaction
  statements : List (String × b.Statement)

namespace Session

variable {b : Backend}

/-- A session without a transaction. -/
def ofLink (link : b.Link) : Session b :=
  ⟨.ofLink link, none, []⟩

/-- How the session is shown. -/
def describe (s : Session b) : String :=
  b.describe s.connection

/-- The session with another link. -/
def withLink (link : b.Link) (s : Session b) : Session b :=
  { s with connection := { s.connection with link := link } }

/-- Opens a transaction. -/
def openTransaction (params : TransactionParams) (s : Session b) : Result Unit × Session b :=
  match s.connection.openTransaction b.control params with
  | (.ok tx, connection) => (.ok (), { s with connection := connection, transaction? := some tx })
  | (.error e, connection) => (.error e, { s with connection := connection })

/-- Drops the statements and then the transaction, if there is one. -/
def closeTransaction (s : Session b) : Session b :=
  match s.transaction? with
  | some tx => ⟨s.connection.closeTransaction b.control tx, none, []⟩
  | none => s

/-- Acts on the transaction; refused if there is none. -/
def onTransaction {α : Type} (act : Transaction → b.Link → Result α × Transaction × b.Link)
    (s : Session b) : Result α × Session b :=
  match s.transaction? with
  | none => (.error (.sequence .transactionNotStarted), s)
  | some tx =>
    let (answer, tx, link) := act tx s.connection.link
    (answer, { s.withLink link with transaction? := some tx })

/-- Starts the transaction. -/
def start (s : Session b) : Result Unit × Session b :=
  s.onTransaction fun tx link => tx.start b.control link

/-- Commits the transaction. -/
def commit (s : Session b) : Result Unit × Session b :=
  s.onTransaction fun tx link => tx.commit b.control link

/-- Rolls the transaction back. -/
def rollback (s : Session b) : Result Unit × Session b :=
  s.onTransaction fun tx link => tx.rollback b.control link

/-- Commits the transaction and starts it again. -/
def commitAndStart (s : Session b) : Result Unit × Session b :=
  s.onTransaction fun tx link => tx.commitAndStart b.control link

/-- Rolls the transaction back and starts it again. -/
def rollbackAndStart (s : Session b) : Result Unit × Session b :=
  s.onTransaction fun tx link => tx.rollbackAndStart b.control link

/-- Runs a text once in a statement of its own. -/
def executeImmediate (sql : String) (s : Session b) : Result Unit × Session b :=
  let (answer, _, link) := b.statements.execute sql b.statements.new s.connection.link
  (answer, s.withLink link)

/-- The statement with a name; a new one if there is none yet. -/
def statement (name : String) (s : Session b) : b.Statement :=
  ((s.statements.find? (·.1 == name)).map (·.2)).getD b.statements.new

/-- The session with a statement under a name. -/
def setStatement (name : String) (statement : b.Statement) (s : Session b) : Session b :=
  let others := s.statements.filter (·.1 != name)
  { s with statements := (name, statement) :: others }

/-- Prepares a text in a new statement, which takes the name if that succeeds. -/
def prepareNew (name sql : String) (s : Session b) : Result Unit × Session b :=
  let (answer, statement, link) :=
    b.statements.prepare sql false b.statements.new s.connection.link
  let s := s.withLink link
  match answer with
  | .ok _ => (.ok (), s.setStatement name statement)
  | .error e => (.error e, s)

/-- Acts on the statement with a name and on the link. -/
def onStatement {α : Type} (name : String)
    (act : b.Statement → b.Link → Result α × b.Statement × b.Link) (s : Session b) :
    Result α × Session b :=
  let (answer, statement, link) := act (s.statement name) s.connection.link
  (answer, (s.withLink link).setStatement name statement)

/-- Acts on the statement with a name alone. -/
def onStatementAlone {α : Type} (name : String) (act : b.Statement → Result α × b.Statement)
    (s : Session b) : Result α × Session b :=
  let (answer, statement) := act (s.statement name)
  (answer, s.setStatement name statement)

end Session

end PortableSql
