import PortableSql.Transaction.Params
import PortableSql.Transaction.State

/-!
# Transactions over a link

A `TransactionControl` says how a product is told to begin and end a transaction, and how a
statement without results is sent to it. A `Transaction` remembers which of these requests were
accepted. It ends when it is dropped: one that still runs is committed or rolled back, as its
parameters say.
-/
namespace PortableSql

/-- How transactions are controlled on a link whose state is `σ`. -/
structure TransactionControl (σ : Type) where
  /-- Sends a statement without results. -/
  batch : String → σ → Result Unit × σ
  begin : TransactionParams → String
  /-- A setting that is sent once the transaction has begun. -/
  afterBegin? : TransactionParams → Option String
  commit : String
  rollback : String

/-- A transaction: what it was opened with, and where it is in its life. -/
structure Transaction where
  params : TransactionParams
  state : TransactionState
  deriving DecidableEq, Repr

namespace Transaction

variable {σ : Type} (control : TransactionControl σ)

/-- A transaction that has not been started. -/
def new (params : TransactionParams) : Transaction := ⟨params, .undefined⟩

/-- Ends a running transaction by a statement; when it is accepted the transaction is in the given
state. -/
def finish (sql : String) (state : TransactionState) (tx : Transaction) (link : σ) :
    Result Unit × Transaction × σ :=
  match tx.state.checkStarted with
  | .error e => (.error e, tx, link)
  | .ok _ =>
    match control.batch sql link with
    | (.error e, link) => (.error e, tx, link)
    | (.ok _, link) => (.ok (), { tx with state := state }, link)

/-- Commits a running transaction. -/
def commit (tx : Transaction) (link : σ) : Result Unit × Transaction × σ :=
  tx.finish control control.commit .committed link

/-- Rolls back a running transaction. -/
def rollback (tx : Transaction) (link : σ) : Result Unit × Transaction × σ :=
  tx.finish control control.rollback .rolledBack link

/-- Sends the setting that belongs to a transaction just begun. When it is refused the transaction
is rolled back. -/
def configure (tx : Transaction) (link : σ) : Result Unit × Transaction × σ :=
  match control.afterBegin? tx.params with
  | none => (.ok (), tx, link)
  | some sql =>
    match control.batch sql link with
    | (.ok _, link) => (.ok (), tx, link)
    | (.error e, link) =>
      match tx.rollback control link with
      | (.ok _, tx, link) => (.error e, tx, link)
      | (.error e', tx, link) => (.error e', tx, link)

/-- Starts a transaction that is not running. -/
def start (tx : Transaction) (link : σ) : Result Unit × Transaction × σ :=
  match tx.state.checkNotStarted with
  | .error e => (.error e, tx, link)
  | .ok _ =>
    match control.batch (control.begin tx.params) link with
    | (.error e, link) => (.error e, tx, link)
    | (.ok _, link) => configure control { tx with state := .started } link

/-- Starts the transaction again after a step that ended it. -/
def thenStart (ended : Result Unit × Transaction × σ) : Result Unit × Transaction × σ :=
  match ended with
  | (.error e, tx, link) => (.error e, tx, link)
  | (.ok _, tx, link) => tx.start control link

/-- Commits a running transaction and starts it again. -/
def commitAndStart (tx : Transaction) (link : σ) : Result Unit × Transaction × σ :=
  thenStart control (tx.commit control link)

/-- Rolls back a running transaction and starts it again. -/
def rollbackAndStart (tx : Transaction) (link : σ) : Result Unit × Transaction × σ :=
  thenStart control (tx.rollback control link)

/-- Ends a transaction for good; one that still runs is committed or rolled back, and a refusal is
ignored. -/
def drop (tx : Transaction) (link : σ) : σ :=
  if tx.state.isStarted then
    if tx.params.autoCommitOnDrop then (tx.commit control link).2.2
    else (tx.rollback control link).2.2
  else link

end Transaction

end PortableSql
