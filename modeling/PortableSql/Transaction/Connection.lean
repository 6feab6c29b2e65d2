import PortableSql.Transaction.Basic

/-!
# Connections

A connection is a link and the mark that a transaction is open on it. The mark is set before the
transaction is started and cleared when the transaction is dropped, so there is never more than one.
-/
namespace PortableSql

/-- A link, and whether a transaction is open on it. -/
structure Connection (σ : Type) where
  link : σ
  inTransaction : Bool
  deriving DecidableEq, Repr

namespace Connection

variable {σ : Type} (control : TransactionControl σ)

/-- A connection without a transaction. -/
def ofLink (link : σ) : Connection σ := ⟨link, false⟩

/-- Drops a transaction and clears its mark. -/
def closeTransaction (tx : Transaction) (conn : Connection σ) : Connection σ :=
  ⟨tx.drop control conn.link, false⟩

/-- Opens a transaction and starts it if its parameters say so. A transaction that cannot be started
is dropped. -/
def openTransaction (params : TransactionParams) (conn : Connection σ) :
    Result Transaction × Connection σ :=
  if conn.inTransaction then (.error (.sequence .transactionOpen), conn)
  else if params.autostart then
    match (Transaction.new params).start control conn.link with
    | (.ok _, tx, link) => (.ok tx, ⟨link, true⟩)
    | (.error e, tx, link) => (.error e, closeTransaction control tx ⟨link, true⟩)
  else (.ok (Transaction.new params), ⟨conn.link, true⟩)

end Connection

end PortableSql
