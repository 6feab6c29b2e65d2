import PortableSql.Error

/-!
# The life of a transaction

A transaction may be started, ended and started again.
-/
namespace PortableSql

/-- Where a transaction is in its life. -/
inductive TransactionState where
  | undefined
  | started
  | committed
  | rolledBack
  deriving DecidableEq, Repr

namespace TransactionState

/-- All states. -/
def all : List TransactionState := [undefined, started, committed, rolledBack]

/-- Name of the state. -/
def name : TransactionState → String
  | undefined => "Undefined"
  | started => "Started"
  | committed => "Committed"
  | rolledBack => "RolledBack"

/-- The transaction runs. -/
def isStarted (s : TransactionState) : Bool :=
  s == started

/-- Refused unless the transaction runs. -/
def checkStarted (s : TransactionState) : Result Unit :=
  if s.isStarted then .ok () else .error (.sequence .transactionNotStarted)

/-- Refused while the transaction runs. -/
def checkNotStarted (s : TransactionState) : Result Unit :=
  if s.isStarted then .error (.sequence .transactionStarted) else .ok ()

end TransactionState

end PortableSql
