import PortableSql.Statement.Interface
import PortableSql.Transaction.Connection

/-!
# What a session needs to know about a product

A `Backend` puts together how a product is talked to, how its transactions are controlled and what
its statements can do, so that a session is the same for all products.
-/
namespace PortableSql

/-- A product with the state of the link to it. -/
structure Backend where
  /-- State of the link. -/
  Link : Type
  Statement : Type
  product : Product
  /-- Keys come from sequences, not from inserting. -/
  supportsSequences : Bool
  control : TransactionControl Link
  statements : StatementInterface Link Statement
  /-- How a connection is shown. -/
  describe : Connection Link → String

end PortableSql
