import PortableSql.Text.Decimal

/-!
# What can go wrong

`Error` lists the causes for which an operation is refused, and `Error.message` is the one place
that puts them into words.
-/
namespace PortableSql

/-- Database products a session can talk to. -/
inductive Product where
  | postgres
  | sqlite
  | mssql
  deriving DecidableEq, Repr

namespace Product

/-- Short name, as it is written in settings. -/
def name : Product → String
  | postgres => "postgres"
  | sqlite => "sqlite"
  | mssql => "mssql"

/-- The product's own name. -/
def title : Product → String
  | postgres => "PostgreSQL"
  | sqlite => "SQLite"
  | mssql => "SQL Server"

/-- The product with the given short name. -/
def ofName? (text : String) : Option Product :=
  [postgres, sqlite, mssql].find? (·.name == text)

end Product

/-- Ways for a value to lie outside the range of the place it is meant for. -/
inductive RangeFault where
  /-- A number does not fit the target type, whose ends are given. -/
  | number (shown source target least greatest : String)
  /-- A Julian day has no date whose year fits. -/
  | julianDay (shown : String) (least greatest : Int)
  /-- A date or time has no form on the server's wire. -/
  | wire (shown : String) (server : Product)
  deriving DecidableEq, Repr

/-- Calls made in the wrong state of a statement, a transaction or a connection. -/
inductive SequenceFault where
  | notPrepared
  | notExecuted
  | noRow
  | pastEnd
  | transactionNotStarted
  | transactionStarted
  | transactionOpen
  deriving DecidableEq, Repr

/-- Rows that cannot be added to a bulk copy. -/
inductive CopyFault where
  | width (given expected : Nat)
  | tooManyColumns
  | fieldTooLarge
  | nothingEncoded
  deriving DecidableEq, Repr

/-- Reasons why no session comes about. -/
inductive ConnectionFault where
  | unreachable
  | unresolved
  | refused
  deriving DecidableEq, Repr

/-- Causes for which an operation is refused. -/
inductive Error where
  | rangeExceeded (fault : RangeFault)
  | typeConversion (source target : String)
  | parameterNotFound (shown : String)
  | columnNotFound (shown : String)
  | sequence (fault : SequenceFault)
  | valueIsNull (column : String)
  | missingOption (field : String)
  | connection (fault : ConnectionFault)
  /-- The session has generated no key. -/
  | noIdentity
  /-- The database itself refused the request. -/
  | refused (server : Product)
  | copy (fault : CopyFault)
  /-- A caller's own reason. -/
  | other (reason : String)
  deriving DecidableEq, Repr

/-- Wording of a range fault. -/
def RangeFault.message : RangeFault → String
  | number shown source target least greatest =>
    s!"Value {shown} of type {source} exceeds range for type {target} ({least} ... {greatest})"
  | julianDay shown least greatest =>
    let low := Text.Decimal.ofInt least
    let high := Text.Decimal.ofInt greatest
    s!"Julian day {shown} exceeds range for type date ({low} ... {high})"
  | wire shown server =>
    let title := server.title
    s!"{shown} is out of range for {title}"

/-- Wording of a call in the wrong state. -/
def SequenceFault.message : SequenceFault → String
  | notPrepared => "Statement is not prepared"
  | notExecuted => "Statement is not executed"
  | noRow => "Statement doesn't contain data"
  | pastEnd => "Fetch after data end"
  | transactionNotStarted => "Transaction is not started"
  | transactionStarted => "Transaction is already started"
  | transactionOpen => "Connection already has an active transaction"

/-- Wording of a refused copy row. -/
def CopyFault.message : CopyFault → String
  | width given expected =>
    let given := Text.Decimal.ofNat given
    let expected := Text.Decimal.ofNat expected
    s!"Copy row has {given} values, expected {expected}"
  | tooManyColumns => "Too many columns for COPY"
  | fieldTooLarge => "Copy field too large"
  | nothingEncoded => "value encoded to nothing"

/-- Wording of a failed connection attempt. -/
def ConnectionFault.message : ConnectionFault → String
  | unreachable => "the server cannot be reached"
  | unresolved => "the server name does not resolve"
  | refused => "the server refused the session"

/-- What the user is told. -/
def Error.message : Error → String
  | rangeExceeded fault => fault.message
  | typeConversion source target => s!"Can't convert from {source} to {target}"
  | parameterNotFound shown => s!"Parameter not found: {shown}"
  | columnNotFound shown => s!"Column not found: {shown}"
  | sequence fault => fault.message
  | valueIsNull column => s!"Column value is null: {column}"
  | missingOption field => s!"Configuration error: {field} is required"
  | connection fault =>
    let reason := fault.message
    s!"Connection error: {reason}"
  | noIdentity => "SQL execution error: no identity value was generated on this session"
  | refused server =>
    let title := server.title
    s!"{title} refused the request"
  | copy fault =>
    let reason := fault.message
    s!"Other database error: {reason}"
  | other reason => s!"Other database error: {reason}"

/-- Result of an operation that can be refused. -/
abbrev Result := Except Error

end PortableSql
