import PortableSql.Text.Decimal

/-!
# What a transaction is opened with

Access, isolation level, and how long to wait for a lock. The defaults are those of a transaction
that is opened without further settings.
-/
namespace PortableSql

/-- Whether a transaction writes. -/
inductive TransactionAccess where
  | read
  | readWrite
  deriving DecidableEq, Repr

/-- Isolation from other transactions. -/
inductive TransactionLevel where
  /-- Whatever the server is set up with. -/
  | default
  | serializable
  | repeatableRead
  | readCommitted
  | dirtyRead
  deriving DecidableEq, Repr

/-- What happens when a lock is taken. -/
inductive LockResolution where
  | wait
  | noWait
  deriving DecidableEq, Repr

namespace TransactionAccess

/-- Both kinds of access. -/
def all : List TransactionAccess := [read, readWrite]

/-- Name of the access. -/
def name : TransactionAccess → String
  | read => "Read"
  | readWrite => "ReadWrite"

end TransactionAccess

namespace LockResolution

/-- Both resolutions. -/
def all : List LockResolution := [wait, noWait]

/-- Name of the resolution. -/
def name : LockResolution → String
  | wait => "Wait"
  | noWait => "NoWait"

end LockResolution

/-- A span of time: whole seconds, and nanoseconds below one second. -/
structure Duration where
  seconds : Nat
  nanoseconds : Nat
  deriving DecidableEq, Repr

namespace Duration

/-- No time at all. -/
def zero : Duration := ⟨0, 0⟩

/-- Seconds and any number of nanoseconds. -/
def ofParts (seconds nanoseconds : Nat) : Duration :=
  ⟨seconds + nanoseconds / 1000000000, nanoseconds % 1000000000⟩

/-- Whole milliseconds. -/
def milliseconds (d : Duration) : Nat :=
  d.seconds * 1000 + d.nanoseconds / 1000000

end Duration

/-- What a transaction is opened with. -/
structure TransactionParams where
  access : TransactionAccess
  level : TransactionLevel
  lockResolution : LockResolution
  lockTimeout : Duration
  /-- The transaction starts when it is opened. -/
  autostart : Bool
  /-- A transaction that is dropped while it runs is committed, otherwise rolled back. -/
  autoCommitOnDrop : Bool
  deriving DecidableEq, Repr

namespace TransactionParams

/-- A transaction that reads and writes, waits a second for locks, starts by itself and is
committed in the end. -/
def default : TransactionParams :=
  ⟨.readWrite, .default, .wait, ⟨1, 0⟩, true, true⟩

instance : Inhabited TransactionParams := ⟨default⟩

/-- How long to wait for a lock. -/
def effectiveLockTimeout (p : TransactionParams) : Duration :=
  match p.lockResolution with
  | .wait => p.lockTimeout
  | .noWait => .zero

end TransactionParams

namespace TransactionLevel

/-- All levels. -/
def all : List TransactionLevel :=
  [default, serializable, repeatableRead, readCommitted, dirtyRead]

/-- Name of the level. -/
def name : TransactionLevel → String
  | default => "Default"
  | serializable => "Serializable"
  | repeatableRead => "RepeatableRead"
  | readCommitted => "ReadCommitted"
  | dirtyRead => "DirtyRead"

/-- Name of the level in statements that set it; the default has none. -/
def keyword? : TransactionLevel → Option String
  | default => none
  | serializable => some "SERIALIZABLE"
  | repeatableRead => some "REPEATABLE READ"
  | readCommitted => some "READ COMMITTED"
  | dirtyRead => some "READ UNCOMMITTED"

end TransactionLevel

end PortableSql
