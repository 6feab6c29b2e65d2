import PortableSql.Error

/-!
# The life of a statement

A statement is prepared, executed, read row by row and at last exhausted. Each call is allowed in
some of these states only.
-/
namespace PortableSql

/-- Where a statement is in its life. -/
inductive StatementState where
  | undefined
  | prepared
  /-- Executed, with no row read yet. -/
  | executed
  /-- On a row. -/
  | fetching
  /-- Past the last row. -/
  | exhausted
  deriving DecidableEq, Repr

namespace StatementState

/-- All states. -/
def all : List StatementState := [undefined, prepared, executed, fetching, exhausted]

/-- Name of the state. -/
def name : StatementState → String
  | undefined => "Undefined"
  | prepared => "Prepared"
  | executed => "Executed"
  | fetching => "Fetching"
  | exhausted => "Exhausted"

/-- Something has been prepared or executed. -/
def checkPrepared : StatementState → Result Unit
  | undefined => .error (.sequence .notPrepared)
  | _ => .ok ()

/-- The statement has been executed. -/
def checkExecuted : StatementState → Result Unit
  | executed | fetching | exhausted => .ok ()
  | _ => .error (.sequence .notExecuted)

/-- The statement is on a row. -/
def checkHasData : StatementState → Result Unit
  | fetching => .ok ()
  | _ => .error (.sequence .noRow)

/-- There may be another row. -/
def checkCanFetch : StatementState → Result Unit
  | executed | fetching => .ok ()
  | exhausted => .error (.sequence .pastEnd)
  | _ => .error (.sequence .notExecuted)

/-- The state after an attempt to read a row. -/
def afterFetch (hasRow : Bool) : StatementState :=
  if hasRow then fetching else exhausted

theorem checkPrepared_of_ne {state : StatementState} (h : state ≠ undefined) :
    state.checkPrepared = .ok () := by
  cases state <;> first | rfl | exact absurd rfl h

theorem afterFetch_ne_undefined (hasRow : Bool) : afterFetch hasRow ≠ undefined := by
  cases hasRow <;> decide

end StatementState

end PortableSql
