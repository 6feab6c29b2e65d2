/-!
# Servers that answer from a playbook

A playbook lists, for every text a server may be sent, the answers it gives one after another. The
last answer of a text repeats. A `Playhead` says how many answers of every text have been given.
-/
namespace PortableSql

/-- Number of answers given so far, for every text that was asked about. -/
abbrev Playhead := List (String × Nat)

namespace Playhead

/-- Number of answers that a text has had. -/
def given (head : Playhead) (sql : String) : Nat :=
  ((head.find? (·.1 == sql)).map (·.2)).getD 0

/-- One more answer of a text has been given. -/
def advance (sql : String) : Playhead → Playhead
  | [] => [(sql, 1)]
  | (name, n) :: rest =>
    if name == sql then (name, n + 1) :: rest else (name, n) :: advance sql rest

/-- The answer whose turn it is: the next one, or the last one again. -/
def answer? {α : Type} (head : Playhead) (sql : String) (answers : List α) : Option α :=
  match answers[head.given sql]? with
  | some answer => some answer
  | none => answers.getLast?

end Playhead

end PortableSql
