import PortableSql.Sql.Identifier

/-!
# Dialects

A dialect says how a database product wants placeholders and key templates to be written.
-/
namespace PortableSql

/-- How placeholders and templates are rendered. -/
structure Dialect where
  /-- A placeholder by position: its text as written, and its slot. -/
  position : (text : List Char) → (slot : Nat) → List Char
  /-- A placeholder by name: its text as written, and its slot. -/
  name : (text : List Char) → (slot : Nat) → List Char
  /-- The key column of an insert: the rendered column, and the text up to the closing brace. -/
  ifSeq : (data other : List Char) → List Char
  /-- The next key of a sequence: the sequence name, and the text up to the closing brace. -/
  next : (sequence other : List Char) → List Char
  /-- A repeated identifier takes its first slot again. -/
  coalescing : Bool

namespace Dialect

/-- What a dialect is asked to write. -/
inductive Call where
  /-- The placeholder of a parameter: its text as written, and its slot. -/
  | parameter (id : Identifier) (text : List Char) (slot : Nat)
  | ifSeq (data other : List Char)
  | next (sequence other : List Char)
  deriving DecidableEq, Repr

/-- What the dialect writes. -/
def write (dialect : Dialect) : Call → List Char
  | .parameter (.position _) text slot => dialect.position text slot
  | .parameter (.name _) text slot => dialect.name text slot
  | .ifSeq data other => dialect.ifSeq data other
  | .next sequence other => dialect.next sequence other

/-- The identifier and the slot that a call is about, if it is about a parameter. -/
def Call.placement? : Call → Option (Identifier × Nat)
  | .parameter id _ slot => some (id, slot)
  | _ => none

end Dialect

end PortableSql
