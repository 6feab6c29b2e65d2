import PortableSql.Error
import PortableSql.Sql.Rendering

/-!
# The parameters of a prepared text

`Placeholders` is what a statement remembers of the last text it rendered: the slots behind every
identifier, or, when the text had native parameters, that positions are slots themselves.
-/
namespace PortableSql

/-- The parameters of the text rendered last. -/
structure Placeholders where
  /-- Positions are native slots, and there are no names. -/
  passThrough : Bool
  slots : SlotMap
  deriving DecidableEq, Repr

namespace Placeholders

/-- Before the first text. -/
def initial : Placeholders := ⟨false, .empty⟩

instance : Inhabited Placeholders := ⟨initial⟩

/-- The parameters of a text, and the text rendered. -/
def prepare (dialect : Dialect) (native : Bool) (coalescing : Bool) (sql : String) :
    Placeholders × String :=
  let out := renderSql dialect ⟨native, coalescing⟩ sql
  (⟨native, out.slots⟩, out.sql)

/-- Slots behind an identifier, in order of occurrence. -/
def slotsOf (p : Placeholders) (id : Identifier) : Result (List Nat) :=
  if p.passThrough then
    match id with
    | .position n => .ok [n]
    | .name _ => .error (.parameterNotFound id.text)
  else
    match p.slots.get? id with
    | some slots => .ok slots
    | none => .error (.parameterNotFound id.text)

/-- Visits every slot behind an identifier in order, up to the first error. -/
def forSlots {m : Type → Type} [Monad m] (p : Placeholders) (id : Identifier)
    (visit : Nat → ExceptT Error m Unit) : ExceptT Error m Unit :=
  match p.slotsOf id with
  | .ok slots => slots.forM visit
  | .error e => throw e

end Placeholders

end PortableSql
