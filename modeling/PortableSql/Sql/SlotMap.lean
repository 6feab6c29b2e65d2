import PortableSql.Sql.Identifier

/-!
# Slots of parameters

Rendered SQL has numbered slots, counted from one. `SlotMap` records which slots each identifier
occupies, in the order of the identifiers' first occurrences, with one slot per occurrence.
-/
namespace PortableSql

/-- The slots of each identifier, and how many slots there are. -/
structure SlotMap where
  entries : List (Identifier × List Nat)
  nativeCount : Nat
  deriving DecidableEq, Repr

namespace SlotMap

/-- No parameters yet. -/
def empty : SlotMap := ⟨[], 0⟩

instance : Inhabited SlotMap := ⟨empty⟩

/-- Slots of an identifier, one per occurrence. -/
def get? (map : SlotMap) (id : Identifier) : Option (List Nat) :=
  (map.entries.find? fun entry => entry.1.same id).map (·.2)

/-- Adds a slot behind the others of the first entry that the identifier equals. -/
def addSlot (id : Identifier) (slot : Nat) :
    List (Identifier × List Nat) → List (Identifier × List Nat)
  | [] => []
  | entry :: rest =>
    if entry.1.same id then (entry.1, entry.2 ++ [slot]) :: rest
    else entry :: addSlot id slot rest

/-- Gives one occurrence of an identifier its slot. With `coalescing`, an identifier that has slots
takes its first one again; otherwise every occurrence has a new slot. -/
def assign (map : SlotMap) (id : Identifier) (coalescing : Bool) : Nat × SlotMap :=
  let fresh := map.nativeCount + 1
  match map.get? id with
  | none => (fresh, ⟨map.entries ++ [(id, [fresh])], fresh⟩)
  | some slots =>
    match coalescing, slots.head? with
    | true, some first => (first, ⟨addSlot id first map.entries, map.nativeCount⟩)
    | _, _ => (fresh, ⟨addSlot id fresh map.entries, fresh⟩)

/-- Number of identifiers. -/
def size (map : SlotMap) : Nat :=
  map.entries.length

/-- There are no parameters. -/
def isEmpty (map : SlotMap) : Bool :=
  map.entries.isEmpty

@[simp] theorem get?_empty (id : Identifier) : empty.get? id = none := rfl

@[simp] theorem size_empty : empty.size = 0 := rfl

end SlotMap

end PortableSql
