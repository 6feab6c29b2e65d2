/-!
# Lists addressed from one

Parameters, columns and slots are counted from one. Position zero is none of them.
-/
namespace PortableSql.OneBased

variable {α : Type}

/-- The item at a position. -/
def get? (items : List α) : Nat → Option α
  | 0 => none
  | n + 1 => items[n]?

/-- The list with another item at a position, if there is that position. -/
def set? (items : List α) (position : Nat) (item : α) : Option (List α) :=
  match position with
  | 0 => none
  | n + 1 => if n < items.length then some (items.set n item) else none

@[simp] theorem get?_zero (items : List α) : get? items 0 = none := rfl

@[simp] theorem get?_succ (items : List α) (n : Nat) : get? items (n + 1) = items[n]? := rfl

theorem get?_map {β : Type} (f : α → β) (items : List α) (position : Nat) :
    get? (items.map f) position = (get? items position).map f := by
  cases position with
  | zero => rfl
  | succ n => simp

theorem set?_eq_some_iff {items items' : List α} {position : Nat} {item : α} :
    set? items position item = some items' ↔
      ∃ n, position = n + 1 ∧ n < items.length ∧ items' = items.set n item := by
  cases position with
  | zero => simp [set?]
  | succ n =>
    simp only [set?]
    split
    · next hlt => simp [hlt, eq_comm]
    · next hge => simp [hge]

/-- The item at the position is the new one, and the others stay. -/
theorem get?_of_set? {items items' : List α} {position : Nat} {item : α}
    (h : set? items position item = some items') (other : Nat) :
    get? items' other = if other = position then some item else get? items other := by
  obtain ⟨n, rfl, hlt, rfl⟩ := set?_eq_some_iff.1 h
  cases other with
  | zero => simp
  | succ m =>
    by_cases hm : m = n
    · subst hm
      simp [hlt]
    · have hne : n ≠ m := fun h => hm h.symm
      simp [hm, List.getElem?_set_ne hne]

theorem length_of_set? {items items' : List α} {position : Nat} {item : α}
    (h : set? items position item = some items') : items'.length = items.length := by
  obtain ⟨n, -, -, rfl⟩ := set?_eq_some_iff.1 h
  exact List.length_set

/-- A position in range takes any item, and has it afterwards. -/
theorem exists_set?_of_mem {items : List α} {position : Nat}
    (h : 1 ≤ position ∧ position ≤ items.length) (item : α) :
    ∃ items', set? items position item = some items' ∧ get? items' position = some item := by
  obtain ⟨n, rfl⟩ : ∃ n, position = n + 1 := ⟨position - 1, by omega⟩
  have hset : set? items (n + 1) item = some (items.set n item) := if_pos h.2
  refine ⟨items.set n item, hset, ?_⟩
  rw [get?_of_set? hset, if_pos rfl]

/-- Putting an item where it is changes nothing. -/
theorem set?_again {items items' : List α} {position : Nat} {item : α}
    (h : set? items position item = some items') : set? items' position item = some items' := by
  obtain ⟨n, rfl, hlt, rfl⟩ := set?_eq_some_iff.1 h
  exact set?_eq_some_iff.2 ⟨n, rfl, by simpa using hlt, by rw [List.set_set]⟩

end PortableSql.OneBased
