import PortableSql.OneBased
import PortableSql.Proofs.Conversion.Kinds

/-!
# Values stored in place

A slot is written in place: what has been stored when a later step fails stays stored.
`CellWriter.set` follows a value of any kind on its way into a slot of a declared type, each store
where it happens. It comes to converting the value first and storing what has arrived in one step, so a
conversion that fails has stored nothing.

## Main definitions

* `Update` — a change of a state that may be refused on the way.
* `CellWriter` — how values of the native kinds are stored in one slot.
* `OneBased.TouchesOnly` — a slot has its new cell, or nothing has changed.
-/
namespace PortableSql

/-- A change of a state that may be refused. What it has changed by then stays changed. -/
abbrev Update (σ α : Type) := ExceptT Error (StateM σ) α

namespace Update

variable {σ α β : Type}

/-- What a change answers, and the state that it leaves. -/
def apply (u : Update σ α) (s : σ) : Result α × σ :=
  (ExceptT.run u).run s

/-- A new state, or the old one with the reason why there is none. -/
def keeping (before : σ) : Result σ → Result Unit × σ
  | .ok after => (.ok (), after)
  | .error e => (.error e, before)

variable (r : Result α) (f : α → Update σ β)

/-- What needs no state gives its result to the rest, or the rest is left out. -/
theorem apply_lift_bind (s : σ) :
    apply (liftM r >>= f) s = match r with
      | .ok a => apply (f a) s
      | .error e => (.error e, s) := by
  cases r <;> rfl

/-- A change that comes last comes to a new state, or leaves the old one. -/
theorem apply_lift_bind_eq_keeping {f : α → Update σ Unit} {s : σ} {put : α → Result σ}
    (h : ∀ a, apply (f a) s = keeping s (put a)) :
    apply (liftM r >>= f) s = keeping s (r >>= put) := by
  rw [apply_lift_bind]
  cases r with
  | error e => rfl
  | ok a => exact h a

theorem lift_map_bind {γ : Type} (g : γ → α) (r : Result γ) :
    (liftM (r.map g) >>= f : Update σ β) = liftM r >>= fun c => f (g c) := by
  cases r <;> rfl

theorem lift_bind_bind {γ : Type} (g : γ → Result α) (r : Result γ) :
    (liftM (r >>= g) >>= f : Update σ β) = liftM r >>= fun c => liftM (g c) >>= f := by
  cases r <;> rfl

end Update

/-! ## Native kinds -/

/-- How values of the native kinds are stored in one slot of a state. -/
structure CellWriter (σ : Type) where
  int16 : Int16 → Update σ Unit
  int32 : Int32 → Update σ Unit
  int64 : Int64 → Update σ Unit
  float : Single → Update σ Unit
  double : Double → Update σ Unit
  text : String → Update σ Unit

namespace CellWriter

open Conversion

variable {σ : Type} (w : CellWriter σ)

/-- Stores an integer in a slot of a declared type. -/
def setInt (source : IntType) (target : ValueType) (n : Int) : Update σ Unit :=
  match target with
  | .short => do w.int16 (.ofInt (← intToInt source .int16 n))
  | .integer => do w.int32 (.ofInt (← intToInt source .int32 n))
  | .bigint => do w.int64 (.ofInt (← intToInt source .int64 n))
  | .float => w.float (intToFloat .float n)
  | .double => w.double (intToFloat .double n)
  | .char | .varchar => w.text (Text.Decimal.ofInt n)
  | _ => throw (noForm source.name target)

/-- Stores a floating-point number in a slot of a declared type. -/
def setFloat (source : FloatType) (target : ValueType) (x : source.Carrier) : Update σ Unit :=
  match target with
  | .short => do w.int16 (.ofInt (← floatToInt source .int16 x))
  | .integer => do w.int32 (.ofInt (← floatToInt source .int32 x))
  | .bigint => do w.int64 (.ofInt (← floatToInt source .int64 x))
  | .float => do w.float (← floatToFloat source .float x)
  | .double => do w.double (← floatToFloat source .double x)
  | .char | .varchar => w.text (source.text x)
  | _ => throw (noForm source.name target)

/-- Stores text in a slot of a declared type. -/
def setText (target : ValueType) (text : String) : Update σ Unit :=
  match target with
  | .short => do w.int16 (.ofInt (← textToInt .int16 text))
  | .integer => do w.int32 (.ofInt (← textToInt .int32 text))
  | .bigint => do w.int64 (.ofInt (← textToInt .int64 text))
  | .float => do w.float (← textToFloat .float text)
  | .double => do w.double (← textToFloat .double text)
  | .char | .varchar => w.text text
  | _ => throw (noForm ValueKind.utf8.name target)

/-- Stores text in 16-bit units in a slot of a declared type. -/
def setUnits (target : ValueType) (units : List UInt16) : Update σ Unit :=
  match target with
  | .char | .varchar => do w.text (← textOfUnits units)
  | .short | .integer | .bigint | .float | .double => do w.setText target (← textOfUnits units)
  | _ => throw (noForm ValueKind.utf16.name target)

/-- Stores a number or a text in a slot of a declared type. -/
def set (target : ValueType) : Value → Update σ Unit
  | .int16 n => w.setInt .int16 target n.toInt
  | .int32 n => w.setInt .int32 target n.toInt
  | .int64 n => w.setInt .int64 target n.toInt
  | .float x => w.setFloat .float target x
  | .double x => w.setFloat .double target x
  | .utf8 text => w.setText target text
  | .utf16 units => w.setUnits target units
  | value => throw (noForm value.kind.name target)

/-- Stores a value that is of a native kind already. -/
def store : Value → Update σ Unit
  | .int16 n => w.int16 n
  | .int32 n => w.int32 n
  | .int64 n => w.int64 n
  | .float x => w.float x
  | .double x => w.double x
  | .utf8 text => w.text text
  | _ => pure ()

theorem setInt_eq (source : IntType) (target : ValueType) (n : Int) :
    w.setInt source target n = (do w.store (← landInt source target n)) := by
  cases target with
  | short | integer | bigint =>
    rw [setInt, landInt, Update.lift_map_bind]
    rfl
  | _ => rfl

theorem setFloat_eq (source : FloatType) (target : ValueType) (x : source.Carrier) :
    w.setFloat source target x = (do w.store (← landFloat source target x)) := by
  cases target with
  | short | integer | bigint | float | double =>
    rw [setFloat, landFloat, Update.lift_map_bind]
    rfl
  | _ => rfl

theorem setText_eq (target : ValueType) (text : String) :
    w.setText target text = (do w.store (← landText target text)) := by
  cases target with
  | short | integer | bigint | float | double =>
    rw [setText, landText, Update.lift_map_bind]
    rfl
  | _ => rfl

theorem setUnits_eq (target : ValueType) (units : List UInt16) :
    w.setUnits target units = (do w.store (← landUnits target units)) := by
  cases target with
  | short | integer | bigint | float | double =>
    simp only [setUnits, setText_eq, landUnits, takesText, if_true, Update.lift_bind_bind]
  | char | varchar =>
    simp only [setUnits, landUnits, takesText, if_true, Update.lift_bind_bind]
    rfl
  | _ => rfl

/-- **A value is converted before it is stored**, whole, and stored in one step. -/
theorem set_eq (target : ValueType) (value : Value) :
    w.set target value = (do w.store (← land target value)) := by
  cases value with
  | int16 | int32 | int64 => exact w.setInt_eq ..
  | float | double => exact w.setFloat_eq ..
  | utf8 text => exact w.setText_eq target text
  | utf16 units => exact w.setUnits_eq target units
  | date | time | timestamp | blob => rfl

/-- Storing what has arrived takes no other form than that of the native kinds. -/
theorem set_eq_of_store {α : Type} (form : Value → α) (put : α → Update σ Unit)
    (h : ∀ arrived, arrived.kind.isNative = true → w.store arrived = put (form arrived))
    (target : ValueType) (value : Value) :
    w.set target value = liftM ((land target value).map form) >>= put := by
  rw [set_eq, Update.lift_map_bind]
  cases hland : land target value with
  | error e => rfl
  | ok arrived => exact h arrived (isNative_of_land hland)

end CellWriter

/-! ## Slots -/

namespace OneBased

variable {C : Type}

/-- Stores a cell in a slot of the state. -/
def putInPlace (slot : Nat) (cell : C) : Update (List C) Unit := do
  match set? (← get) slot cell with
  | some cells => set cells
  | none => throw (.parameterNotFound (Text.Decimal.ofNat slot))

/-- What is left of cells when a new one, if there is one, is put into a slot: all of them stay, or
the slot is one of them and has the new cell, and the others stay. -/
structure TouchesOnly (slot : Nat) (cell : Result C) (before : List C)
    (answer : Result Unit × List C) : Prop where
  kept : ∀ e, answer.1 = .error e → answer.2 = before
  inRange : answer.1 = .ok () → 1 ≤ slot ∧ slot ≤ before.length
  length : answer.1 = .ok () → answer.2.length = before.length
  others : answer.1 = .ok () → ∀ other, other ≠ slot → get? answer.2 other = get? before other
  own : answer.1 = .ok () → ∃ c, cell = .ok c ∧ get? answer.2 slot = some c
  succeeds : 1 ≤ slot ∧ slot ≤ before.length → ∀ c, cell = .ok c → answer.1 = .ok ()

theorem apply_putInPlace (slot : Nat) (cell : C) (cells : List C) :
    (putInPlace slot cell).apply cells = Update.keeping cells (match set? cells slot cell with
      | some after => .ok after
      | none => .error (.parameterNotFound (Text.Decimal.ofNat slot))) := by
  have hput : (putInPlace slot cell).apply cells =
      Update.apply (match set? cells slot cell with
        | some cells => set cells
        | none => throw (.parameterNotFound (Text.Decimal.ofNat slot))) cells := rfl
  rw [hput]
  cases set? cells slot cell <;> rfl

theorem TouchesOnly.refused {slot : Nat} {cell : Result C} {before : List C} (e : Error)
    (h : ∀ c, cell = .ok c → ¬(1 ≤ slot ∧ slot ≤ before.length)) :
    TouchesOnly slot cell before (.error e, before) where
  kept _ _ := rfl
  inRange := nofun
  length := nofun
  others := nofun
  own := nofun
  succeeds hslot c hcell := absurd hslot (h c hcell)

theorem TouchesOnly.put {slot : Nat} {c : C} {before after : List C}
    (h : set? before slot c = some after) : TouchesOnly slot (.ok c) before (.ok (), after) where
  kept := nofun
  inRange _ := by
    obtain ⟨n, rfl, hlt, -⟩ := set?_eq_some_iff.1 h
    exact ⟨Nat.succ_pos n, hlt⟩
  length _ := length_of_set? h
  others _ other hother := by rw [get?_of_set? h, if_neg hother]
  own _ := ⟨c, rfl, by rw [get?_of_set? h, if_pos rfl]⟩
  succeeds _ _ _ := rfl

/-- **A cell that is stored last leaves the other slots alone**, whether it comes to that or not. -/
theorem touchesOnly_putInPlace (slot : Nat) (cell : Result C) (cells : List C) :
    TouchesOnly slot cell cells (Update.apply (liftM cell >>= putInPlace slot) cells) := by
  rw [Update.apply_lift_bind]
  cases cell with
  | error e => exact .refused e nofun
  | ok c =>
    dsimp only
    rw [apply_putInPlace]
    cases hset : set? cells slot c with
    | some after => exact .put hset
    | none =>
      refine .refused _ fun _ _ hslot => ?_
      obtain ⟨after, hsome, -⟩ := exists_set?_of_mem hslot c
      cases hset.symm.trans hsome

end OneBased

end PortableSql
