import PortableSql.Proofs.Conversion.InPlace
import PortableSql.Proofs.Conversion.Kinds
import PortableSql.Proofs.Postgres.Parameters
import PortableSql.Proofs.SqlServer.Parameters

/-!
# Binding in place

`Cells.bindInPlace` binds a value as the slots themselves see it: some values are encoded first and
stored then, others are handed on to the conversions, which store them. Either way the only store is
the last step, so it comes to what `Cells.bind` does, and a binding that fails leaves all slots as they
were.
-/
namespace PortableSql

open OneBased (putInPlace TouchesOnly)

namespace Postgres

/-! ## PostgreSQL -/

namespace Cells

/-- Stores values of the native kinds in a slot, in binary form. -/
def writer (slot : Nat) : CellWriter Cells where
  int16 n := putInPlace slot (some (IntType.int16.toBytes n.toInt))
  int32 n := putInPlace slot (some (IntType.int32.toBytes n.toInt))
  int64 n := putInPlace slot (some (IntType.int64.toBytes n.toInt))
  float x := putInPlace slot (some x.toBytes)
  double x := putInPlace slot (some x.toBytes)
  text text := putInPlace slot (some (Text.Utf8.encode text))

/-- Binds a number or a text to a slot of a declared type. -/
def bindScalarInPlace (slot : Nat) (target : ValueType) (value : Value) : Update Cells Unit :=
  match target, value with
  | .boolean, .int16 n => putInPlace slot (some (flagBytes (n != 0)))
  | .boolean, .int32 n => putInPlace slot (some (flagBytes (n != 0)))
  | .boolean, .int64 n => putInPlace slot (some (flagBytes (n != 0)))
  | .boolean, .utf8 text => do putInPlace slot (some (flagBytes (← flagOfText text)))
  | .any, .utf8 text | .blob, .utf8 text => putInPlace slot (some (Text.Utf8.encode text))
  | target, value => (writer slot).set target value

/-- Binds a value of a declared type, or NULL, to a slot. -/
def bindInPlace (slot : Nat) (target : ValueType) (value? : Option Value) : Update Cells Unit :=
  match value? with
  | none => putInPlace slot none
  | some (.date d) => do putInPlace slot (some (← encodeDate target d))
  | some (.time t) => do putInPlace slot (some (← encodeTime target t))
  | some (.timestamp t) => do putInPlace slot (some (← encodeTimestamp target t))
  | some (.blob bytes) => do putInPlace slot (some (← encodeBlob target bytes))
  | some value => bindScalarInPlace slot target value

variable (slot : Nat) (target : ValueType)

theorem store_writer {value : Value} (h : value.kind.isNative = true) :
    (writer slot).store value = putInPlace slot (some (nativeBytes value)) := by
  cases value with
  | int16 | int32 | int64 | float | double | utf8 => rfl
  | utf16 | date | time | timestamp | blob => cases h

theorem bindScalarInPlace_eq (value : Value) :
    bindScalarInPlace slot target value =
      liftM (encodeScalar target value) >>= fun raw => putInPlace slot (some raw) := by
  -- the arms without bytes of their own all leave the store to the conversions
  have hset := (writer slot).set_eq_of_store nativeBytes (fun raw => putInPlace slot (some raw))
    (fun _ => store_writer slot) target value
  cases value with
  | int16 | int32 | int64 =>
    cases target with
    | boolean => rfl
    | _ => exact hset
  | utf8 text =>
    cases target with
    | boolean =>
      rw [encodeScalar, Update.lift_map_bind]
      rfl
    | any | blob => rfl
    | _ => exact hset
  | _ => cases target <;> exact hset

/-- **The cell of a value is stored in one step**, behind everything that may fail before. -/
theorem bindInPlace_eq (value? : Option Value) :
    bindInPlace slot target value? = liftM (cellOf target value?) >>= putInPlace slot := by
  cases value? with
  | none => rfl
  | some value =>
    rw [cellOf, Update.lift_map_bind]
    cases value with
    | date | time | timestamp | blob => rfl
    | _ => exact bindScalarInPlace_eq slot target _

theorem apply_putInPlace (cell : Option Bytes) (cells : Cells) :
    (putInPlace slot cell).apply cells = Update.keeping cells (cells.put slot cell) := by
  rw [OneBased.apply_putInPlace, put]
  cases OneBased.set? cells slot cell <;> rfl

/-- Binding puts the cell of the value, if it has one. -/
theorem bind_eq (value? : Option Value) (cells : Cells) :
    cells.bind slot target value? = cellOf target value? >>= cells.put slot := by
  cases value? with
  | none => rfl
  | some value =>
    rw [bind, cellOf]
    cases encode target value <;> rfl

/-- What is left of the slots is what binding gives, or what was there before. -/
theorem apply_bindInPlace (value? : Option Value) (cells : Cells) :
    (bindInPlace slot target value?).apply cells =
      Update.keeping cells (cells.bind slot target value?) := by
  rw [bindInPlace_eq, bind_eq]
  exact Update.apply_lift_bind_eq_keeping _ fun cell => apply_putInPlace slot cell cells

end Cells

end Postgres

/-! ## SQL Server -/

namespace SqlServer

namespace Cells

/-- Stores values of the native kinds in a slot, each as a cell of its own type. -/
def writer (slot : Nat) : CellWriter Cells where
  int16 n := putInPlace slot (.value (.smallint n))
  int32 n := putInPlace slot (.value (.int n))
  int64 n := putInPlace slot (.value (.bigint n))
  float x := putInPlace slot (.value (.real x))
  double x := putInPlace slot (.value (.float x))
  text text := putInPlace slot (.value (.string text))

/-- Binds a value, or NULL, to a slot. -/
def bindInPlace (slot : Nat) (value? : Option Value) : Update Cells Unit :=
  match value? with
  | none => putInPlace slot .unbound
  | some (.date d) => do putInPlace slot (.value (.date (← ofDate d)))
  | some (.time t) => do putInPlace slot (.value (.time (← ofTime t)))
  | some (.timestamp t) => do putInPlace slot (.value (.datetime2 (← ofTimestamp t)))
  | some (.blob bytes) => putInPlace slot (.value (.binary bytes))
  | some value => (writer slot).set value.kind.naturalType value

variable (slot : Nat)

theorem store_writer {value : Value} (h : value.kind.isNative = true) :
    (writer slot).store value = putInPlace slot (nativeCell value) := by
  cases value with
  | int16 | int32 | int64 | float | double | utf8 => rfl
  | utf16 | date | time | timestamp | blob => cases h

/-- **The cell of a value is stored in one step**, behind everything that may fail before. -/
theorem bindInPlace_eq (value? : Option Value) :
    bindInPlace slot value? = liftM (cellOf value?) >>= putInPlace slot := by
  cases value? with
  | none => rfl
  | some value =>
    have hset := (writer slot).set_eq_of_store nativeCell (putInPlace slot)
      (fun _ => store_writer slot) value.kind.naturalType value
    cases value with
    | date | time | timestamp =>
      rw [cellOf, encode, Update.lift_map_bind]
      rfl
    | blob => rfl
    | _ => exact hset

theorem apply_putInPlace (cell : Cell) (cells : Cells) :
    (putInPlace slot cell).apply cells = Update.keeping cells (cells.put slot cell) := by
  rw [OneBased.apply_putInPlace, put]
  cases OneBased.set? cells slot cell <;> rfl

/-- Binding puts the cell of the value, if it has one. -/
theorem bind_eq (value? : Option Value) (cells : Cells) :
    cells.bind slot value? = cellOf value? >>= cells.put slot := by
  cases value? <;> rfl

/-- What is left of the slots is what binding gives, or what was there before. -/
theorem apply_bindInPlace (value? : Option Value) (cells : Cells) :
    (bindInPlace slot value?).apply cells = Update.keeping cells (cells.bind slot value?) := by
  rw [bindInPlace_eq, bind_eq]
  exact Update.apply_lift_bind_eq_keeping _ fun cell => apply_putInPlace slot cell cells

end Cells

end SqlServer

/-! ## Both products -/

/-- **Binding touches its own slot at most.** It comes to what the slots are after it, or to the slots
as they were if it fails; and if it succeeds, the slot is one of them and alone has a new cell. -/
theorem binding_touches_own_slot :
    (∀ (cells : Postgres.Cells) (slot : Nat) (target : ValueType) (value? : Option Value),
      (Postgres.Cells.bindInPlace slot target value?).apply cells =
          Update.keeping cells (cells.bind slot target value?) ∧
        TouchesOnly slot (Postgres.cellOf target value?) cells
          ((Postgres.Cells.bindInPlace slot target value?).apply cells)) ∧
    ∀ (cells : SqlServer.Cells) (slot : Nat) (value? : Option Value),
      (SqlServer.Cells.bindInPlace slot value?).apply cells =
          Update.keeping cells (cells.bind slot value?) ∧
        TouchesOnly slot (SqlServer.cellOf value?) cells
          ((SqlServer.Cells.bindInPlace slot value?).apply cells) := by
  constructor
  · intro cells slot target value?
    refine ⟨Postgres.Cells.apply_bindInPlace slot target value? cells, ?_⟩
    rw [Postgres.Cells.bindInPlace_eq]
    exact OneBased.touchesOnly_putInPlace slot _ cells
  · intro cells slot value?
    refine ⟨SqlServer.Cells.apply_bindInPlace slot value? cells, ?_⟩
    rw [SqlServer.Cells.bindInPlace_eq]
    exact OneBased.touchesOnly_putInPlace slot _ cells

end PortableSql
