import PortableSql.Proofs.Conversion.RoundTrip
import PortableSql.Proofs.Result
import PortableSql.Proofs.SqlServer.Wire
import PortableSql.SqlServer.Cells

/-!
# What is bound on SQL Server is read back

A value is bound as a cell of the type that belongs to its kind, and such a cell is read as a value of
that kind. A date has a cell if the server stores the date, and the error says so if it has none.
-/
namespace PortableSql.SqlServer

open Conversion (Arrives Gives land fetch)

variable {v : Value}

/-! ## Cells -/

/-- The cell of what has arrived in a parameter gives it back. -/
theorem gives_nativeCell {arrived : Value} (h : Arrives v arrived) :
    Gives (reader (nativeCell arrived)) arrived := by
  cases h <;> rfl

/-- The cell of what has arrived is read in the type that the value was bound in. -/
theorem decodeCell_nativeCell {arrived : Value} (h : Arrives v arrived) :
    decodeCell (nativeCell arrived) v.kind =
      fetch (reader (nativeCell arrived)) v.kind.naturalType v.kind := by
  cases h <;> rfl

theorem isNull_nativeCell {arrived : Value} (h : Arrives v arrived) :
    (nativeCell arrived).isNull = false := by
  cases h <;> rfl

/-- A value that goes by way of the conversions, in and out, is read back from its cell. -/
theorem decodeCell_of_land (hv : v.Discrete) {cell : Cell}
    (hwrite : encode v = (land v.kind.naturalType v).map nativeCell) (h : encode v = .ok cell) :
    cell.isNull = false ∧ decodeCell cell v.kind = .ok v := by
  rw [hwrite] at h
  obtain ⟨arrived, hland, rfl⟩ := Result.map_eq_ok_iff.1 h
  have harrives := Conversion.arrives_of_land hv hland
  refine ⟨isNull_nativeCell harrives, ?_⟩
  rw [decodeCell_nativeCell harrives]
  exact harrives.fetch (gives_nativeCell harrives)

/-! ## Dates and times -/

theorem encode_date (d : Date) :
    encode (.date d) = (ofDate d).map fun days => .value (.date days) := rfl

theorem encode_time (t : Time) : encode (.time t) = (ofTime t).map fun form => .value (.time form) :=
  rfl

theorem encode_timestamp (t : Timestamp) :
    encode (.timestamp t) = (ofTimestamp t).map fun form => .value (.datetime2 form) := rfl

theorem timestampOf_of_eq_some {cell : Cell} {stamp : Result Timestamp}
    (h : timestampOf? cell = some stamp) (kind : ValueKind) : timestampOf cell kind = stamp := by
  rw [timestampOf, h, Option.getD_some]

theorem decodeCell_date (days : UInt32) :
    decodeCell (.value (.date days)) .date =
      ((toDate days).map fun d => Timestamp.mk d .midnight).map fun t => .date t.date := by
  have hcell : timestampOf? (.value (.date days)) =
      some ((toDate days).map fun d => ⟨d, .midnight⟩) := by
    simp only [timestampOf?]
  rw [decodeCell, timestampOf_of_eq_some hcell]

theorem decodeCell_timestamp (form : WireTimestamp) :
    decodeCell (.value (.datetime2 form)) .timestamp = (toTimestamp form).map .timestamp := by
  have hcell : timestampOf? (.value (.datetime2 form)) = some (toTimestamp form) := by
    simp only [timestampOf?]
  rw [decodeCell, timestampOf_of_eq_some hcell]

/-- The date of a date or a timestamp. -/
def dateOf? : Value → Option Date
  | .date d => some d
  | .timestamp t => some t.date
  | _ => none

variable {d : Date}

/-- What is on a date that the server stores has a cell, and is read back from it. -/
theorem encode_of_storable (hv : v.Discrete) (hdate : dateOf? v = some d) (hd : Storable d) :
    ∃ cell, encode v = .ok cell ∧ cell.isNull = false ∧ decodeCell cell v.kind = .ok v := by
  cases v with
  | date d' =>
    cases hdate
    obtain ⟨days, hdays, hback⟩ := ofDate_of_storable hv hd
    refine ⟨.value (.date days), ?_, rfl, ?_⟩
    · rw [encode_date, hdays]
      rfl
    · rw [Value.kind, decodeCell_date, hback]
      rfl
  | timestamp t =>
    cases hdate
    obtain ⟨form, hform, hback⟩ := ofTimestamp_of_storable hv hd
    refine ⟨.value (.datetime2 form), ?_, rfl, ?_⟩
    · rw [encode_timestamp, hform]
      rfl
    · rw [Value.kind, decodeCell_timestamp, hback]
      rfl
  | int16 | int32 | int64 | float | double | utf8 | utf16 | time | blob => cases hdate

/-- What is on any other date is out of range. -/
theorem encode_of_not_storable (hv : v.Discrete) (hdate : dateOf? v = some d) (hd : ¬Storable d) :
    encode v = .error (outOfRange d.text) := by
  cases v with
  | date d' =>
    cases hdate
    rw [encode_date, ofDate_of_not_storable hv hd]
    rfl
  | timestamp t =>
    cases hdate
    rw [encode_timestamp, ofTimestamp_of_not_storable hv hd]
    rfl
  | int16 | int32 | int64 | float | double | utf8 | utf16 | time | blob => cases hdate

/-- Of the dates, only those that the server stores have cells. -/
theorem storable_of_encode (hv : v.Discrete) (hdate : dateOf? v = some d) {cell : Cell}
    (h : encode v = .ok cell) : Storable d := by
  by_cases hd : Storable d
  · exact hd
  · cases (encode_of_not_storable hv hdate hd).symm.trans h

/-- A time of day that exists has a cell, and is read back from it. -/
theorem encode_time_of_valid {t : Time} (h : t.Valid) :
    ∃ cell, encode (.time t) = .ok cell ∧ cell.isNull = false ∧
      decodeCell cell .time = .ok (.time t) := by
  obtain ⟨form, hform, hback⟩ := ofTime_of_valid h
  refine ⟨.value (.time form), ?_, rfl, ?_⟩
  · rw [encode_time, hform]
    rfl
  · have hread : decodeCell (.value (.time form)) .time = .ok (.time (toTime form)) := rfl
    rw [hread, hback]

/-- **A value is read back from its cell.** -/
theorem decodeCell_of_encode (hv : v.Discrete) {cell : Cell} (h : encode v = .ok cell) :
    cell.isNull = false ∧ decodeCell cell v.kind = .ok v := by
  have hdated {d : Date} (hdate : dateOf? v = some d) :
      cell.isNull = false ∧ decodeCell cell v.kind = .ok v := by
    obtain ⟨cell', hcell, hback⟩ := encode_of_storable hv hdate (storable_of_encode hv hdate h)
    cases hcell.symm.trans h
    exact hback
  cases v with
  | int16 | int32 | int64 | utf8 | utf16 => exact decodeCell_of_land hv rfl h
  | float | double => exact hv.elim
  | date | timestamp => exact hdated rfl
  | time t =>
    obtain ⟨cell', hcell, hback⟩ := encode_time_of_valid hv
    cases hcell.symm.trans h
    exact hback
  | blob bytes =>
    cases h
    exact ⟨rfl, rfl⟩

/-! ## Slots -/

namespace Cells

variable {cells : Cells} {slot : Nat}

/-- A slot in range takes any cell, and holds it afterwards. -/
theorem put_of_mem (hslot : 1 ≤ slot ∧ slot ≤ cells.length) (cell : Cell) :
    ∃ cells', cells.put slot cell = .ok cells' ∧ cells'.cell slot = .ok cell := by
  obtain ⟨cells', hset, hget⟩ := OneBased.exists_set?_of_mem hslot cell
  refine ⟨cells', ?_, ?_⟩
  · rw [put, hset]
  · rw [Cells.cell, hget]

/-- The slot holds the cell of the value that has been put there. -/
theorem cell_of_bind (hslot : 1 ≤ slot ∧ slot ≤ cells.length) {cells' : Cells}
    (h : cells.bind slot (some v) = .ok cells') :
    ∃ cell, encode v = .ok cell ∧ cells'.cell slot = .ok cell := by
  obtain ⟨cell, hencode, hput⟩ := Result.bind_eq_ok_iff.1 h
  obtain ⟨cells'', hput', hcell⟩ := put_of_mem hslot cell
  cases hput'.symm.trans hput
  exact ⟨cell, hencode, hcell⟩

theorem bind_of_encode (hslot : 1 ≤ slot ∧ slot ≤ cells.length) {cell : Cell}
    (h : encode v = .ok cell) : ∃ cells', cells.bind slot (some v) = .ok cells' := by
  obtain ⟨cells', hput, -⟩ := put_of_mem hslot cell
  exact ⟨cells', Result.bind_eq_ok_iff.2 ⟨cell, h, hput⟩⟩

end Cells

/-- **What is bound is read back.** A slot in range that takes a value holds a cell that is not NULL
and gives the value back when it is read as that kind, unless it is a floating-point number. The slot
takes a date or a timestamp of the calendar exactly when its date is one from 0001-01-01 to
9999-12-31; any other is out of range. -/
theorem bound_cell_reads_back {cells : Cells} {slot : Nat}
    (hslot : 1 ≤ slot ∧ slot ≤ cells.length) {v : Value} (hv : v.Discrete) :
    (∀ cells', cells.bind slot (some v) = .ok cells' →
      (∃ cell, cells'.cell slot = .ok cell ∧ cell.isNull = false) ∧
        cells'.decode slot v.kind = .ok v) ∧
    ∀ d, dateOf? v = some d →
      ((∃ cells', cells.bind slot (some v) = .ok cells') ↔ Storable d) ∧
      (¬Storable d → cells.bind slot (some v) = .error (.rangeExceeded (.wire d.text .mssql))) := by
  refine ⟨?_, ?_⟩
  · intro cells' hbind
    obtain ⟨cell, hencode, hcell⟩ := Cells.cell_of_bind hslot hbind
    obtain ⟨hnull, hback⟩ := decodeCell_of_encode hv hencode
    refine ⟨⟨cell, hcell, hnull⟩, ?_⟩
    rw [Cells.decode, hcell]
    exact hback
  · intro d hdate
    refine ⟨⟨?_, ?_⟩, ?_⟩
    · rintro ⟨cells', hbind⟩
      obtain ⟨cell, hencode, -⟩ := Cells.cell_of_bind hslot hbind
      exact storable_of_encode hv hdate hencode
    · intro hd
      obtain ⟨cell, hencode, -⟩ := encode_of_storable hv hdate hd
      exact Cells.bind_of_encode hslot hencode
    · intro hd
      exact Result.bind_eq_error_iff.2 (.inl (encode_of_not_storable hv hdate hd))

/-- The last date that the server stores, on its way through the only slot. -/
theorem last_date_reads_back :
    (1 ≤ 1 ∧ 1 ≤ (Cells.ofLength 1).length) ∧ (Value.date lastStored).Discrete ∧
      ∃ cells', (Cells.ofLength 1).bind 1 (some (.date lastStored)) = .ok cells' ∧
        cells'.decode 1 .date = .ok (.date lastStored) := by
  have hslot : 1 ≤ 1 ∧ 1 ≤ (Cells.ofLength 1).length := by decide
  have hvalid : lastStored.Valid := by decide
  have hstored : Storable lastStored := by decide
  obtain ⟨hback, hdates⟩ := bound_cell_reads_back (v := .date lastStored) hslot hvalid
  obtain ⟨cells', hbind⟩ := (hdates lastStored rfl).1.2 hstored
  exact ⟨hslot, hvalid, cells', hbind, (hback cells' hbind).2⟩

end PortableSql.SqlServer
