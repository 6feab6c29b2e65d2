import Mathlib.Data.List.Forall2
import PortableSql.Proofs.Postgres.Cells
import PortableSql.Proofs.Postgres.CopyFormat

/-!
# The payload of a bulk copy is read as the rows it was given

Each row that is accepted becomes one tuple of the payload, with a field for every column: NULL, or
the bytes that the value has as a parameter of the column's type. A row that is refused leaves the
payload as it was, even if some of its values could be written, and its error says what is wrong
with it.
-/
namespace PortableSql.Postgres

namespace CopyBuffer

open CopyFormat

/-- Values of one row, any of which may be NULL. -/
abbrev Row := List (Option Value)

variable {columns : List ValueType} {row : Row} {buffer : CopyBuffer}

/-! ## Fields and rows -/

/-- A value is written as it would be bound to a parameter. -/
theorem fieldBytes_eq (target : ValueType) (value : Value) :
    fieldBytes target value = encode target value := by
  rw [fieldBytes, Cells.bind]
  cases encode target value <;> rfl

/-- The field of a value in a column: NULL, or the bytes that the value has in the column's type. -/
inductive FieldOf (target : ValueType) : Option Value → Option Bytes → Prop
  | null : FieldOf target none none
  | value {value : Value} {bytes : Bytes} (h : fieldBytes target value = .ok bytes) :
    FieldOf target (some value) (some bytes)

/-- The tuple of a row has a field for each column. -/
inductive TupleOf : List ValueType → Row → Tuple → Prop
  | nil : TupleOf [] [] []
  | cons {target : ValueType} {targets : List ValueType} {value? : Option Value} {values : Row}
    {field : Option Bytes} {fields : Tuple} (h : FieldOf target value? field)
    (hrest : TupleOf targets values fields) :
    TupleOf (target :: targets) (value? :: values) (field :: fields)

theorem TupleOf.length_eq {tuple : Tuple} (h : TupleOf columns row tuple) :
    tuple.length = row.length := by
  induction h with
  | nil => rfl
  | cons _ _ ih => simp [ih]

theorem exists_field_of_writeField {target : ValueType} {value? : Option Value} {bytes : Bytes}
    (h : writeField target value? = .ok bytes) :
    ∃ field, FieldOf target value? field ∧ IsField field bytes := by
  cases value? with
  | none =>
    cases h
    exact ⟨none, .null, .null (spells_toBytes (by decide))⟩
  | some value =>
    obtain ⟨content, hcontent, hwrite⟩ := Result.bind_eq_ok_iff.1 h
    split at hwrite
    · next hfits =>
      cases hwrite
      exact ⟨some content, .value hcontent, .value content (spells_toBytes hfits)⟩
    · cases hwrite

theorem exists_tuple_of_writeFields {bytes : Bytes} (hlength : row.length = columns.length)
    (h : writeFields columns row = .ok bytes) :
    ∃ tuple, TupleOf columns row tuple ∧ InSequence IsField tuple bytes := by
  induction columns generalizing row bytes with
  | nil =>
    obtain rfl := List.length_eq_zero_iff.1 hlength
    cases h
    exact ⟨[], .nil, .nil⟩
  | cons target columns ih =>
    cases row with
    | nil => simp at hlength
    | cons value? row =>
      obtain ⟨first, hfirst, h⟩ := Result.bind_eq_ok_iff.1 h
      obtain ⟨rest, hrest, h⟩ := Result.bind_eq_ok_iff.1 h
      cases h
      obtain ⟨field, hfield, hbytes⟩ := exists_field_of_writeField hfirst
      obtain ⟨tuple, htuple, hmore⟩ := ih (by simpa using hlength) hrest
      exact ⟨field :: tuple, .cons hfield htuple, .cons hbytes hmore⟩

theorem fits_int16_length_iff (n : Nat) : IntType.int16.Fits n ↔ n ≤ 32767 := by
  have hleast : IntType.int16.least = -32768 := by decide
  have hgreatest : IntType.int16.greatest = 32767 := by decide
  rw [IntType.Fits, hleast, hgreatest]
  omega

theorem writeRow_eq_ok_iff {bytes : Bytes} :
    writeRow columns row = .ok bytes ↔
      row.length = columns.length ∧ row.length ≤ 32767 ∧ ∃ fields,
        writeFields columns row = .ok fields ∧ IntType.int16.toBytes row.length ++ fields = bytes := by
  have hfits := fits_int16_length_iff row.length
  rw [writeRow]
  by_cases hwidth : row.length = columns.length
  · rw [if_neg (not_not_intro hwidth)]
    by_cases hcount : row.length ≤ 32767
    · rw [if_pos (hfits.2 hcount), Result.map_eq_ok_iff]
      simp [hwidth, hwidth ▸ hcount]
    · rw [if_neg (mt hfits.1 hcount)]
      simp [hcount]
  · simp [hwidth]

/-- **A row that can be written is written as its tuple.** -/
theorem exists_tuple_of_writeRow {bytes : Bytes} (h : writeRow columns row = .ok bytes) :
    ∃ tuple, TupleOf columns row tuple ∧ IsTuple tuple bytes := by
  obtain ⟨hwidth, hcount, fields, hfields, rfl⟩ := writeRow_eq_ok_iff.1 h
  obtain ⟨tuple, htuple, hbytes⟩ := exists_tuple_of_writeFields hwidth hfields
  have hspells : Spells .int16 tuple.length (IntType.int16.toBytes row.length) := by
    rw [htuple.length_eq]
    exact spells_toBytes ((fits_int16_length_iff _).2 hcount)
  exact ⟨tuple, htuple, _, fields, hspells, hbytes, rfl⟩

/-! ## Rows that are refused -/

/-- What is wrong with a row, and the error that says so. -/
inductive RowFault (columns : List ValueType) (row : Row) : Error → Prop
  | width (h : row.length ≠ columns.length) :
    RowFault columns row (.copy (.width row.length columns.length))
  | tooManyColumns (hwidth : row.length = columns.length) (h : 32767 < row.length) :
    RowFault columns row (.copy .tooManyColumns)
  | conversion {target : ValueType} {value : Value} {e : Error}
    (hmem : (target, some value) ∈ columns.zip row) (h : fieldBytes target value = .error e)
    (he : e.IsConversion) : RowFault columns row e
  | fieldTooLarge {target : ValueType} {value : Value} {bytes : Bytes}
    (hmem : (target, some value) ∈ columns.zip row) (h : fieldBytes target value = .ok bytes)
    (hlarge : 2147483647 < bytes.length) : RowFault columns row (.copy .fieldTooLarge)

/-- Every value that is written has bytes. -/
theorem RowFault.ne_nothingEncoded {e : Error} (h : RowFault columns row e) :
    e ≠ .copy .nothingEncoded := by
  rintro rfl
  cases h with
  | conversion _ _ he => cases he

theorem fits_int32_length_iff (n : Nat) : IntType.int32.Fits n ↔ n ≤ 2147483647 := by
  have hleast : IntType.int32.least = -2147483648 := by decide
  have hgreatest : IntType.int32.greatest = 2147483647 := by decide
  rw [IntType.Fits, hleast, hgreatest]
  omega

/-- A field cannot be written because its value has no binary form or because that is too large. -/
theorem writeField_eq_error_iff {target : ValueType} {value? : Option Value} {e : Error} :
    writeField target value? = .error e ↔
      ∃ value, value? = some value ∧
        (fieldBytes target value = .error e ∨
          ∃ bytes, fieldBytes target value = .ok bytes ∧ 2147483647 < bytes.length ∧
            e = .copy .fieldTooLarge) := by
  cases value? with
  | none => simp [writeField]
  | some value =>
    simp only [writeField, Result.bind_eq_error_iff, Option.some.injEq, exists_eq_left']
    have hfits (bytes : Bytes) := fits_int32_length_iff bytes.length
    constructor
    · rintro (h | ⟨bytes, hbytes, h⟩)
      · exact .inl h
      · refine .inr ⟨bytes, hbytes, ?_⟩
        split at h
        · cases h
        · next hnot =>
          cases h
          exact ⟨by rw [hfits] at hnot; omega, rfl⟩
    · rintro (h | ⟨bytes, hbytes, hlarge, rfl⟩)
      · exact .inl h
      · refine .inr ⟨bytes, hbytes, if_neg ?_⟩
        rw [hfits]
        omega

theorem exists_error_of_writeFields {e : Error} (h : writeFields columns row = .error e) :
    ∃ pair ∈ columns.zip row, writeField pair.1 pair.2 = .error e := by
  induction columns generalizing row with
  | nil => cases h
  | cons target columns ih =>
    cases row with
    | nil => cases h
    | cons value? row =>
      rcases Result.bind_eq_error_iff.1 h with h | ⟨first, -, h⟩
      · exact ⟨(target, value?), by simp, h⟩
      · rcases Result.bind_eq_error_iff.1 h with h | ⟨rest, -, h⟩
        · obtain ⟨pair, hmem, hpair⟩ := ih h
          exact ⟨pair, by simp [hmem], hpair⟩
        · cases h

theorem exists_ok_of_writeFields {bytes : Bytes} (h : writeFields columns row = .ok bytes) :
    ∀ pair ∈ columns.zip row, ∃ field, writeField pair.1 pair.2 = .ok field := by
  induction columns generalizing row bytes with
  | nil => simp
  | cons target columns ih =>
    cases row with
    | nil => simp
    | cons value? row =>
      obtain ⟨first, hfirst, h⟩ := Result.bind_eq_ok_iff.1 h
      obtain ⟨rest, hrest, -⟩ := Result.bind_eq_ok_iff.1 h
      intro pair hmem
      rcases List.mem_cons.1 hmem with rfl | hmem
      · exact ⟨first, hfirst⟩
      · exact ih hrest pair hmem

/-- The error of a row that cannot be written names a fault of the row. -/
theorem rowFault_of_writeRow {e : Error} (h : writeRow columns row = .error e) :
    RowFault columns row e := by
  rw [writeRow] at h
  split at h
  · next hwidth =>
    cases h
    exact .width hwidth
  · next hwidth =>
    split at h
    · have hfields := Result.map_eq_error_iff.1 h
      obtain ⟨⟨target, value?⟩, hmem, hfield⟩ := exists_error_of_writeFields hfields
      obtain ⟨value, rfl, hcause⟩ := writeField_eq_error_iff.1 hfield
      rcases hcause with hbytes | ⟨bytes, hbytes, hlarge, rfl⟩
      · have hconverts := converts_encode target value
        rw [← fieldBytes_eq] at hconverts
        exact .conversion hmem hbytes (hconverts.isConversion e hbytes)
      · exact .fieldTooLarge hmem hbytes hlarge
    · next hcount =>
      cases h
      rw [fits_int16_length_iff] at hcount
      exact .tooManyColumns (by omega) (by omega)

/-- A row with a fault cannot be written. -/
theorem RowFault.exists_error {e : Error} (h : RowFault columns row e) :
    ∃ e', writeRow columns row = .error e' := by
  cases hwrite : writeRow columns row with
  | error e' => exact ⟨e', rfl⟩
  | ok bytes =>
    obtain ⟨hwidth, hcount, fields, hfields, -⟩ := writeRow_eq_ok_iff.1 hwrite
    have hall := exists_ok_of_writeFields hfields
    cases h with
    | width h => exact absurd hwidth h
    | tooManyColumns _ h => omega
    | conversion hmem h _ =>
      obtain ⟨field, hfield⟩ := hall _ hmem
      have herror := writeField_eq_error_iff.2 ⟨_, rfl, .inl h⟩
      cases herror.symm.trans hfield
    | fieldTooLarge hmem h hlarge =>
      obtain ⟨field, hfield⟩ := hall _ hmem
      have herror := writeField_eq_error_iff.2 ⟨_, rfl, .inr ⟨_, h, hlarge, rfl⟩⟩
      cases herror.symm.trans hfield

theorem rowFault_of_pushRow {e : Error} (h : buffer.pushRow row = .error e) :
    RowFault buffer.columnTypes row e :=
  rowFault_of_writeRow (Result.map_eq_error_iff.1 h)

/-! ## Rows one after another -/

/-- The rows that were accepted, going by the answers. -/
def accepted : List Row → List (Result Nat) → List Row
  | row :: rows, .ok _ :: answers => row :: accepted rows answers
  | _ :: rows, .error _ :: answers => accepted rows answers
  | _, _ => []

/-- One more row is answered by itself, and changes nothing if it is refused. -/
theorem pushRows_concat (buffer : CopyBuffer) (rows : List Row) (row : Row) :
    buffer.pushRows (rows ++ [row]) =
      match (buffer.pushRows rows).2.pushRow row with
      | .ok last => ((buffer.pushRows rows).1 ++ [.ok last.rows], last)
      | .error e => ((buffer.pushRows rows).1 ++ [.error e], (buffer.pushRows rows).2) := by
  induction rows generalizing buffer with
  | nil => cases hpush : buffer.pushRow row <;> simp [pushRows, hpush]
  | cons first rows ih =>
    cases hfirst : buffer.pushRow first with
    | error e =>
      cases hpush : (buffer.pushRows rows).2.pushRow row <;> simp [pushRows, hfirst, ih, hpush]
    | ok next =>
      cases hpush : (next.pushRows rows).2.pushRow row <;> simp [pushRows, hfirst, ih, hpush]

theorem length_answers (buffer : CopyBuffer) (rows : List Row) :
    (buffer.pushRows rows).1.length = rows.length := by
  induction rows generalizing buffer with
  | nil => rfl
  | cons row rows ih =>
    simp only [pushRows]
    cases buffer.pushRow row <;> simp [ih]

/-- Everything before the first tuple. -/
def header : Bytes :=
  signature ++ (IntType.int32.toBytes 0 ++ IntType.int32.toBytes 0)

/-- The buffer holds one tuple for each of the rows. -/
structure Holds (columns : List ValueType) (given : List Row) (tuples : List Tuple)
    (buffer : CopyBuffer) : Prop where
  columnTypes : buffer.columnTypes = columns
  body : ∃ written, buffer.body = header ++ written ∧ InSequence IsTuple tuples written
  count : buffer.rows = tuples.length
  pairs : List.Forall₂ (TupleOf columns) given tuples

variable {given : List Row} {tuples : List Tuple}

theorem holds_new (columns : List ValueType) : Holds columns [] [] (new columns) where
  columnTypes := rfl
  body := ⟨[], by simp [new, header], .nil⟩
  count := rfl
  pairs := .nil

/-- **A row that is accepted adds its tuple.** -/
theorem Holds.pushRow (h : Holds columns given tuples buffer) {buffer' : CopyBuffer}
    (hpush : buffer.pushRow row = .ok buffer') :
    ∃ tuple, Holds columns (given ++ [row]) (tuples ++ [tuple]) buffer' := by
  obtain ⟨bytes, hwrite, rfl⟩ := Result.map_eq_ok_iff.1 hpush
  rw [h.columnTypes] at hwrite
  obtain ⟨tuple, htuple, hbytes⟩ := exists_tuple_of_writeRow hwrite
  obtain ⟨written, hbody, hwritten⟩ := h.body
  refine ⟨tuple, h.columnTypes, ⟨written ++ bytes, ?_, hwritten.concat hbytes⟩, ?_, ?_⟩
  · simp [hbody]
  · simp [h.count]
  · exact List.rel_append h.pairs (.cons htuple .nil)

/-- Rows one after another add the tuples of those that are accepted. -/
theorem Holds.pushRows (h : Holds columns given tuples buffer) (rows : List Row) :
    ∃ more, Holds columns (given ++ accepted rows (buffer.pushRows rows).1) (tuples ++ more)
      (buffer.pushRows rows).2 := by
  -- What has been given so far grows with each row that is accepted; a row that is refused leaves
  -- the buffer, and with it what it holds.
  induction rows generalizing buffer given tuples with
  | nil => exact ⟨[], by simpa [CopyBuffer.pushRows, accepted] using h⟩
  | cons row rows ih =>
    cases hpush : buffer.pushRow row with
    | error e =>
      simpa only [CopyBuffer.pushRows, hpush, accepted] using ih h
    | ok next =>
      obtain ⟨tuple, hnext⟩ := h.pushRow hpush
      obtain ⟨more, hlast⟩ := ih hnext
      refine ⟨tuple :: more, ?_⟩
      simpa only [CopyBuffer.pushRows, hpush, accepted, List.append_assoc, List.singleton_append]
        using hlast

/-- What a buffer holds is what its payload is read as. -/
theorem Holds.isPayload (h : Holds columns given tuples buffer) :
    IsPayload tuples buffer.payload := by
  obtain ⟨written, hbody, hwritten⟩ := h.body
  have hzero : Spells .int32 0 (IntType.int32.toBytes 0) := spells_toBytes (by decide)
  have htrailer : Spells .int16 (-1) (IntType.int16.toBytes (-1)) := spells_toBytes (by decide)
  refine ⟨_, _, written, _, ?_, hzero, hzero, hwritten, htrailer⟩
  simp [payload, hbody, header, signature_eq]

/-- The errors among the answers are those of rows with faults. -/
theorem rowFault_of_answer {rows : List Row} {e : Error}
    (h : .error e ∈ (buffer.pushRows rows).1) : ∃ row ∈ rows, RowFault buffer.columnTypes row e := by
  induction rows generalizing buffer with
  | nil => simp [pushRows] at h
  | cons row rows ih =>
    cases hpush : buffer.pushRow row with
    | error e' =>
      simp only [pushRows, hpush, List.mem_cons, Except.error.injEq] at h
      rcases h with rfl | h
      · exact ⟨row, by simp, rowFault_of_pushRow hpush⟩
      · obtain ⟨later, hmem, hfault⟩ := ih h
        exact ⟨later, by simp [hmem], hfault⟩
    | ok next =>
      obtain ⟨bytes, -, rfl⟩ := Result.map_eq_ok_iff.1 hpush
      simp only [pushRows, hpush, List.mem_cons, reduceCtorEq, false_or] at h
      obtain ⟨later, hmem, hfault⟩ := ih h
      exact ⟨later, by simp [hmem], hfault⟩

/-- **The payload decodes to the accepted rows.** Whatever rows are pushed for whatever columns, the
payload has one reading. It has as many tuples as there are rows in it: one for each row that was
accepted, in order, with a field for each column, which is NULL or the bytes of the row's value. A row
is refused exactly when it has a fault, which its error names; then the buffer stays as it was. No
value is ever encoded to nothing. -/
theorem payload_decodes_to_accepted (columns : List ValueType) (rows : List Row) :
    let answers := ((new columns).pushRows rows).1
    let buffer := ((new columns).pushRows rows).2
    (∃ tuples, readPayload? buffer.payload = some tuples ∧
      (∀ other, IsPayload other buffer.payload ↔ other = tuples) ∧
      tuples.length = buffer.rows ∧
      List.Forall₂ (TupleOf columns) (accepted rows answers) tuples) ∧
    answers.length = rows.length ∧
    (∀ row e, buffer.pushRow row = .error e →
      RowFault columns row e ∧
        (new columns).pushRows (rows ++ [row]) = (answers ++ [.error e], buffer)) ∧
    (∀ row e, RowFault columns row e → ∃ e', buffer.pushRow row = .error e') ∧
    .error (.copy .nothingEncoded) ∉ answers := by
  intro answers buffer
  obtain ⟨tuples, hholds⟩ : ∃ tuples, Holds columns (accepted rows answers) tuples buffer := by
    simpa using (holds_new columns).pushRows rows
  have hread := readPayload?_eq_some_iff.2 hholds.isPayload
  refine ⟨⟨tuples, hread, ?_, hholds.count.symm, hholds.pairs⟩, length_answers .., ?_, ?_, ?_⟩
  · intro other
    rw [← readPayload?_eq_some_iff, hread, Option.some.injEq, eq_comm]
  · intro row e hpush
    constructor
    · rw [← hholds.columnTypes]
      exact rowFault_of_pushRow hpush
    · rw [pushRows_concat, hpush]
  · intro row e hfault
    obtain ⟨e', hwrite⟩ := hfault.exists_error
    rw [← hholds.columnTypes] at hwrite
    exact ⟨e', Result.map_eq_error_iff.2 hwrite⟩
  · intro hmem
    obtain ⟨row, -, hfault⟩ := rowFault_of_answer hmem
    exact hfault.ne_nothingEncoded rfl

/-- A number that does not fit comes behind a text that does, and neither is in the payload. -/
example :
    ((new [.varchar, .short]).pushRows
      [[some (.utf8 "ab"), some (.int32 7)], [some (.utf8 "cd"), some (.int32 70000)],
        [none, none]]).2.payload.drop header.length =
      [0, 2, 0, 0, 0, 2, 97, 98, 0, 0, 0, 2, 0, 7] ++
        [0, 2, 255, 255, 255, 255, 255, 255, 255, 255] ++ [255, 255] := by
  decide

end CopyBuffer

end PortableSql.Postgres
