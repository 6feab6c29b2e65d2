import PortableSql.Proofs.Conversion.Kinds
import PortableSql.Proofs.Postgres.Cells

/-!
# The form of what is bound on PostgreSQL

The server takes a parameter for a value of its type by the number of its bytes. Whatever is bound to
a slot, and whatever way it takes there, has the form that belongs to the type of the slot.
-/
namespace PortableSql.Postgres

open Result (Ensures)

/-- The bytes are of the form that the values of a type have. Two types have no values. -/
def HasForm (target : ValueType) (raw : Bytes) : Prop :=
  match target with
  | .boolean => raw.length = 1
  | .short => raw.length = 2
  | .integer | .float | .date => raw.length = 4
  | .bigint | .double | .time | .timestamp => raw.length = 8
  | .char | .varchar => ∃ text, Text.Utf8.decode? raw = some text
  | .blob | .any => True
  | .none | .null => False

/-! ## One form after the other -/

theorem length_toBytes_single (x : Single) : x.toBytes.length = 4 :=
  BigEndian.length_ofNat ..

theorem length_toBytes_double (x : Double) : x.toBytes.length = 8 :=
  BigEndian.length_ofNat ..

variable {target : ValueType}

theorem hasForm_text (h : target = .char ∨ target = .varchar) (text : String) :
    HasForm target (Text.Utf8.encode text) := by
  obtain rfl | rfl := h <;> exact ⟨text, Text.Utf8.decode?_encode text⟩

theorem hasForm_encodeDate (d : Date) : Ensures (encodeDate target d) (HasForm target) := by
  unfold encodeDate
  split
  · exact .map fun _ => IntType.length_toBytes ..
  · exact .map fun _ => IntType.length_toBytes ..
  · exact .ok (hasForm_text (.inl rfl) d.text)
  · exact .ok (hasForm_text (.inr rfl) d.text)
  · exact .error

theorem hasForm_encodeTime (t : Time) : Ensures (encodeTime target t) (HasForm target) := by
  unfold encodeTime
  split
  · exact .map fun _ => IntType.length_toBytes ..
  · exact .ok (hasForm_text (.inl rfl) t.text)
  · exact .ok (hasForm_text (.inr rfl) t.text)
  · exact .error

theorem hasForm_encodeTimestamp (t : Timestamp) :
    Ensures (encodeTimestamp target t) (HasForm target) := by
  unfold encodeTimestamp
  split
  · exact .map fun _ => IntType.length_toBytes ..
  · exact .map fun _ => IntType.length_toBytes ..
  · exact .map fun _ => IntType.length_toBytes ..
  · exact .ok (hasForm_text (.inl rfl) t.text)
  · exact .ok (hasForm_text (.inr rfl) t.text)
  · exact .error

theorem hasForm_encodeBlob (bytes : Bytes) : Ensures (encodeBlob target bytes) (HasForm target) := by
  unfold encodeBlob
  split
  · exact .ok trivial
  · exact .ok trivial
  · exact .error

/-- What has arrived in a parameter has a form of its own, which is that of the parameter. -/
theorem hasForm_nativeBytes {arrived : Value}
    (h : Conversion.arrivalKind? target = some arrived.kind) :
    HasForm target (nativeBytes arrived) := by
  cases target with
  | short | integer | bigint =>
    cases arrived <;> cases h
    exact IntType.length_toBytes ..
  | float =>
    cases arrived <;> cases h
    exact length_toBytes_single _
  | double =>
    cases arrived <;> cases h
    exact length_toBytes_double _
  | char | varchar =>
    cases arrived <;> cases h
    exact hasForm_text (by simp) _
  | _ => cases h

theorem hasForm_encodeScalar (value : Value) :
    Ensures (encodeScalar target value) (HasForm target) := by
  -- what has no bytes of its own for the type goes by way of the conversions
  have hland : Ensures ((Conversion.land target value).map nativeBytes) (HasForm target) :=
    .map_of (Conversion.kind_of_land value) fun _ => hasForm_nativeBytes
  cases target with
  | boolean =>
    cases value with
    | int16 | int32 | int64 => exact .ok rfl
    | utf8 => exact .map fun _ => rfl
    | _ => exact hland
  | any | blob =>
    cases value with
    | utf8 => exact .ok trivial
    | _ => exact hland
  | _ => exact hland

/-- **A value that has a form in a type has the form of the type.** -/
theorem hasForm_encode (value : Value) : Ensures (encode target value) (HasForm target) := by
  cases value with
  | date d => exact hasForm_encodeDate d
  | time t => exact hasForm_encodeTime t
  | timestamp t => exact hasForm_encodeTimestamp t
  | blob bytes => exact hasForm_encodeBlob bytes
  | _ => exact hasForm_encodeScalar _

/-! ## Types with values -/

theorem HasForm.valued {raw : Bytes} (h : HasForm target raw) :
    target ≠ .none ∧ target ≠ .null := by
  constructor <;> rintro rfl <;> exact h

theorem exists_encode_zero (h : target ∈ [.short, .integer, .bigint, .float, .double, .boolean]) :
    ∃ raw, encode target (.int16 0) = .ok raw := by
  simp only [List.mem_cons, List.not_mem_nil, or_false] at h
  rcases h with rfl | rfl | rfl | rfl | rfl | rfl <;> exact ⟨_, rfl⟩

/-- A timestamp with a form on the wire has one as a date and as a time of day as well. -/
theorem exists_encode_timestamp {t : Timestamp} {micros : Int} (h : ofTimestamp t = .ok micros)
    (htarget : target ∈ [.date, .time, .timestamp]) :
    ∃ raw, encode target (.timestamp t) = .ok raw := by
  obtain ⟨days, time, hdays, htime, -⟩ := ofTimestamp_eq_ok_iff.1 h
  simp only [List.mem_cons, List.not_mem_nil, or_false] at htarget
  rcases htarget with rfl | rfl | rfl
  · exact ⟨_, congrArg (Except.map IntType.int32.toBytes) hdays⟩
  · exact ⟨_, congrArg (Except.map IntType.int64.toBytes) htime⟩
  · exact ⟨_, congrArg (Except.map IntType.int64.toBytes) h⟩

theorem ofTimestamp_epoch : ofTimestamp ⟨⟨2000, 1, 1⟩, .midnight⟩ = .ok 0 :=
  ofTimestamp_eq_ok_iff.2
    ⟨0, 0, ofDate_eq_ok_iff.2 (by decide), ofTime_eq_ok_iff.2 (by decide), by decide⟩

/-- **Two types have no values**, and every other type has some. -/
theorem exists_encode_iff :
    (∃ value raw, encode target value = .ok raw) ↔ target ≠ .none ∧ target ≠ .null := by
  constructor
  · rintro ⟨value, raw, hencode⟩
    exact ((hasForm_encode value).holds raw hencode).valued
  · rintro ⟨hnone, hnull⟩
    cases target with
    | none => exact absurd rfl hnone
    | null => exact absurd rfl hnull
    | date | time | timestamp => exact ⟨_, exists_encode_timestamp ofTimestamp_epoch (by simp)⟩
    | short | integer | bigint | float | double | boolean => exact ⟨_, exists_encode_zero (by simp)⟩
    | char | varchar | any | blob => exact ⟨.utf8 "", _, rfl⟩

/-! ## Slots -/

namespace Cells

variable {cells cells' : Cells} {slot : Nat}

theorem mem_of_put {cell : Option Bytes} (h : cells.put slot cell = .ok cells') :
    (1 ≤ slot ∧ slot ≤ cells.length) ∧ cells'.raw slot = .ok cell := by
  rw [put] at h
  cases hset : OneBased.set? cells slot cell with
  | none =>
    rw [hset] at h
    cases h
  | some after =>
    rw [hset] at h
    cases h
    obtain ⟨n, hn, hlt, -⟩ := OneBased.set?_eq_some_iff.1 hset
    refine ⟨by omega, ?_⟩
    rw [raw, OneBased.get?_of_set? hset, if_pos rfl]

/-- Whether there is a slot that takes a value depends on the slot and on the type. -/
theorem exists_bind_iff :
    (∃ value cells', cells.bind slot target (some value) = .ok cells') ↔
      (1 ≤ slot ∧ slot ≤ cells.length) ∧ target ≠ .none ∧ target ≠ .null := by
  rw [← exists_encode_iff]
  constructor
  · rintro ⟨value, cells', h⟩
    obtain ⟨raw, hencode, hput⟩ := Result.bind_eq_ok_iff.1 h
    exact ⟨(mem_of_put hput).1, value, raw, hencode⟩
  · rintro ⟨hslot, value, raw, hencode⟩
    obtain ⟨cells', hput, -⟩ := put_of_mem hslot (some raw)
    exact ⟨value, cells', Result.bind_eq_ok_iff.2 ⟨raw, hencode, hput⟩⟩

end Cells

/-- **What is bound has the form of the declared type**: the number of bytes that the numbers, dates
and times of the type have, one byte for a truth value, and well-formed UTF-8 for a text. There is
something to bind to every slot of a type that has values, and to no other. -/
theorem bound_bytes_have_form (cells : Cells) (slot : Nat) (target : ValueType) :
    (∀ value cells', cells.bind slot target (some value) = .ok cells' →
      ∃ raw, cells'.raw slot = .ok (some raw) ∧ HasForm target raw) ∧
    ((∃ value cells', cells.bind slot target (some value) = .ok cells') ↔
      (1 ≤ slot ∧ slot ≤ cells.length) ∧ target ≠ .none ∧ target ≠ .null) := by
  refine ⟨?_, Cells.exists_bind_iff⟩
  intro value cells' h
  obtain ⟨raw, hencode, hput⟩ := Result.bind_eq_ok_iff.1 h
  exact ⟨raw, (Cells.mem_of_put hput).2, (hasForm_encode value).holds raw hencode⟩

end PortableSql.Postgres
