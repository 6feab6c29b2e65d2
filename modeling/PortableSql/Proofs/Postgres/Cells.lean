import PortableSql.Postgres.Cells
import PortableSql.Proofs.Bytes.BigEndian
import PortableSql.Proofs.Conversion.Refusal
import PortableSql.Proofs.Conversion.RoundTrip
import PortableSql.Proofs.Postgres.Wire
import PortableSql.Proofs.Result
import PortableSql.Proofs.Text.Utf8

/-!
# What is bound on PostgreSQL is read back

A value that has been written into a slot in the binary form of its own type is read from the slot
as that value: numbers from their bytes, text from its UTF-8, dates and times by way of their numbers
on the wire. Of the numbers, texts and binary objects only malformed 16-bit text has no binary form.
Whatever has none in the type of a slot is refused with the error of a conversion.
-/
namespace PortableSql.Postgres

open Conversion (Arrives Gives land fetch)

variable {v : Value}

/-! ## Bytes -/

/-- The bytes of what has arrived in a parameter give it back. -/
theorem gives_nativeBytes {arrived : Value} (h : Arrives v arrived) :
    Gives (reader (nativeBytes arrived)) arrived := by
  cases h with
  | int16 n =>
    simp [Gives, reader, nativeBytes, IntType.readBytes_toBytes (IntType.fits_int16 n), Except.map]
  | int32 n =>
    simp [Gives, reader, nativeBytes, IntType.readBytes_toBytes (IntType.fits_int32 n), Except.map]
  | int64 n =>
    simp [Gives, reader, nativeBytes, IntType.readBytes_toBytes (IntType.fits_int64 n), Except.map]
  | utf8 text => simp [Gives, reader, nativeBytes, textOfBytes, Text.Utf8.decode?_encode]
  | utf16 text => simp [Gives, reader, nativeBytes, textOfBytes, Text.Utf8.decode?_encode]

/-- A value that goes by way of the conversions, in and out, is read back from its bytes. -/
theorem decodeBytes_of_land (hv : v.Discrete) {raw : Bytes}
    (hwrite : encode v.kind.naturalType v = (land v.kind.naturalType v).map nativeBytes)
    (hread : decodeBytes v.kind.naturalType v.kind raw =
      fetch (reader raw) v.kind.naturalType v.kind)
    (h : encode v.kind.naturalType v = .ok raw) :
    decodeBytes v.kind.naturalType v.kind raw = .ok v := by
  rw [hwrite] at h
  obtain ⟨arrived, hland, rfl⟩ := Result.map_eq_ok_iff.1 h
  have harrives := Conversion.arrives_of_land hv hland
  rw [hread]
  exact harrives.fetch (gives_nativeBytes harrives)

theorem dateOfBytes_of_ofDate {d : Date} (h : d.Valid) {days : Int} (hdays : ofDate d = .ok days) :
    dateOfBytes (IntType.int32.toBytes days) = .ok d := by
  obtain ⟨-, hfits⟩ := ofDate_eq_ok_iff.1 hdays
  rw [dateOfBytes, IntType.readBytes_toBytes hfits]
  exact toDate_of_ofDate h hdays

theorem timeOfBytes_of_ofTime {t : Time} (h : t.Valid) {micros : Int}
    (hmicros : ofTime t = .ok micros) : timeOfBytes (IntType.int64.toBytes micros) = .ok t := by
  obtain ⟨hform, hnonneg, hlt⟩ := ofTime_eq_of_valid h
  obtain rfl : t.totalMillis * microsPerMilli = micros := Except.ok.inj (hform.symm.trans hmicros)
  have hfits : IntType.int64.Fits (t.totalMillis * microsPerMilli) := by
    have hleast : IntType.int64.least ≤ 0 := by decide
    have hgreatest : microsPerDay ≤ IntType.int64.greatest := by decide
    exact ⟨Int.le_trans hleast hnonneg, Int.le_trans (Int.le_of_lt hlt) hgreatest⟩
  rw [timeOfBytes, IntType.readBytes_toBytes hfits, Except.map, toTime_of_valid h]

theorem timestampOfBytes_of_ofTimestamp {t : Timestamp} (h : t.Valid) {micros : Int}
    (hmicros : ofTimestamp t = .ok micros) :
    timestampOfBytes (IntType.int64.toBytes micros) = .ok t := by
  obtain ⟨-, -, -, -, -, -, hfits⟩ := ofTimestamp_eq_ok_iff.1 hmicros
  rw [timestampOfBytes, IntType.readBytes_toBytes hfits]
  exact toTimestamp_of_ofTimestamp h hmicros

theorem encode_timestamp (t : Timestamp) :
    encode .timestamp (.timestamp t) = (ofTimestamp t).map IntType.int64.toBytes := rfl

/-- **A value is read back from the bytes it is written as.** -/
theorem decodeBytes_of_encode (hv : v.Discrete) {raw : Bytes}
    (h : encode v.kind.naturalType v = .ok raw) :
    decodeBytes v.kind.naturalType v.kind raw = .ok v := by
  cases v with
  | int16 | int32 | int64 | utf8 | utf16 => exact decodeBytes_of_land hv rfl rfl h
  | float | double => exact hv.elim
  | date d =>
    obtain ⟨days, hdays, rfl⟩ := Result.map_eq_ok_iff.1 h
    exact Result.map_eq_ok_iff.2 ⟨d, dateOfBytes_of_ofDate hv hdays, rfl⟩
  | time t =>
    obtain ⟨micros, hmicros, rfl⟩ := Result.map_eq_ok_iff.1 h
    exact Result.map_eq_ok_iff.2 ⟨t, timeOfBytes_of_ofTime hv hmicros, rfl⟩
  | timestamp t =>
    obtain ⟨micros, hmicros, rfl⟩ := Result.map_eq_ok_iff.1 h
    exact Result.map_eq_ok_iff.2 ⟨t, timestampOfBytes_of_ofTimestamp hv hmicros, rfl⟩
  | blob bytes =>
    cases h
    rfl

/-! ## What has no binary form -/

section

variable (target : ValueType)

theorem converts_ofDate (d : Date) : Converts (ofDate d) :=
  .ite (.ok _) (.error (.range _))

theorem converts_ofTime (t : Time) : Converts (ofTime t) :=
  .ite (.ok _) (.error (.range _))

theorem converts_ofTimestamp (t : Timestamp) : Converts (ofTimestamp t) :=
  (converts_ofTime t.time).bind fun _ => (converts_ofDate t.date).bind fun _ =>
    .ite (.ok _) (.error (.range _))

theorem converts_encodeDate (d : Date) : Converts (encodeDate target d) := by
  unfold encodeDate
  split
  · exact (converts_ofDate d).map _
  · exact (converts_ofTimestamp _).map _
  · exact .ok _
  · exact .ok _
  · exact Conversion.converts_noForm ..

theorem converts_encodeTime (t : Time) : Converts (encodeTime target t) := by
  unfold encodeTime
  split
  · exact (converts_ofTime t).map _
  · exact .ok _
  · exact .ok _
  · exact Conversion.converts_noForm ..

theorem converts_encodeTimestamp (t : Timestamp) : Converts (encodeTimestamp target t) := by
  unfold encodeTimestamp
  split
  · exact (converts_ofTimestamp t).map _
  · exact (converts_ofDate t.date).map _
  · exact (converts_ofTime t.time).map _
  · exact .ok _
  · exact .ok _
  · exact Conversion.converts_noForm ..

theorem converts_encodeBlob (bytes : Bytes) : Converts (encodeBlob target bytes) := by
  unfold encodeBlob
  split
  · exact .ok _
  · exact .ok _
  · exact Conversion.converts_noForm ..

theorem converts_flagOfText (text : String) : Converts (flagOfText text) := by
  rw [flagOfText]
  split
  · exact .ok _
  · exact (Conversion.converts_textToInt ..).map _

theorem converts_encodeScalar (value : Value) : Converts (encodeScalar target value) := by
  unfold encodeScalar
  split
  · exact .ok _
  · exact .ok _
  · exact .ok _
  · exact (converts_flagOfText _).map _
  · exact .ok _
  · exact .ok _
  · exact (Conversion.converts_land ..).map _

/-- **A value has no binary form only because of a conversion.** -/
theorem converts_encode (value : Value) : Converts (encode target value) := by
  cases value with
  | date d => exact converts_encodeDate target d
  | time t => exact converts_encodeTime target t
  | timestamp t => exact converts_encodeTimestamp target t
  | blob bytes => exact converts_encodeBlob target bytes
  | int16 | int32 | int64 | float | double | utf8 | utf16 => exact converts_encodeScalar ..

end

/-! ## Slots -/

namespace Cells

variable {cells : Cells} {slot : Nat}

/-- A slot in range takes any cell, and holds it afterwards. -/
theorem put_of_mem (hslot : 1 ≤ slot ∧ slot ≤ cells.length) (cell : Option Bytes) :
    ∃ cells', cells.put slot cell = .ok cells' ∧ cells'.raw slot = .ok cell := by
  obtain ⟨cells', hset, hget⟩ := OneBased.exists_set?_of_mem hslot cell
  refine ⟨cells', ?_, ?_⟩
  · rw [put, hset]
  · rw [raw, hget]

theorem bytes_of_raw {raw : Bytes} (h : cells.raw slot = .ok (some raw)) :
    cells.bytes slot = .ok raw := by
  rw [bytes, h]
  rfl

/-- Whether a slot in range takes a value depends on the bytes of the value alone. -/
theorem bind_eq_error_iff (hslot : 1 ≤ slot ∧ slot ≤ cells.length) {target : ValueType}
    {e : Error} : cells.bind slot target (some v) = .error e ↔ encode target v = .error e := by
  simp only [Cells.bind, Result.bind_eq_error_iff]
  constructor
  · rintro (hencode | ⟨raw, -, hput⟩)
    · exact hencode
    · obtain ⟨cells', hput', -⟩ := put_of_mem hslot (some raw)
      cases hput'.symm.trans hput
  · exact .inl

/-- The slot holds the bytes of the value that has been put there. -/
theorem bytes_of_bind (hslot : 1 ≤ slot ∧ slot ≤ cells.length) {target : ValueType}
    {cells' : Cells} (h : cells.bind slot target (some v) = .ok cells') :
    ∃ raw, encode target v = .ok raw ∧ cells'.bytes slot = .ok raw := by
  obtain ⟨raw, hencode, hput⟩ := Result.bind_eq_ok_iff.1 h
  obtain ⟨cells'', hput', hraw⟩ := put_of_mem hslot (some raw)
  cases hput'.symm.trans hput
  exact ⟨raw, hencode, bytes_of_raw hraw⟩

end Cells

/-- Malformed 16-bit text is the only text without a binary form. -/
theorem encode_utf16_fails_iff {units : List UInt16} :
    (∃ e, encode .varchar (.utf16 units) = .error e) ↔ Text.Utf16.HasLoneSurrogate units := by
  have hland : encode .varchar (.utf16 units) =
      (land .varchar (.utf16 units)).map nativeBytes := rfl
  simp only [hland, Result.map_eq_error_iff, Conversion.land_utf16_fails_iff]

/-- A number, a text in UTF-8 and a binary object have a form in their own type. -/
theorem exists_encode
    (h : v.kind ∈ [.int16, .int32, .int64, .utf8, .blob]) :
    ∃ raw, encode v.kind.naturalType v = .ok raw := by
  cases v with
  | int16 n => exact ⟨_, congrArg (Except.map nativeBytes) (Conversion.land_int16 n)⟩
  | int32 n => exact ⟨_, congrArg (Except.map nativeBytes) (Conversion.land_int32 n)⟩
  | int64 n => exact ⟨_, congrArg (Except.map nativeBytes) (Conversion.land_int64 n)⟩
  | utf8 text => exact ⟨_, rfl⟩
  | blob bytes => exact ⟨bytes, rfl⟩
  | float | double | utf16 | date | time | timestamp => simp [Value.kind] at h

/-- **What is bound is read back.** A slot in range that takes a value in the value's own type gives
it back when it is read in that type and as that kind, unless it is a floating-point number. It
refuses 16-bit text exactly when a surrogate in the text has no partner, and never refuses an
integer, a text in UTF-8 or a binary object. -/
theorem bound_value_reads_back {cells : Cells} {slot : Nat}
    (hslot : 1 ≤ slot ∧ slot ≤ cells.length) {v : Value} (hv : v.Discrete) :
    (∀ cells', cells.bind slot v.kind.naturalType (some v) = .ok cells' →
      cells'.decode v.kind.naturalType slot v.kind = .ok v) ∧
    (∀ units, v = .utf16 units →
      ((∃ e, cells.bind slot v.kind.naturalType (some v) = .error e) ↔
        Text.Utf16.HasLoneSurrogate units)) ∧
    (v.kind ∈ [.int16, .int32, .int64, .utf8, .blob] →
      ∃ cells', cells.bind slot v.kind.naturalType (some v) = .ok cells') := by
  refine ⟨?_, ?_, ?_⟩
  · intro cells' hbind
    obtain ⟨raw, hencode, hbytes⟩ := Cells.bytes_of_bind hslot hbind
    rw [Cells.decode, hbytes]
    exact decodeBytes_of_encode hv hencode
  · rintro units rfl
    simp only [Cells.bind_eq_error_iff hslot]
    exact encode_utf16_fails_iff
  · intro hkind
    obtain ⟨raw, hencode⟩ := exists_encode hkind
    obtain ⟨cells', hput, -⟩ := Cells.put_of_mem hslot (some raw)
    exact ⟨cells', Result.bind_eq_ok_iff.2 ⟨raw, hencode, hput⟩⟩

/-- The last millisecond before the day from which days are counted, on its way through a slot: its
number is negative. -/
theorem last_millisecond_reads_back :
    let stamp : Timestamp := ⟨⟨1999, 12, 31⟩, ⟨23, 59, 59, 999⟩⟩
    let cells' : Cells := [none, some [0xFF, 0xFF, 0xFF, 0xFF, 0xFF, 0xFF, 0xFC, 0x18], none]
    (1 ≤ 2 ∧ 2 ≤ (Cells.ofLength 3).length) ∧ (Value.timestamp stamp).Discrete ∧
      (Cells.ofLength 3).bind 2 .timestamp (some (.timestamp stamp)) = .ok cells' ∧
      cells'.decode .timestamp 2 .timestamp = .ok (.timestamp stamp) := by
  intro stamp cells'
  have hslot : 1 ≤ 2 ∧ 2 ≤ (Cells.ofLength 3).length := by decide
  have hvalid : stamp.Valid := by decide
  have hdays : ofDate stamp.date = .ok (-1) := ofDate_eq_ok_iff.2 (by decide)
  have htime : ofTime stamp.time = .ok 86399999000 := ofTime_eq_ok_iff.2 (by decide)
  have hform : ofTimestamp stamp = .ok (-1000) :=
    ofTimestamp_eq_ok_iff.2
      ⟨-1, 86399999000, hdays, htime, by decide, by decide, by decide⟩
  have hbytes : IntType.int64.toBytes (-1000) =
      [0xFF, 0xFF, 0xFF, 0xFF, 0xFF, 0xFF, 0xFC, 0x18] := by decide
  have hencode : encode .timestamp (.timestamp stamp) =
      .ok [0xFF, 0xFF, 0xFF, 0xFF, 0xFF, 0xFF, 0xFC, 0x18] := by
    rw [encode_timestamp, hform, ← hbytes]
    rfl
  have hbind : (Cells.ofLength 3).bind 2 .timestamp (some (.timestamp stamp)) = .ok cells' :=
    Result.bind_eq_ok_iff.2 ⟨_, hencode, rfl⟩
  exact ⟨hslot, hvalid, hbind,
    (bound_value_reads_back (v := .timestamp stamp) hslot hvalid).1 cells' hbind⟩

end PortableSql.Postgres
