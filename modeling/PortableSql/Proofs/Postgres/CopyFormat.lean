import PortableSql.Postgres.Copy
import PortableSql.Proofs.Bytes.BigEndian

/-!
# The binary copy format

What a payload of the format is, told from the side of those who read it: a signature, two zero words,
tuples, and a trailer in place of another tuple's field count. The format has a reader, which takes the
parts off the front of a payload one by one. It finds the tuples of every payload and refuses
everything else, so that no payload has two readings.
-/
namespace PortableSql.Postgres.CopyFormat

/-- The fields of a row as they are sent, each the bytes of a value or NULL. -/
abbrev Tuple := List (Option Bytes)

/-! ## Payloads -/

/-- The bytes are those of the type that are read as the number. -/
def Spells (t : IntType) (n : Int) (bytes : Bytes) : Prop :=
  bytes.length = t.size ∧ t.readBytes bytes = .ok n

/-- A field is the number of its bytes and then the bytes, or the number -1 for NULL. -/
inductive IsField : Option Bytes → Bytes → Prop
  | null {size : Bytes} (h : Spells .int32 (-1) size) : IsField none size
  | value {size : Bytes} (bytes : Bytes) (h : Spells .int32 bytes.length size) :
    IsField (some bytes) (size ++ bytes)

/-- Items one after another. -/
inductive InSequence {α : Type} (IsItem : α → Bytes → Prop) : List α → Bytes → Prop
  | nil : InSequence IsItem [] []
  | cons {item : α} {items : List α} {bytes rest : Bytes} (h : IsItem item bytes)
    (hrest : InSequence IsItem items rest) : InSequence IsItem (item :: items) (bytes ++ rest)

/-- A tuple is the number of its fields and then the fields. -/
def IsTuple (tuple : Tuple) (bytes : Bytes) : Prop :=
  ∃ count fields, Spells .int16 tuple.length count ∧ InSequence IsField tuple fields ∧
    bytes = count ++ fields

/-- The bytes by which the format is known. -/
def signature : Bytes :=
  Text.Utf8.encode "PGCOPY\n" ++ 0xFF :: Text.Utf8.encode "\r\n\x00"

/-- A payload of tuples. -/
def IsPayload (tuples : List Tuple) (payload : Bytes) : Prop :=
  ∃ flags extension body trailer,
    payload = signature ++ (flags ++ (extension ++ (body ++ trailer))) ∧
      Spells .int32 0 flags ∧ Spells .int32 0 extension ∧ InSequence IsTuple tuples body ∧
      Spells .int16 (-1) trailer

theorem spells_toBytes {t : IntType} {n : Int} (h : t.Fits n) : Spells t n (t.toBytes n) :=
  ⟨IntType.length_toBytes t n, IntType.readBytes_toBytes h⟩

/-- One more item behind the others. -/
theorem InSequence.concat {α : Type} {IsItem : α → Bytes → Prop} {items : List α} {item : α}
    {bytes more : Bytes} (h : InSequence IsItem items bytes) (hitem : IsItem item more) :
    InSequence IsItem (items ++ [item]) (bytes ++ more) := by
  induction h with
  | nil => simpa using InSequence.cons hitem .nil
  | cons hfirst _ ih =>
    rw [List.append_assoc]
    exact .cons hfirst ih

theorem signature_eq : CopyBuffer.signature = signature := by decide

/-! ## Taking parts off the front -/

/-- The reader takes an item off the front of a buffer exactly when its bytes stand there. -/
def Takes {α : Type} (take? : Bytes → Option (α × Bytes)) (Is : α → Bytes → Prop) : Prop :=
  ∀ buffer item rest,
    take? buffer = some (item, rest) ↔ ∃ bytes, Is item bytes ∧ buffer = bytes ++ rest

/-- Takes a number. -/
def takeInt? (t : IntType) (buffer : Bytes) : Option (Int × Bytes) :=
  match t.readBytes buffer with
  | .ok n => some (n, buffer.drop t.size)
  | .error _ => none

/-- Takes a given number. -/
def takeNumber? (t : IntType) (n : Int) (buffer : Bytes) : Option Bytes :=
  match takeInt? t buffer with
  | some (m, rest) => if m = n then some rest else none
  | none => none

/-- Takes a field. -/
def takeField? (buffer : Bytes) : Option (Option Bytes × Bytes) :=
  match takeInt? .int32 buffer with
  | some (size, rest) =>
    if size = -1 then some (none, rest)
    else if 0 ≤ size ∧ size ≤ rest.length then
      some (some (rest.take size.toNat), rest.drop size.toNat)
    else none
  | none => none

/-- Takes a number of fields. -/
def takeFields? : Nat → Bytes → Option (Tuple × Bytes)
  | 0, buffer => some ([], buffer)
  | count + 1, buffer =>
    match takeField? buffer with
    | some (field, rest) => (takeFields? count rest).map fun (fields, rest) => (field :: fields, rest)
    | none => none

/-- Takes a tuple. -/
def takeTuple? (buffer : Bytes) : Option (Tuple × Bytes) :=
  match takeInt? .int16 buffer with
  | some (count, rest) => if 0 ≤ count then takeFields? count.toNat rest else none
  | none => none

/-- Takes the signature. -/
def takeSignature? (buffer : Bytes) : Option Bytes :=
  if buffer.take signature.length = signature then some (buffer.drop signature.length) else none

theorem takes_int (t : IntType) : Takes (takeInt? t) (Spells t) := by
  intro buffer n rest
  rw [takeInt?]
  constructor
  · intro h
    cases hread : t.readBytes buffer with
    | error e => simp [hread] at h
    | ok m =>
      obtain ⟨rfl, rfl⟩ : m = n ∧ buffer.drop t.size = rest := by simpa [hread] using h
      have hlength : (buffer.take t.size).length = t.size :=
        List.length_take_of_le (IntType.size_le_of_readBytes hread)
      have hsame := IntType.readBytes_append (Nat.le_of_eq hlength.symm) (buffer.drop t.size)
      rw [List.take_append_drop] at hsame
      exact ⟨buffer.take t.size, ⟨hlength, hsame.symm.trans hread⟩,
        (List.take_append_drop ..).symm⟩
  · rintro ⟨bytes, ⟨hlength, hread⟩, rfl⟩
    rw [IntType.readBytes_append (Nat.le_of_eq hlength.symm), hread]
    simp [← hlength]

theorem takeNumber?_eq_some_iff {t : IntType} {n : Int} {buffer rest : Bytes} :
    takeNumber? t n buffer = some rest ↔ ∃ bytes, Spells t n bytes ∧ buffer = bytes ++ rest := by
  rw [← takes_int t buffer n rest, takeNumber?]
  cases takeInt? t buffer with
  | none => simp
  | some taken =>
    obtain ⟨m, rest'⟩ := taken
    by_cases hm : m = n <;> simp [hm]

theorem takeSignature?_eq_some_iff {buffer rest : Bytes} :
    takeSignature? buffer = some rest ↔ buffer = signature ++ rest := by
  rw [takeSignature?]
  constructor
  · intro h
    split at h
    · next htake =>
      cases h
      have hsplit := List.take_append_drop signature.length buffer
      rw [htake] at hsplit
      exact hsplit.symm
    · cases h
  · rintro rfl
    simp

theorem takes_field : Takes takeField? IsField := by
  intro buffer field rest
  rw [takeField?]
  constructor
  · intro h
    cases hint : takeInt? .int32 buffer with
    | none => simp [hint] at h
    | some taken =>
      obtain ⟨n, after⟩ := taken
      obtain ⟨size, hsize, rfl⟩ := (takes_int .int32 _ _ _).1 hint
      simp only [hint] at h
      split at h
      · next hn =>
        cases h
        exact ⟨size, .null (hn ▸ hsize), rfl⟩
      · split at h
        · next hn =>
          cases h
          have hlength : ((after.take n.toNat).length : Int) = n := by
            rw [List.length_take]
            omega
          refine ⟨size ++ after.take n.toNat, .value _ (hlength.symm ▸ hsize), ?_⟩
          rw [List.append_assoc, List.take_append_drop]
        · cases h
  · rintro ⟨bytes, hfield, rfl⟩
    cases hfield with
    | null hsize => rw [(takes_int .int32 _ _ rest).2 ⟨bytes, hsize, rfl⟩]; rfl
    | @value size value hsize =>
      have htake : takeInt? .int32 (size ++ value ++ rest) = some ((value.length : Int), value ++ rest) :=
        (takes_int .int32 _ _ _).2 ⟨size, hsize, List.append_assoc ..⟩
      have hsign : ¬(value.length : Int) = -1 := by omega
      have hroom : 0 ≤ (value.length : Int) ∧ (value.length : Int) ≤ (value ++ rest).length := by
        rw [List.length_append]
        omega
      simp only [htake, if_neg hsign, if_pos hroom, Int.toNat_natCast]
      simp

theorem takes_fields (count : Nat) :
    Takes (takeFields? count)
      fun fields bytes => fields.length = count ∧ InSequence IsField fields bytes := by
  -- By the number of fields, for all buffers at once: the others are taken off what the first leaves.
  induction count with
  | zero =>
    intro buffer fields rest
    constructor
    · intro h
      cases h
      exact ⟨[], ⟨rfl, .nil⟩, rfl⟩
    · rintro ⟨bytes, ⟨hlength, hfields⟩, rfl⟩
      cases hfields with
      | nil => rfl
      | cons => simp at hlength
  | succ count ih =>
    intro buffer fields rest
    rw [takeFields?]
    constructor
    · intro h
      cases hfield : takeField? buffer with
      | none => simp [hfield] at h
      | some taken =>
        obtain ⟨field, after⟩ := taken
        simp only [hfield, Option.map_eq_some_iff] at h
        obtain ⟨⟨others, rest'⟩, hothers, htaken⟩ := h
        cases htaken
        obtain ⟨bytes, hbytes, rfl⟩ := (takes_field _ _ _).1 hfield
        obtain ⟨more, ⟨hlength, hmore⟩, rfl⟩ := (ih _ _ _).1 hothers
        refine ⟨bytes ++ more, ⟨?_, .cons hbytes hmore⟩, (List.append_assoc ..).symm⟩
        simp [hlength]
    · rintro ⟨bytes, ⟨hlength, hfields⟩, rfl⟩
      cases hfields with
      | nil => simp at hlength
      | @cons field others bytes more hfield hothers =>
        have htake : takeField? (bytes ++ more ++ rest) = some (field, more ++ rest) :=
          (takes_field _ _ _).2 ⟨bytes, hfield, List.append_assoc ..⟩
        have hmore : takeFields? count (more ++ rest) = some (others, rest) :=
          (ih _ _ _).2 ⟨more, ⟨by simpa using hlength, hothers⟩, rfl⟩
        simp only [htake, hmore, Option.map_some]

theorem takes_tuple : Takes takeTuple? IsTuple := by
  intro buffer tuple rest
  rw [takeTuple?]
  constructor
  · intro h
    cases hint : takeInt? .int16 buffer with
    | none => simp [hint] at h
    | some taken =>
      obtain ⟨n, after⟩ := taken
      obtain ⟨count, hcount, rfl⟩ := (takes_int .int16 _ _ _).1 hint
      simp only [hint] at h
      split at h
      · obtain ⟨fields, ⟨hlength, hfields⟩, rfl⟩ := (takes_fields _ _ _ _).1 h
        have hn : (tuple.length : Int) = n := by omega
        refine ⟨count ++ fields, ⟨count, fields, hn.symm ▸ hcount, hfields, rfl⟩, ?_⟩
        rw [List.append_assoc]
      · cases h
  · rintro ⟨bytes, ⟨count, fields, hcount, hfields, rfl⟩, rfl⟩
    have htake : takeInt? .int16 (count ++ fields ++ rest) = some ((tuple.length : Int), fields ++ rest) :=
      (takes_int .int16 _ _ _).2 ⟨count, hcount, List.append_assoc ..⟩
    have hsign : 0 ≤ (tuple.length : Int) := by omega
    simp only [htake, if_pos hsign, Int.toNat_natCast]
    exact (takes_fields _ _ _ _).2 ⟨fields, ⟨rfl, hfields⟩, rfl⟩

/-! ## Tuples up to the trailer -/

theorem length_lt_of_takeTuple? {buffer rest : Bytes} {tuple : Tuple}
    (h : takeTuple? buffer = some (tuple, rest)) : rest.length < buffer.length := by
  obtain ⟨bytes, ⟨count, fields, ⟨hlength, -⟩, -, rfl⟩, rfl⟩ := (takes_tuple _ _ _).1 h
  have hsize : IntType.int16.size = 2 := rfl
  simp only [List.length_append]
  omega

/-- Reads tuples up to a trailer, behind which there must be nothing. -/
def readTuples? (buffer : Bytes) : Option (List Tuple) :=
  match _htuple : takeTuple? buffer with
  | some (tuple, rest) => (readTuples? rest).map (tuple :: ·)
  | none => if takeNumber? .int16 (-1) buffer = some [] then some [] else none
termination_by buffer.length
decreasing_by exact length_lt_of_takeTuple? ‹_›

theorem readTuples?_of_tuple {buffer rest : Bytes} {tuple : Tuple}
    (h : takeTuple? buffer = some (tuple, rest)) :
    readTuples? buffer = (readTuples? rest).map (tuple :: ·) := by
  rw [readTuples?]
  split
  · next htuple =>
    cases htuple.symm.trans h
    rfl
  · next htuple => cases htuple.symm.trans h

theorem readTuples?_of_none {buffer : Bytes} (h : takeTuple? buffer = none) :
    readTuples? buffer = if takeNumber? .int16 (-1) buffer = some [] then some [] else none := by
  rw [readTuples?]
  split
  · next htuple => cases htuple.symm.trans h
  · rfl

/-- A trailer is no tuple: the number of its fields would be negative. -/
theorem takeTuple?_trailer {trailer : Bytes} (h : Spells .int16 (-1) trailer) :
    takeTuple? trailer = none := by
  have htake : takeInt? .int16 trailer = some (-1, []) :=
    (takes_int .int16 _ _ _).2 ⟨trailer, h, (List.append_nil _).symm⟩
  rw [takeTuple?, htake]
  rfl

theorem readTuples?_eq_some_iff {buffer : Bytes} {tuples : List Tuple} :
    readTuples? buffer = some tuples ↔
      ∃ body trailer, InSequence IsTuple tuples body ∧ Spells .int16 (-1) trailer ∧
        buffer = body ++ trailer := by
  constructor
  · intro h
    fun_induction readTuples? buffer generalizing tuples with
    | case1 buffer tuple rest htuple ih =>
      obtain ⟨others, hothers, rfl⟩ := Option.map_eq_some_iff.1 h
      obtain ⟨body, trailer, hbody, htrailer, rfl⟩ := ih hothers
      obtain ⟨bytes, hbytes, rfl⟩ := (takes_tuple _ _ _).1 htuple
      exact ⟨bytes ++ body, trailer, .cons hbytes hbody, htrailer, (List.append_assoc ..).symm⟩
    | case2 buffer htuple hend =>
      cases h
      obtain ⟨trailer, htrailer, rfl⟩ := takeNumber?_eq_some_iff.1 hend
      exact ⟨[], trailer, .nil, htrailer, by simp⟩
    | case3 => cases h
  · -- The trailer stops the reader, and in front of a tuple it goes on to the bytes behind.
    rintro ⟨body, trailer, hbody, htrailer, rfl⟩
    induction hbody with
    | nil =>
      have hend : takeNumber? .int16 (-1) trailer = some [] :=
        takeNumber?_eq_some_iff.2 ⟨trailer, htrailer, (List.append_nil _).symm⟩
      rw [List.nil_append, readTuples?_of_none (takeTuple?_trailer htrailer), if_pos hend]
    | @cons tuple others bytes more htuple hothers ih =>
      have htake : takeTuple? (bytes ++ more ++ trailer) = some (tuple, more ++ trailer) :=
        (takes_tuple _ _ _).2 ⟨bytes, htuple, List.append_assoc ..⟩
      rw [readTuples?_of_tuple htake, ih]
      rfl

/-! ## The reader of payloads -/

/-- Reads a payload. -/
def readPayload? (payload : Bytes) : Option (List Tuple) := do
  let behindSignature ← takeSignature? payload
  let behindFlags ← takeNumber? .int32 0 behindSignature
  let behindExtension ← takeNumber? .int32 0 behindFlags
  readTuples? behindExtension

/-- **The reader finds the tuples of a payload, and nothing in what is no payload.** -/
theorem readPayload?_eq_some_iff {payload : Bytes} {tuples : List Tuple} :
    readPayload? payload = some tuples ↔ IsPayload tuples payload := by
  simp only [readPayload?, Option.bind_eq_bind, Option.bind_eq_some_iff,
    takeSignature?_eq_some_iff, takeNumber?_eq_some_iff, readTuples?_eq_some_iff]
  constructor
  · rintro ⟨-, rfl, -, ⟨flags, hflags, rfl⟩, -, ⟨extension, hextension, rfl⟩, body, trailer, hbody,
      htrailer, rfl⟩
    exact ⟨flags, extension, body, trailer, rfl, hflags, hextension, hbody, htrailer⟩
  · rintro ⟨flags, extension, body, trailer, rfl, hflags, hextension, hbody, htrailer⟩
    exact ⟨_, rfl, _, ⟨flags, hflags, rfl⟩, _, ⟨extension, hextension, rfl⟩, body, trailer, hbody,
      htrailer, rfl⟩

end PortableSql.Postgres.CopyFormat
