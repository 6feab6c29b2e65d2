import PortableSql.Proofs.Bytes.BigEndian

/-!
# Numbers in a row

Numbers of any of the machine types are written into a buffer, each behind the one before. Whoever knows
the types finds them again: a number begins at the sum of the sizes in front of it, whatever is in the
buffer before the first one and behind the last.

## Main statement

* `IntType.bytes_and_numbers_inverse` — numbers in a row are read back, what is read is written as the
  bytes that it was read from, and only a buffer that is too short is refused.
-/
namespace PortableSql

/-- A number of one of the machine types. -/
structure MachineInt where
  type : IntType
  value : Int
  fits : type.Fits value

namespace MachineInt

/-- The bytes of the number. -/
def bytes (x : MachineInt) : Bytes :=
  x.type.toBytes x.value

/-- Writes numbers into a buffer, one after another. -/
def appendTo (buffer : Bytes) (xs : List MachineInt) : Bytes :=
  xs.foldl (fun buffer x => buffer ++ x.bytes) buffer

theorem appendTo_eq (buffer : Bytes) (xs : List MachineInt) :
    appendTo buffer xs = buffer ++ xs.flatMap bytes := by
  induction xs generalizing buffer with
  | nil => simp [appendTo]
  | cons x xs ih =>
    rw [appendTo, List.foldl_cons, ← appendTo, ih, List.flatMap_cons, List.append_assoc]

/-- The most significant byte is written first. -/
example : appendTo [] [⟨.int32, 0x01020304, by decide⟩, ⟨.int16, -2, by decide⟩] =
    [1, 2, 3, 4, 0xff, 0xfe] := by decide

@[simp] theorem length_bytes (x : MachineInt) : x.bytes.length = x.type.size :=
  IntType.length_toBytes ..

end MachineInt

namespace IntType

/-- Reads numbers of the given types. The first one is at the offset, and each of the others behind the
bytes of the one before. -/
def readRow (buffer : Bytes) : (offset : Nat) → List IntType → Result (List Int)
  | _, [] => .ok []
  | offset, t :: types => do
    let n ← t.readBytes (buffer.drop offset)
    let more ← readRow buffer (offset + t.size) types
    return n :: more

/-- Why a buffer of this length has no number of the type. -/
def tooShort (t : IntType) (length : Nat) : Error :=
  let given := Text.Decimal.ofNat length
  let wanted := Text.Decimal.ofNat t.size
  .typeConversion s!"{given} byte buffer" s!"{wanted} byte value"

/-- A number is read back from its place in a buffer. -/
theorem readBytes_drop (x : MachineInt) (before behind : Bytes) :
    x.type.readBytes ((before ++ (x.bytes ++ behind)).drop before.length) = .ok x.value := by
  rw [List.drop_left, readBytes_append (Nat.le_of_eq x.length_bytes.symm)]
  exact readBytes_toBytes x.fits

theorem readRow_append (before behind : Bytes) (xs : List MachineInt) :
    readRow (before ++ (xs.flatMap MachineInt.bytes ++ behind)) before.length (xs.map (·.type)) =
      .ok (xs.map (·.value)) := by
  induction xs generalizing before with
  | nil => rfl
  | cons x xs ih =>
    have hfirst := readBytes_drop x before (xs.flatMap MachineInt.bytes ++ behind)
    -- what has been read is in front of the numbers that are left
    have hmore := ih (before ++ x.bytes)
    rw [List.length_append, x.length_bytes, List.append_assoc] at hmore
    rw [List.flatMap_cons, List.append_assoc, List.map_cons, List.map_cons, readRow, hfirst]
    exact congrArg (Except.map (x.value :: ·)) hmore

theorem readBytes_of_short {t : IntType} {buffer : Bytes} (h : buffer.length < t.size) :
    t.readBytes buffer = .error (t.tooShort buffer.length) := by
  rw [readBytes, BigEndian.first, if_neg (Nat.not_le_of_lt h)]
  rfl

/-- **Numbers and their bytes are each other's inverse.** Numbers that are written one after another are
read back by their types at the offsets that add up. From a buffer that is long enough a number of the
type is read, and it is written as the first bytes of the buffer. One that is too short is refused, and
its length is all that counts for it. -/
theorem bytes_and_numbers_inverse :
    (∀ (before behind : Bytes) (xs : List MachineInt),
      readRow (MachineInt.appendTo before xs ++ behind) before.length (xs.map (·.type)) =
        .ok (xs.map (·.value))) ∧
    ∀ (t : IntType) (buffer : Bytes),
      (t.size ≤ buffer.length →
        ∃ n, t.Fits n ∧ t.readBytes buffer = .ok n ∧ t.toBytes n = buffer.take t.size) ∧
      (buffer.length < t.size → t.readBytes buffer = .error (t.tooShort buffer.length)) := by
  refine ⟨fun before behind xs => ?_, fun t buffer => ⟨exists_readBytes, readBytes_of_short⟩⟩
  rw [MachineInt.appendTo_eq, List.append_assoc]
  exact readRow_append before behind xs

/-- Three bytes are enough for a number of 16 bits, one is not. -/
theorem bytes_and_numbers_inverse_at_two_bytes :
    (size .int16 ≤ [0x80, 0x00, 0x07].length ∧
      ∃ n, Fits .int16 n ∧ readBytes .int16 [0x80, 0x00, 0x07] = .ok n ∧
        toBytes .int16 n = [0x80, 0x00]) ∧
    [0x80].length < size .int16 ∧ readBytes .int16 [0x80] = .error (tooShort .int16 1) :=
  ⟨⟨by decide, (bytes_and_numbers_inverse.2 .int16 [0x80, 0x00, 0x07]).1 (by decide)⟩,
    by decide, (bytes_and_numbers_inverse.2 .int16 [0x80]).2 (by decide)⟩

end IntType

end PortableSql
