import PortableSql.Postgres.Cells

/-!
# Payload of a bulk copy

The binary copy format begins with a signature and two zero words. Each row is the number of its
fields and then every field with its length in front, or the length -1 for NULL. The payload ends
with the field count -1. A row that cannot be written leaves the payload as it was.
-/
namespace PortableSql.Postgres

/-- Rows written so far, for columns of declared types. -/
structure CopyBuffer where
  columnTypes : List ValueType
  body : Bytes
  rows : Nat
  deriving DecidableEq, Repr

namespace CopyBuffer

/-- The bytes by which the format is known. -/
def signature : Bytes :=
  [0x50, 0x47, 0x43, 0x4F, 0x50, 0x59, 0x0A, 0xFF, 0x0D, 0x0A, 0x00]

/-- A payload without rows. -/
def new (columnTypes : List ValueType) : CopyBuffer :=
  ⟨columnTypes, signature ++ IntType.int32.toBytes 0 ++ IntType.int32.toBytes 0, 0⟩

/-- The bytes of a value, written as a parameter would be. -/
def fieldBytes (target : ValueType) (value : Value) : Result Bytes := do
  match ← (Cells.ofLength 1).bind 1 target (some value) with
  | [some bytes] => pure bytes
  | _ => .error (.copy .nothingEncoded)

/-- A field with its length in front. -/
def writeField (target : ValueType) : Option Value → Result Bytes
  | none => .ok (IntType.int32.toBytes (-1))
  | some value => do
    let bytes ← fieldBytes target value
    if IntType.int32.Fits bytes.length then pure (IntType.int32.toBytes bytes.length ++ bytes)
    else .error (.copy .fieldTooLarge)

/-- Fields one after another. -/
def writeFields : List ValueType → List (Option Value) → Result Bytes
  | target :: targets, value :: values => do
    let field ← writeField target value
    let rest ← writeFields targets values
    pure (field ++ rest)
  | _, _ => .ok []

/-- A row with the number of its fields in front. -/
def writeRow (columnTypes : List ValueType) (row : List (Option Value)) : Result Bytes :=
  if row.length ≠ columnTypes.length then .error (.copy (.width row.length columnTypes.length))
  else if IntType.int16.Fits row.length then
    (writeFields columnTypes row).map (IntType.int16.toBytes row.length ++ ·)
  else .error (.copy .tooManyColumns)

/-- Adds a row. -/
def pushRow (buffer : CopyBuffer) (row : List (Option Value)) : Result CopyBuffer :=
  (writeRow buffer.columnTypes row).map fun bytes =>
    { buffer with body := buffer.body ++ bytes, rows := buffer.rows + 1 }

/-- Adds rows one after another, with an answer for each; a row that is refused is left out. -/
def pushRows (buffer : CopyBuffer) : List (List (Option Value)) → List (Result Nat) × CopyBuffer
  | [] => ([], buffer)
  | row :: rest =>
    match buffer.pushRow row with
    | .ok buffer =>
      let (answers, last) := pushRows buffer rest
      (.ok buffer.rows :: answers, last)
    | .error e =>
      let (answers, last) := pushRows buffer rest
      (.error e :: answers, last)

/-- The whole payload. -/
def payload (buffer : CopyBuffer) : Bytes :=
  buffer.body ++ IntType.int16.toBytes (-1)

end CopyBuffer

end PortableSql.Postgres
