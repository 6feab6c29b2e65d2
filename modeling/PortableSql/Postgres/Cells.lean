import PortableSql.Conversion.Fetch
import PortableSql.OneBased
import PortableSql.Postgres.Wire
import PortableSql.Text.Utf8

/-!
# Cells in PostgreSQL's binary form

The parameters of a statement and the rows of a result are lists of cells, each the bytes of a value
or NULL. `encode` writes a value for a declared type and `decode` reads a cell of a declared type as
a value of the wanted kind.
-/
namespace PortableSql.Postgres

/-- Binary values or NULLs, addressed from one. -/
abbrev Cells := List (Option Bytes)

/-- Cells that are all NULL. -/
def Cells.ofLength (length : Nat) : Cells :=
  List.replicate length none

/-- The words that stand for true and false in a text. -/
def flagOfWord? (word : String) : Option Bool :=
  if word ∈ ["t", "true", "y", "yes", "on"] then some true
  else if word ∈ ["f", "false", "n", "no", "off"] then some false
  else none

/-- A text as a truth value: one of the words, or an integer other than zero. -/
def flagOfText (text : String) : Result Bool :=
  let word := String.ofList ((Text.trim text.toList).map Char.toLower)
  match flagOfWord? word with
  | some flag => .ok flag
  | none => (Conversion.textToInt .int64 word).map (· != 0)

/-- The byte of a truth value. -/
def flagBytes (flag : Bool) : Bytes :=
  [if flag then 1 else 0]

/-- The binary form of a value that has arrived in a parameter of its own type. -/
def nativeBytes : Value → Bytes
  | .int16 n => IntType.int16.toBytes n.toInt
  | .int32 n => IntType.int32.toBytes n.toInt
  | .int64 n => IntType.int64.toBytes n.toInt
  | .float x => x.toBytes
  | .double x => x.toBytes
  | .utf8 text => Text.Utf8.encode text
  | _ => []

/-- A date in the binary form of a type. -/
def encodeDate (target : ValueType) (d : Date) : Result Bytes :=
  match target with
  | .date => (ofDate d).map IntType.int32.toBytes
  | .timestamp => (ofTimestamp ⟨d, .midnight⟩).map IntType.int64.toBytes
  | .char | .varchar => .ok (Text.Utf8.encode d.text)
  | _ => .error (Conversion.noForm ValueKind.date.name target)

/-- A time of day in the binary form of a type. -/
def encodeTime (target : ValueType) (t : Time) : Result Bytes :=
  match target with
  | .time => (ofTime t).map IntType.int64.toBytes
  | .char | .varchar => .ok (Text.Utf8.encode t.text)
  | _ => .error (Conversion.noForm ValueKind.time.name target)

/-- A timestamp in the binary form of a type. -/
def encodeTimestamp (target : ValueType) (t : Timestamp) : Result Bytes :=
  match target with
  | .timestamp => (ofTimestamp t).map IntType.int64.toBytes
  | .date => (ofDate t.date).map IntType.int32.toBytes
  | .time => (ofTime t.time).map IntType.int64.toBytes
  | .char | .varchar => .ok (Text.Utf8.encode t.text)
  | _ => .error (Conversion.noForm ValueKind.timestamp.name target)

/-- A binary object in the binary form of a type. -/
def encodeBlob (target : ValueType) (bytes : Bytes) : Result Bytes :=
  match target with
  | .blob | .any => .ok bytes
  | _ => .error (Conversion.noForm ValueKind.blob.name target)

/-- A number or a text in the binary form of a type. -/
def encodeScalar (target : ValueType) (value : Value) : Result Bytes :=
  match target, value with
  | .boolean, .int16 n => .ok (flagBytes (n != 0))
  | .boolean, .int32 n => .ok (flagBytes (n != 0))
  | .boolean, .int64 n => .ok (flagBytes (n != 0))
  | .boolean, .utf8 text => (flagOfText text).map flagBytes
  | .any, .utf8 text | .blob, .utf8 text => .ok (Text.Utf8.encode text)
  | target, value => (Conversion.land target value).map nativeBytes

/-- A value in the binary form of a type. -/
def encode (target : ValueType) (value : Value) : Result Bytes :=
  match value with
  | .date d => encodeDate target d
  | .time t => encodeTime target t
  | .timestamp t => encodeTimestamp target t
  | .blob bytes => encodeBlob target bytes
  | value => encodeScalar target value

/-- Reads a date. -/
def dateOfBytes (raw : Bytes) : Result Date :=
  IntType.int32.readBytes raw >>= toDate

/-- Reads a time of day. -/
def timeOfBytes (raw : Bytes) : Result Time :=
  (IntType.int64.readBytes raw).map toTime

/-- Reads a timestamp. -/
def timestampOfBytes (raw : Bytes) : Result Timestamp :=
  IntType.int64.readBytes raw >>= toTimestamp

/-- Reads a truth value. -/
def flagOfBytes (raw : Bytes) : Result Bool :=
  (IntType.uint8.readBytes raw).map (· != 0)

/-- Reads a text. -/
def textOfBytes (raw : Bytes) : Result String :=
  match Text.Utf8.decode? raw with
  | some text => .ok text
  | none => .error (.typeConversion "invalid utf8 bytes" ValueKind.utf8.name)

/-- The readings of the bytes of a cell. -/
def reader (raw : Bytes) : CellReader where
  int16 := (IntType.int16.readBytes raw).map .ofInt
  int32 := (IntType.int32.readBytes raw).map .ofInt
  int64 := (IntType.int64.readBytes raw).map .ofInt
  float := Single.readBytes raw
  double := Double.readBytes raw
  text := textOfBytes raw

/-- A truth value as a number. -/
def valueOfFlag (kind : ValueKind) (flag : Bool) : Result Value :=
  let n : Int := if flag then 1 else 0
  match kind with
  | .int16 => .ok (.int16 (.ofInt n))
  | .int32 => .ok (.int32 (.ofInt n))
  | .int64 => .ok (.int64 (.ofInt n))
  | .float => .ok (.float (Conversion.intToFloat .float n))
  | .double => .ok (.double (Conversion.intToFloat .double n))
  | _ => .error (Conversion.noReading .boolean kind.name)

/-- The text of a value that is no text itself, for the types that have one. -/
def writtenText? (source : ValueType) (raw : Bytes) : Option (Result String) :=
  match source with
  | .date => some ((dateOfBytes raw).map Date.text)
  | .time => some ((timeOfBytes raw).map Time.text)
  | .timestamp => some ((timestampOfBytes raw).map Timestamp.text)
  | .boolean => some ((flagOfBytes raw).map fun flag => if flag then "true" else "false")
  | _ => none

/-- A cell as a value of any other kind than those with readings of their own. -/
def decodeScalar (source : ValueType) (kind : ValueKind) (raw : Bytes) : Result Value :=
  if source = .boolean then flagOfBytes raw >>= valueOfFlag kind
  else Conversion.fetch (reader raw) source kind

/-- The bytes of a cell as a value of the wanted kind. -/
def decodeBytes (source : ValueType) (kind : ValueKind) (raw : Bytes) : Result Value :=
  match kind, source with
  | .date, .date => (dateOfBytes raw).map .date
  | .date, .timestamp => (timestampOfBytes raw).map fun t => .date t.date
  | .time, .time => (timeOfBytes raw).map .time
  | .time, .timestamp => (timestampOfBytes raw).map fun t => .time t.time
  | .timestamp, .timestamp => (timestampOfBytes raw).map .timestamp
  | .timestamp, .date => (dateOfBytes raw).map fun d => .timestamp ⟨d, .midnight⟩
  | .blob, .blob | .blob, .any | .blob, .char | .blob, .varchar => .ok (.blob raw)
  | .utf8, source =>
    match writtenText? source raw with
    | some text => text.map .utf8
    | none => decodeScalar source .utf8 raw
  | .utf16, source =>
    match writtenText? source raw with
    | some text => text.map fun text => .utf16 (Text.Utf16.encode text)
    | none => decodeScalar source .utf16 raw
  | kind, source => decodeScalar source kind raw

namespace Cells

/-- The bytes in a slot, or NULL. -/
def raw (cells : Cells) (slot : Nat) : Result (Option Bytes) :=
  match OneBased.get? cells slot with
  | some cell => .ok cell
  | none => .error (.columnNotFound (Text.Decimal.ofNat slot))

/-- The bytes in a slot that must not be NULL. -/
def bytes (cells : Cells) (slot : Nat) : Result Bytes := do
  match ← cells.raw slot with
  | some bytes => pure bytes
  | none => .error (.valueIsNull (Text.Decimal.ofNat slot))

/-- Puts bytes or NULL into a slot. -/
def put (cells : Cells) (slot : Nat) (cell : Option Bytes) : Result Cells :=
  match OneBased.set? cells slot cell with
  | some cells => .ok cells
  | none => .error (.parameterNotFound (Text.Decimal.ofNat slot))

/-- Puts a value of a declared type, or NULL, into a slot. -/
def bind (cells : Cells) (slot : Nat) (target : ValueType) (value? : Option Value) :
    Result Cells :=
  match value? with
  | none => cells.put slot none
  | some value => encode target value >>= fun bytes => cells.put slot (some bytes)

/-- Reads a slot of a declared type as a value of the wanted kind. -/
def decode (cells : Cells) (source : ValueType) (slot : Nat) (kind : ValueKind) : Result Value :=
  cells.bytes slot >>= decodeBytes source kind

end Cells

end PortableSql.Postgres
