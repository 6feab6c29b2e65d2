import PortableSql.Proofs.Text.Utf8
import PortableSql.Sql.Token

/-!
# Scanning by byte offsets

`Token.scan?` takes characters off a text. `scanAt?` looks at bytes from an offset on and says where
the token ends and which stretches of the text it keeps; cutting a stretch out fails unless both its
ends are boundaries. The two find the same tokens, so an offset in the middle of a character begins
no token, and no cut fails.
-/
namespace PortableSql

open Text

/-- The bytes from one offset up to another. -/
structure Stretch where
  start : Nat
  stop : Nat
  deriving DecidableEq, Repr

namespace Stretch

/-- Both ends are boundaries of the text, in order. -/
def Fits (s : Stretch) (text : String) : Prop :=
  s.start ≤ s.stop ∧ (String.Pos.Raw.mk s.start).IsValid text ∧
    (String.Pos.Raw.mk s.stop).IsValid text

instance (s : Stretch) (text : String) : Decidable (s.Fits text) :=
  inferInstanceAs (Decidable (_ ∧ _ ∧ _))

/-- The part of the text, which there is only between boundaries. -/
def cut? (text : String) (s : Stretch) : Option (List Char) :=
  if s.Fits text then
    (Utf8.decode? (((Utf8.encode text).drop s.start).take (s.stop - s.start))).map String.toList
  else none

end Stretch

/-- A token with the parts of the text that it keeps. -/
inductive Found (α : Type) where
  /-- A placeholder, and its digits. -/
  | position (text digits : α)
  | name (text : α)
  | verbatim
  | note (body : α)
  | ifSeq (data other : α)
  | next (sequence other : α)
  deriving DecidableEq, Repr

namespace Found

/-- The parts that the token keeps. -/
def parts {α : Type} : Found α → List α
  | position text digits => [text, digits]
  | name text => [text]
  | verbatim => []
  | note body => [body]
  | ifSeq data other => [data, other]
  | next sequence other => [sequence, other]

/-- The token with its parts cut out. -/
def cut? (text : String) : Found Stretch → Option (Found (List Char))
  | position whole digits => do return position (← whole.cut? text) (← digits.cut? text)
  | name whole => do return name (← whole.cut? text)
  | verbatim => some verbatim
  | note body => do return note (← body.cut? text)
  | ifSeq data other => do return ifSeq (← data.cut? text) (← other.cut? text)
  | next sequence other => do return next (← sequence.cut? text) (← other.cut? text)

/-- A placeholder by position is one only if the position is in range. -/
def inRange : Found (List Char) → Bool
  | position _ digits => decide (Decimal.value digits < positionLimit)
  | _ => true

end Found

namespace ByteScan

/-- The end of the bytes of a class from `start` on. -/
def runEnd (p : Char → Bool) (bytes : Bytes) (start : Nat) : Nat :=
  start + ((bytes.drop start).takeWhile (Utf8.onByte p)).length

/-- The next line break, or the end of the bytes. -/
def lineEnd (bytes : Bytes) (start : Nat) : Nat :=
  runEnd (fun c => !isLineBreak c) bytes start

/-- The end of the line break at `start`, where there is one or nothing. -/
def breakEnd (bytes : Bytes) (start : Nat) : Nat :=
  match bytes[start]?, bytes[start + 1]? with
  | none, _ => start
  | some b, next =>
    if b = '\r'.toUInt8 ∧ next = some '\n'.toUInt8 then start + 2 else start + 1

/-- Number of bytes up to and including the first `*/`. -/
def commentLength? : Bytes → Option Nat
  | [] => none
  | b :: rest =>
    if b = '*'.toUInt8 ∧ rest.head? = some '/'.toUInt8 then some 2
    else (commentLength? rest).map (· + 1)

/-- The brace that closes a template, if it is on the line. -/
def closeAt? (bytes : Bytes) (start : Nat) : Option Nat :=
  let close := runEnd (fun c => !isLineBreak c && c != '}') bytes start
  if bytes[close]? = some '}'.toUInt8 then some close else none

/-- The bytes of a word are those from `start` on. -/
def wordAt (word : List Char) (bytes : Bytes) (start : Nat) : Bool :=
  (word.map Char.toUInt8).isPrefixOf (bytes.drop start)

/-- The template whose opening brace is at `idx`, and its end. -/
def templateAt? (bytes : Bytes) (idx : Nat) : Option (Found Stretch × Nat) :=
  if wordAt ifSeqWord bytes (idx + 1) then
    let start := runEnd isAsciiBlank bytes (idx + 7)
    let stop := runEnd (fun c => c != ',' && c != '}') bytes start
    if stop = start then none
    else (closeAt? bytes stop).map fun close => (.ifSeq ⟨start, stop⟩ ⟨stop, close⟩, close + 1)
  else if wordAt nextWord bytes (idx + 1) then
    let start := runEnd isAsciiBlank bytes (idx + 5)
    let stop := runEnd isWordChar bytes start
    if stop = start then none
    else (closeAt? bytes stop).map fun close => (.next ⟨start, stop⟩ ⟨stop, close⟩, close + 1)
  else none

/-- The token that begins at `idx`, and its end. -/
def scanAt? (bytes : Bytes) (idx : Nat) : Option (Found Stretch × Nat) :=
  match bytes[idx]? with
  | none => none
  | some b =>
    let next := bytes[idx + 1]?
    if b = '?'.toUInt8 then
      let stop := runEnd Char.isDigit bytes (idx + 1)
      if stop = idx + 1 then none else some (.position ⟨idx, stop⟩ ⟨idx + 1, stop⟩, stop)
    else if b = ':'.toUInt8 ∧ next = some ':'.toUInt8 then some (.verbatim, idx + 2)
    else if b = ':'.toUInt8 ∨ b = '@'.toUInt8 ∨ b = '$'.toUInt8 then
      let stop := runEnd isWordChar bytes (idx + 1)
      if stop = idx + 1 then none else some (.name ⟨idx, stop⟩, stop)
    else if b = '\''.toUInt8 ∨ b = '"'.toUInt8 then
      (Literal.closing? '\\'.toUInt8 b (bytes.drop (idx + 1))).map fun n => (.verbatim, idx + 1 + n)
    else if b = '/'.toUInt8 ∧ next = some '*'.toUInt8 then
      (commentLength? (bytes.drop (idx + 2))).map fun n => (.verbatim, idx + 2 + n)
    else if b = '/'.toUInt8 ∧ next = some '/'.toUInt8 then
      let bodyEnd := lineEnd bytes idx
      some (.note ⟨idx, bodyEnd⟩, breakEnd bytes bodyEnd)
    else if b = '-'.toUInt8 ∧ next = some '-'.toUInt8 then some (.verbatim, lineEnd bytes idx)
    else if b = '{'.toUInt8 then templateAt? bytes idx
    else none

end ByteScan

/-- The token that begins at an offset of a text, with its parts cut out, and its end. There is no
answer if a part cannot be cut out. -/
def tokenAt? (text : String) (idx : Nat) : Option (Option (Found (List Char) × Nat)) :=
  match ByteScan.scanAt? (Utf8.encode text) idx with
  | none => some none
  | some (found, stop) =>
    (found.cut? text).map fun token => if token.inRange then some (token, stop) else none

end PortableSql
