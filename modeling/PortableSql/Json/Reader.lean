import PortableSql.Json.Basic
import PortableSql.Number.FloatText
import PortableSql.Text.Hex
import PortableSql.Text.Utf16

/-!
# Reading JSON

`Json.read?` reads a text that is one value with blanks around it. Arrays and objects may be nested
127 deep, a number must not be too large for a double, and escaped surrogates must come in pairs.
-/
namespace PortableSql.Json

/-- Deepest nesting of arrays and objects. -/
def maxDepth : Nat := 127

/-- Blanks between the parts of a value. -/
def isGap (c : Char) : Bool :=
  c == ' ' || c == '\n' || c == '\t' || c == '\r'

/-- The text without blanks at its start. -/
def skipGap (text : List Char) : List Char :=
  text.dropWhile isGap

/-- The unit of four hexadecimal digits. -/
def hexUnit? (a b c d : Char) : Option UInt16 := do
  let a ← Text.Hex.value? a
  let b ← Text.Hex.value? b
  let c ← Text.Hex.value? c
  let d ← Text.Hex.value? d
  pure (UInt16.ofNat (((a * 16 + b) * 16 + c) * 16 + d))

/-- The character of a one-letter escape. -/
def shortEscape? : Char → Option Char
  | '"' => some '"'
  | '\\' => some '\\'
  | '/' => some '/'
  | 'b' => some '\x08'
  | 'f' => some '\x0c'
  | 'n' => some '\n'
  | 'r' => some '\r'
  | 't' => some '\t'
  | _ => none

/-- Reads the rest of a string up to its closing quote; `done` holds what has been read, last
character first. -/
def readString? (done : List Char) : List Char → Option (List Char × List Char)
  | '"' :: rest => some (done.reverse, rest)
  | '\\' :: 'u' :: a :: b :: c :: d :: '\\' :: 'u' :: a' :: b' :: c' :: d' :: rest =>
    match hexUnit? a b c d with
    | none => none
    | some unit =>
      if Text.Utf16.isLeading unit then
        match hexUnit? a' b' c' d' with
        | some low =>
          if Text.Utf16.isTrailing low then
            readString? (Text.Utf16.ofPair unit low :: done) rest
          else none
        | none => none
      else if Text.Utf16.isTrailing unit then none
      else readString? (Char.ofNat unit.toNat :: done)
        ('\\' :: 'u' :: a' :: b' :: c' :: d' :: rest)
  | '\\' :: 'u' :: a :: b :: c :: d :: rest =>
    match hexUnit? a b c d with
    | none => none
    | some unit =>
      if Text.Utf16.isLeading unit || Text.Utf16.isTrailing unit then none
      else readString? (Char.ofNat unit.toNat :: done) rest
  | '\\' :: c :: rest =>
    match shortEscape? c with
    | some c' => readString? (c' :: done) rest
    | none => none
  | c :: rest => if c.toNat < 0x20 then none else readString? (c :: done) rest
  | [] => none

/-- Characters of which numbers consist. -/
def isNumberChar (c : Char) : Bool :=
  c.isDigit || c == '-' || c == '+' || c == '.' || c == 'e' || c == 'E'

/-- The digits have no zero in front of others. -/
def plainDigits (digits : List Char) : Bool :=
  match digits with
  | [] => false
  | '0' :: _ :: _ => false
  | _ => true

/-- The fraction and the exponent of a number are well formed, or absent. -/
def plainTail (text : List Char) : Bool :=
  match text with
  | '.' :: rest => !(rest.takeWhile Char.isDigit).isEmpty
  | _ => true

/-- Greatest power of ten that digits are multiplied by. -/
def maxPower : Nat := 308

/-- The double of a number in decimal, unless it is too large. Digits beyond 64 bits are dropped. In
front of a positive power of ten the digits and the power are each rounded to a double, and so is
their product. -/
def real? (s : FloatText.Scientific) : Option Double :=
  let s := s.cut (2 ^ (64 : Nat))
  if s.mantissa = 0 ∨ s.power < 0 then some (.ofNatBits (s.round .double false))
  else if maxPower < s.power then none
  else
    let product := Double.ofInt s.mantissa * .ofInt (10 ^ s.power.toNat)
    if product.isFinite then some product else none

/-- An integer has a place among those of 64 bits, signed if it is negative and else unsigned. -/
def isWordSized (n : Int) : Bool :=
  decide (IntType.int64.least ≤ n ∧ n ≤ IntType.uint64.greatest)

/-- The number of a complete text. -/
def number? (text : List Char) : Option Json :=
  let negative := text.head? == some '-'
  let body := if negative then text.drop 1 else text
  let whole := body.takeWhile Char.isDigit
  let rest := body.dropWhile Char.isDigit
  let n : Int := if negative then -Text.Decimal.value whole else Text.Decimal.value whole
  if !plainDigits whole || !plainTail rest then none
  else if rest.isEmpty && isWordSized n && !(negative && n == 0) then some (integer n)
  else do
    let x ← real? (← FloatText.scientific? body)
    pure (real (if negative then -x else x))

mutual

/-- Reads a value at the start of a text; `fuel` covers the characters left. -/
def readValue? (fuel depth : Nat) (text : List Char) : Option (Json × List Char) :=
  match fuel with
  | 0 => none
  | fuel + 1 =>
    match skipGap text with
    | 'n' :: 'u' :: 'l' :: 'l' :: rest => some (null, rest)
    | 't' :: 'r' :: 'u' :: 'e' :: rest => some (bool true, rest)
    | 'f' :: 'a' :: 'l' :: 's' :: 'e' :: rest => some (bool false, rest)
    | '"' :: rest => (readString? [] rest).map fun (s, rest) => (string (String.ofList s), rest)
    | '[' :: rest =>
      match depth with
      | 0 => none
      | depth + 1 =>
        match skipGap rest with
        | ']' :: rest => some (array [], rest)
        | rest => (readItems? fuel depth rest).map fun (items, rest) => (array items, rest)
    | '{' :: rest =>
      match depth with
      | 0 => none
      | depth + 1 =>
        match skipGap rest with
        | '}' :: rest => some (object [], rest)
        | rest => (readMembers? fuel depth rest).map fun (members, rest) => (object members, rest)
    | rest =>
      (number? (rest.takeWhile isNumberChar)).map fun n => (n, rest.dropWhile isNumberChar)

/-- Reads the items of an array and its closing bracket. -/
def readItems? (fuel depth : Nat) (text : List Char) : Option (List Json × List Char) :=
  match fuel with
  | 0 => none
  | fuel + 1 =>
    match readValue? fuel depth text with
    | none => none
    | some (item, rest) =>
      match skipGap rest with
      | ',' :: rest => (readItems? fuel depth rest).map fun (items, rest) => (item :: items, rest)
      | ']' :: rest => some ([item], rest)
      | _ => none

/-- Reads the members of an object and its closing brace. -/
def readMembers? (fuel depth : Nat) (text : List Char) :
    Option (List (String × Json) × List Char) :=
  match fuel with
  | 0 => none
  | fuel + 1 =>
    match skipGap text with
    | '"' :: rest =>
      match readString? [] rest with
      | none => none
      | some (name, rest) =>
        match skipGap rest with
        | ':' :: rest =>
          match readValue? fuel depth rest with
          | none => none
          | some (value, rest) =>
            let member := (String.ofList name, value)
            match skipGap rest with
            | ',' :: rest =>
              (readMembers? fuel depth rest).map fun (members, rest) => (member :: members, rest)
            | '}' :: rest => some ([member], rest)
            | _ => none
        | _ => none
    | _ => none

end

/-- Reads a text that is one value. -/
def read? (text : String) : Option Json :=
  let chars := text.toList
  match readValue? (2 * chars.length + 2) maxDepth chars with
  | some (value, rest) => if (skipGap rest).isEmpty then some value else none
  | none => none

end PortableSql.Json
