import PortableSql.Json.Basic
import PortableSql.Number.Shortest
import PortableSql.Text.Hex

/-!
# Writing JSON

`Json.compact` writes a value without blanks, and `Json.indented` writes one item or member a line,
two blanks further in at every level. Strings escape quotes, backslashes and control characters.
-/
namespace PortableSql.Json

/-- A character inside a string. -/
def escapeChar (c : Char) : List Char :=
  match c with
  | '"' => ['\\', '"']
  | '\\' => ['\\', '\\']
  | '\x08' => ['\\', 'b']
  | '\x0c' => ['\\', 'f']
  | '\n' => ['\\', 'n']
  | '\r' => ['\\', 'r']
  | '\t' => ['\\', 't']
  | c =>
    if c.toNat < 0x20 then '\\' :: 'u' :: '0' :: '0' :: Text.Hex.encode [UInt8.ofNat c.toNat]
    else [c]

/-- A string between its quotes. -/
def quote (text : String) : List Char :=
  '"' :: (text.toList.flatMap escapeChar ++ ['"'])

/-- A value that has no parts. -/
def scalar : Json → List Char
  | null => "null".toList
  | bool value => (if value then "true" else "false").toList
  | integer value => Text.Decimal.signed value
  | real value => value.text.toList
  | string value => quote value
  | array _ => ['[', ']']
  | object _ => ['{', '}']

mutual

/-- A value without blanks. -/
def compactChars : Json → List Char
  | array items => '[' :: (compactItems true items ++ [']'])
  | object members => '{' :: (compactMembers true members ++ ['}'])
  | other => scalar other

/-- Items of an array, with a comma before all but the first. -/
def compactItems (first : Bool) : List Json → List Char
  | [] => []
  | item :: rest =>
    (if first then [] else [',']) ++ (compactChars item ++ compactItems false rest)

/-- Members of an object, with a comma before all but the first. -/
def compactMembers (first : Bool) : List (String × Json) → List Char
  | [] => []
  | (name, value) :: rest =>
    (if first then [] else [',']) ++ (quote name ++ (':' :: (compactChars value ++
      compactMembers false rest)))

end

/-- A value without blanks. -/
def compact (value : Json) : String :=
  String.ofList (compactChars value)

/-- A new line at a level of nesting. -/
def newLine (level : Nat) : List Char :=
  '\n' :: List.replicate (2 * level) ' '

mutual

/-- A value over several lines, at a level of nesting. -/
def indentedChars (level : Nat) : Json → List Char
  | array (item :: items) =>
    '[' :: (newLine (level + 1) ++ (indentedChars (level + 1) item ++
      (indentedItems (level + 1) items ++ (newLine level ++ [']']))))
  | object ((name, value) :: members) =>
    '{' :: (newLine (level + 1) ++ (quote name ++ (':' :: ' ' :: (indentedChars (level + 1) value ++
      (indentedMembers (level + 1) members ++ (newLine level ++ ['}']))))))
  | other => scalar other

/-- Further items of an array, each on its own line. -/
def indentedItems (level : Nat) : List Json → List Char
  | [] => []
  | item :: rest =>
    ',' :: (newLine level ++ (indentedChars level item ++ indentedItems level rest))

/-- Further members of an object, each on its own line. -/
def indentedMembers (level : Nat) : List (String × Json) → List Char
  | [] => []
  | (name, value) :: rest =>
    ',' :: (newLine level ++ (quote name ++ (':' :: ' ' :: (indentedChars level value ++
      indentedMembers level rest))))

end

/-- A value over several lines. -/
def indented (value : Json) : String :=
  String.ofList (indentedChars 0 value)

end PortableSql.Json
