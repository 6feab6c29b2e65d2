import PortableSql.Sqlite.RealText
import PortableSql.Sqlite.Storage
import PortableSql.Text.Hex

/-!
# Words of SQL

SQL is a sequence of lexemes: words, names in quotes, literals, parameters and single marks. Blanks
and comments separate them. A text that ends in the middle of a literal has no lexemes at all.
-/
namespace PortableSql.Sqlite

/-- A parameter as it is written. -/
inductive Marker where
  /-- A question mark alone. -/
  | next
  /-- A question mark with a number. -/
  | numbered (n : Nat)
  | named
  deriving DecidableEq, Repr

/-- What a lexeme is. -/
inductive LexemeKind where
  | word (text : String)
  | quotedName (text : String)
  | literal (value : Stored)
  | whole (n : Nat)
  | real (x : Double)
  | marker (m : Marker)
  | symbol (c : Char)
  deriving DecidableEq, Repr

/-- A lexeme with the text that it is written as. -/
structure Lexeme where
  kind : LexemeKind
  source : String
  deriving DecidableEq, Repr

namespace Lexeme

/-- White space between lexemes. -/
def isBlank (c : Char) : Bool :=
  c == ' ' || c == '\t' || c == '\n' || c == '\x0c' || c == '\r'

/-- A character that a word may begin with. -/
def beginsWord (c : Char) : Bool :=
  c.isAlpha || c == '_' || decide (0x80 ≤ c.toNat)

/-- A character that a word may go on with. -/
def continuesWord (c : Char) : Bool :=
  c.isAlphanum || c == '_' || c == '$' || decide (0x80 ≤ c.toNat)

/-- The text behind a comment that ends with a star and a slash, or nothing. -/
def afterBlockComment : List Char → List Char
  | '*' :: '/' :: rest => rest
  | _ :: rest => afterBlockComment rest
  | [] => []

/-- Reads up to a closing quote, which is doubled inside; gives what is between and what follows. -/
def quoted? (quote : Char) : List Char → Option (List Char × List Char)
  | [] => none
  | c :: rest =>
    if c = quote then
      match rest with
      | d :: rest' =>
        if d = quote then (quoted? quote rest').map fun (body, rest) => (quote :: body, rest)
        else some ([], rest)
      | [] => some ([], [])
    else (quoted? quote rest).map fun (body, rest) => (c :: body, rest)

/-- Reads an exponent, if there is one. -/
def exponentPart (text : List Char) : List Char × List Char :=
  match text with
  | e :: rest =>
    if e = 'e' ∨ e = 'E' then
      let (sign, digits) := match rest with
        | '+' :: tail => (['+'], tail)
        | '-' :: tail => (['-'], tail)
        | tail => ([], tail)
      let run := digits.takeWhile Char.isDigit
      if run.isEmpty then ([], text) else (e :: (sign ++ run), digits.drop run.length)
    else ([], text)
  | [] => ([], text)

/-- Reads a number: digits with a point among or beside them, and an exponent. -/
def number? (text : List Char) : Option (LexemeKind × List Char) :=
  let whole := text.takeWhile Char.isDigit
  let rest := text.drop whole.length
  let (fraction, rest) := match rest with
    | '.' :: tail =>
      let run := tail.takeWhile Char.isDigit
      ('.' :: run, tail.drop run.length)
    | rest => ([], rest)
  let (exponent, rest) := exponentPart rest
  if (rest.head?.map continuesWord).getD false then none
  else if fraction.isEmpty && exponent.isEmpty then some (.whole (Text.Decimal.value whole), rest)
  else
    (FloatText.scientific? (whole ++ (fraction ++ exponent))).map fun s =>
      (.real (RealText.read false s), rest)

/-- Reads a parameter behind its first character. -/
def marker? (c : Char) (rest : List Char) : Option (LexemeKind × List Char) :=
  if c = '?' then
    let run := rest.takeWhile Char.isDigit
    if run.isEmpty then some (.marker .next, rest)
    else some (.marker (.numbered (Text.Decimal.value run)), rest.drop run.length)
  else
    let name := rest.takeWhile continuesWord
    if name.isEmpty then none else some (.marker .named, rest.drop name.length)

/-- Reads a lexeme that begins with the character `c`; gives it and what follows. -/
def read? (c : Char) (rest : List Char) : Option (LexemeKind × List Char) :=
  if c = '\'' then
    (quoted? '\'' rest).map fun (body, rest) => (.literal (.text (String.ofList body)), rest)
  else if c = '"' then
    (quoted? '"' rest).map fun (body, rest) => (.quotedName (String.ofList body), rest)
  else if (c = 'x' ∨ c = 'X') ∧ rest.head? = some '\'' then do
    let (body, rest) ← quoted? '\'' (rest.drop 1)
    let bytes ← Text.Hex.decode? body
    pure (.literal (.blob bytes), rest)
  else if c.isDigit || (c == '.' && (rest.head?.map Char.isDigit).getD false) then
    number? (c :: rest)
  else if c = '?' ∨ c = ':' ∨ c = '@' ∨ c = '$' then marker? c rest
  else if beginsWord c then
    let tail := rest.takeWhile continuesWord
    some (.word (String.ofList (c :: tail)), rest.drop tail.length)
  else some (.symbol c, rest)

/-- Reads all lexemes. Every step reads a character at least, so as many steps as there are
characters are enough. -/
def readAll? : (steps : Nat) → List Char → Option (List Lexeme)
  | 0, text => if text.isEmpty then some [] else none
  | steps + 1, text =>
    match text with
    | [] => some []
    | '\x00' :: _ => some []
    | '-' :: '-' :: rest => readAll? steps (rest.dropWhile (· != '\n'))
    | '/' :: '*' :: rest => readAll? steps (afterBlockComment rest)
    | c :: rest =>
      if isBlank c then readAll? steps rest
      else do
        let (kind, after) ← read? c rest
        let source := String.ofList (text.take (text.length - after.length))
        let lexemes ← readAll? steps after
        pure (⟨kind, source⟩ :: lexemes)

/-- The lexemes of a text, unless one of them is not well formed. -/
def ofSql? (sql : String) : Option (List Lexeme) :=
  let text := sql.toList
  readAll? text.length text

end Lexeme

end PortableSql.Sqlite
