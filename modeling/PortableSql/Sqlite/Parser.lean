import PortableSql.Sqlite.Command
import PortableSql.Sqlite.Lexeme

/-!
# Reading commands

`Command.read?` reads a text that is one command, with an optional semicolon behind it. Keywords
are understood in any letter case.
-/
namespace PortableSql.Sqlite

namespace Parser

/-- What is left to read, and the parameters met so far. -/
structure Input where
  lexemes : List Lexeme
  parameters : ParameterTable

/-- Reads something from the lexemes. -/
abbrev Reader (α : Type) := StateT Input Option α

/-- Words that are no names. -/
def reserved : List String :=
  ["all", "and", "as", "commit", "create", "delete", "distinct", "drop", "else", "from", "group",
    "having", "in", "insert", "into", "is", "join", "limit", "not", "null", "on", "or", "order",
    "primary", "select", "set", "table", "then", "to", "transaction", "union", "unique", "update",
    "using", "values", "when", "where"]

/-- Reads a lexeme. -/
def lexeme : Reader Lexeme := do
  let input ← get
  match input.lexemes with
  | [] => failure
  | l :: rest =>
    set { input with lexemes := rest }
    pure l

/-- Reads a keyword. -/
def keyword (text : String) : Reader Unit := do
  match (← lexeme).kind with
  | .word w => if foldAscii w = text then pure () else failure
  | _ => failure

/-- Reads keywords one after another. -/
def keywords (texts : List String) : Reader Unit :=
  texts.forM keyword

/-- Reads a mark. -/
def symbol (c : Char) : Reader Unit := do
  match (← lexeme).kind with
  | .symbol d => if d = c then pure () else failure
  | _ => failure

/-- Reads a name. -/
def name : Reader String := do
  match (← lexeme).kind with
  | .word w => if reserved.contains (foldAscii w) then failure else pure w
  | .quotedName w => pure w
  | _ => failure

/-- Reads something if it is there. -/
def optional {α : Type} (reader : Reader α) : Reader (Option α) :=
  (some <$> reader) <|> pure none

/-- Reads what stands behind separators, as often as it is there, at most so many times. -/
def more {α : Type} (separator : Reader Unit) (reader : Reader α) : Nat → Reader (List α)
  | 0 => pure []
  | tries + 1 => do
    match ← optional separator with
    | none => pure []
    | some _ =>
      let first ← reader
      let rest ← more separator reader tries
      pure (first :: rest)

/-- Reads one thing or several with separators between them. -/
def separated {α : Type} (separator : Reader Unit) (reader : Reader α) : Reader (List α) := do
  let first ← reader
  let rest ← more separator reader (← get).lexemes.length
  pure (first :: rest)

/-- Reads things with commas between them. -/
def commas {α : Type} (reader : Reader α) : Reader (List α) :=
  separated (symbol ',') reader

/-- Reads something in parentheses. -/
def parens {α : Type} (reader : Reader α) : Reader α := do
  symbol '('
  let value ← reader
  symbol ')'
  pure value

/-- Takes note of a parameter and gives its number. -/
def noteParameter (marker : Marker) (source : String) : Reader Nat := do
  let input ← get
  let table := input.parameters
  let (n, table) := match marker with
    | .next => (table.count + 1, { table with count := table.count + 1 })
    | .numbered n =>
      let names := if (table.name? n).isSome then table.names else table.names ++ [(source, n)]
      (n, ⟨max table.count n, names⟩)
    | .named =>
      match table.number? source with
      | some n => (n, table)
      | none => (table.count + 1, ⟨table.count + 1, table.names ++ [(source, table.count + 1)]⟩)
  if 1 ≤ n ∧ n ≤ ParameterTable.limit then
    set { input with parameters := table }
    pure n
  else failure

/-- A whole number with a sign; one beyond the integers is real. -/
def wholeNumber (negative : Bool) (n : Nat) : Stored :=
  let signed : Int := if negative then -(n : Int) else n
  if IntType.int64.Fits signed then .integer (Int64.ofInt signed)
  else .real (RealText.read negative ⟨n, 0⟩)

/-- Reads a number behind its sign. -/
def signedNumber (negative : Bool) : Reader (Expr × String) := do
  let l ← lexeme
  match l.kind with
  | .whole n => pure (.literal (wholeNumber negative n), l.source)
  | .real x => pure (.literal (.real (if negative then -x else x)), l.source)
  | _ => failure

/-- Reads an expression, with the text that it is written as. -/
def expr : Reader (Expr × String) := do
  let l ← lexeme
  match l.kind with
  | .symbol '-' =>
    let (e, source) ← signedNumber true
    pure (e, "-" ++ source)
  | .symbol '+' =>
    let (e, source) ← signedNumber false
    pure (e, "+" ++ source)
  | .whole n => pure (.literal (wholeNumber false n), l.source)
  | .real x => pure (.literal (.real x), l.source)
  | .literal value => pure (.literal value, l.source)
  | .marker m => pure (.parameter (← noteParameter m l.source), l.source)
  | .quotedName w => pure (.column w, l.source)
  | .word w =>
    if foldAscii w = "null" then pure (.literal .null, l.source)
    else if reserved.contains (foldAscii w) then failure
    else pure (.column w, l.source)
  | .symbol _ => failure

/-- Reads an expression. -/
def value : Reader Expr := do
  pure (← expr).1

/-- Reads another name for a selected value. -/
def alias? : Reader (Option String) :=
  optional (keyword "as" *> name)

/-- Reads the number of rows as something to select. -/
def countItem : Reader Item := do
  let word ← lexeme
  match word.kind with
  | .word w =>
    if foldAscii w = "count" then
      parens (symbol '*')
      pure (.count (word.source ++ "(*)") (← alias?))
    else failure
  | _ => failure

/-- Reads something to select. -/
def item : Reader Item :=
  countItem <|> do
    let (e, source) ← expr
    pure (.expr e source (← alias?))

/-- Reads a condition. -/
def condition : Reader Condition := do
  keyword "where"
  let left ← value
  symbol '='
  let right ← value
  pure ⟨left, right⟩

/-- Reads rows of values. -/
def valueRows : Reader (List (List Expr)) := do
  keyword "values"
  commas (parens (commas value))

/-- Reads one part of a query. -/
def arm : Reader Arm :=
  (Arm.rows <$> valueRows) <|> do
    keyword "select"
    let items ← commas item
    let table? ← optional (keyword "from" *> name)
    let where? ← optional condition
    pure (.select items table? where?)

/-- Reads the column by which rows are ordered. -/
def orderTerm : Reader OrderTerm := do
  keywords ["order", "by"]
  let column ← name
  let descending ← optional (keyword "desc")
  if descending.isNone then let _ ← optional (keyword "asc")
  pure ⟨column, descending.isSome⟩

/-- Reads a query. Only a selection can be followed by an order. -/
def query : Reader Query := do
  let arms ← separated (keywords ["union", "all"]) arm
  match arms.getLast? with
  | some (.select ..) => pure ⟨arms, ← optional orderTerm⟩
  | _ => pure ⟨arms, none⟩

/-- Reads a number in the declaration of a type. -/
def typeNumber : Reader String := do
  let sign ← optional (symbol '-')
  let l ← lexeme
  match l.kind with
  | .whole _ | .real _ => pure ((if sign.isSome then "-" else "") ++ l.source)
  | _ => failure

/-- Reads words of a type, at most so many. -/
def typeWords : Nat → Reader (List String)
  | 0 => pure []
  | tries + 1 => do
    match ← optional name with
    | none => pure []
    | some word => pure (word :: (← typeWords tries))

/-- Reads the declaration of a type. -/
def declaredType : Reader (Option String) := do
  let words ← typeWords (← get).lexemes.length
  if words.isEmpty then pure none
  else
    let numbers ← optional (parens (commas typeNumber))
    let size := match numbers with
      | some numbers => "(" ++ String.intercalate "," numbers ++ ")"
      | none => ""
    pure (some (String.intercalate " " words ++ size))

/-- Reads the declaration of a column. -/
def columnDeclaration : Reader ColumnDeclaration := do
  let column ← name
  let declared? ← declaredType
  let key ← optional (keywords ["primary", "key"])
  pure ⟨column, declared?, key.isSome⟩

/-- Reads a change to a column. -/
def change : Reader (String × Expr) := do
  let column ← name
  symbol '='
  pure (column, ← value)

/-- Reads a command behind its first keyword. -/
def afterKeyword (first : String) : Reader Command := do
  if first = "create" then
    keyword "table"
    pure (.createTable (← name) (← parens (commas columnDeclaration)))
  else if first = "drop" then
    keyword "table"
    pure (.dropTable (← name))
  else if first = "insert" then
    keyword "into"
    pure (.insert (← name) (← parens (commas name)) (← valueRows))
  else if first = "update" then
    let table ← name
    keyword "set"
    pure (.update table (← commas change) (← optional condition))
  else if first = "delete" then
    keyword "from"
    pure (.delete (← name) (← optional condition))
  else
    let control ←
      if first = "begin" then pure Command.begin
      else if first = "commit" ∨ first = "end" then pure Command.commit
      else if first = "rollback" then pure Command.rollback
      else failure
    let _ ← optional (keyword "transaction")
    pure control

/-- Reads a command. -/
def command : Reader Command :=
  (Command.query <$> query) <|> do
    match (← lexeme).kind with
    | .word w => afterKeyword (foldAscii w)
    | _ => failure

/-- Reads a command, if there is one, and the semicolon behind it, up to the end. -/
def whole : Reader Command := do
  let input ← get
  let found ← if input.lexemes.isEmpty then pure Command.nothing else command <|> pure .nothing
  let _ ← optional (symbol ';')
  if (← get).lexemes.isEmpty then pure found else failure

end Parser

/-- The command that a text is, and its parameters. -/
def Command.read? (sql : String) : Option (Command × ParameterTable) := do
  let lexemes ← Lexeme.ofSql? sql
  let (command, input) ← Parser.whole.run ⟨lexemes, .empty⟩
  pure (command, input.parameters)

end PortableSql.Sqlite
