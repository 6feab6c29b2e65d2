import PortableSql.Json.Writer
import PortableSql.Postgres.Dialect
import PortableSql.Sql.Placeholders
import PortableSql.SqlServer.Dialect
import PortableSql.Sqlite.Dialect
import PortableSql.Text.Utf8

/-!
# Rendering from the command line

The command renders one statement, given as an argument or in a file, and reports the result with
the slots of its parameters. `CommandLine.answer` is all that it does.
-/
namespace PortableSql

/-- How a product wants SQL to be written. -/
def Product.dialect : Product → Dialect
  | .postgres => Postgres.dialect
  | .sqlite => Sqlite.dialect
  | .mssql => SqlServer.dialect

namespace CommandLine

/-- What has been read from the arguments. -/
structure Arguments where
  product? : Option Product
  native : Bool
  /-- A level for the log has been given. -/
  leveled : Bool
  file? : Option String
  sql? : Option String
  deriving DecidableEq, Repr

/-- Reasons not to render anything. -/
inductive Stop where
  /-- Help is asked for, in detail or not. -/
  | help (detailed : Bool)
  /-- The arguments make no sense. -/
  | misuse
  /-- The file cannot be read. -/
  | unreadable
  deriving DecidableEq, Repr

/-- What the command leaves behind: its exit code, what it prints, and what it complains about. -/
structure Outcome where
  code : UInt8
  output : String
  complaint : String
  deriving DecidableEq, Repr

/-- No arguments at all. -/
def Arguments.empty : Arguments := ⟨none, false, false, none, none⟩

/-- The text names a level of the log, by a word in any case or by its rank. -/
def isLevel (text : String) : Bool :=
  let word := String.ofList (text.toList.map Char.toLower)
  let digits := match text.toList with
    | '+' :: rest => rest
    | chars => chars
  let rank := Text.Decimal.value digits
  ["error", "warn", "info", "debug", "trace"].contains word ||
    (!digits.isEmpty && digits.all Char.isDigit && decide (1 ≤ rank ∧ rank ≤ 5))

/-- Options that take a value. -/
def valued : List String := ["db-type", "log-level", "file"]

/-- Takes an option with its value. -/
def setOption (name value : String) (args : Arguments) : Except Stop Arguments :=
  if name = "db-type" then
    match args.product?, Product.ofName? value with
    | none, some product => .ok { args with product? := some product }
    | _, _ => .error .misuse
  else if name = "log-level" then
    if args.leveled || !isLevel value then .error .misuse else .ok { args with leveled := true }
  else if args.file?.isSome || value.isEmpty then .error .misuse
  else .ok { args with file? := some value }

/-- Takes an option that stands alone. -/
def setFlag (name : String) (args : Arguments) : Except Stop Arguments :=
  if name = "help" then .error (.help true)
  else if name = "native" && !args.native then .ok { args with native := true }
  else .error .misuse

/-- Takes the statement. -/
def setSql (sql : String) (args : Arguments) : Except Stop Arguments :=
  if args.sql?.isSome then .error .misuse else .ok { args with sql? := some sql }

/-- Reads the arguments one after another. -/
def read (args : Arguments) : List String → Except Stop Arguments
  | [] => .ok args
  | arg :: rest =>
    match arg.toList with
    | ['-', '-'] => rest.foldlM (fun args sql => setSql sql args) args
    | '-' :: '-' :: body =>
      let name := String.ofList (body.takeWhile (· != '='))
      match body.dropWhile (· != '=') with
      | _ :: value =>
        if valued.contains name then do
          read (← setOption name (String.ofList value) args) rest
        else .error .misuse
      | [] =>
        if valued.contains name then
          match rest with
          | value :: rest =>
            if value != "-" && value.startsWith "-" then .error .misuse
            else do read (← setOption name value args) rest
          | [] => .error .misuse
        else do read (← setFlag name args) rest
    | '-' :: letter :: _ => .error (if letter = 'h' then .help false else .misuse)
    | _ => do read (← setSql arg args) rest

/-- The statement to render; `contents` reads a file. -/
def source {m : Type → Type} [Monad m] (contents : String → m (Option Bytes)) (args : Arguments) :
    ExceptT Stop m String :=
  match args.sql?, args.file? with
  | some sql, none => pure sql
  | none, some path => do
    match (← contents path) >>= Text.Utf8.decode? with
    | some sql => pure sql
    | none => throw .unreadable
  | _, _ => throw .misuse

/-- What is printed about a rendered statement. -/
def report (out : RenderedSql) : Json :=
  let params := out.slots.entries.map fun (id, slots) =>
    Json.object [("param", .string id.text), ("slots", .array (slots.map Json.ofNat))]
  .object [("native_count", .ofNat out.slots.nativeCount), ("params", .array params),
    ("sql", .string out.sql)]

/-- Renders the statement that the arguments ask for. -/
def rendered {m : Type → Type} [Monad m] (contents : String → m (Option Bytes))
    (arguments : List String) : ExceptT Stop m RenderedSql := do
  let args ← ExceptT.mk (pure (read .empty arguments))
  let sql ← source contents args
  let dialect := (args.product?.getD .postgres).dialect
  pure (renderSql dialect ⟨args.native, dialect.coalescing⟩ sql)

/-- Help in one line for every option. -/
def summary : String :=
  "Rewrite portable placeholders into a backend's native SQL\n\n" ++
  "Usage: sql-preprocess [OPTIONS] [SQL]\n\n" ++
  "Arguments:\n" ++
  "  [SQL]  Statement text\n\n" ++
  "Options:\n" ++
  "      --db-type <DB_TYPE>      Target backend [default: postgres] " ++
    "[possible values: postgres, sqlite, mssql]\n" ++
  "      --native                 Keep placeholders as written\n" ++
  "      --log-level <LOG_LEVEL>  Maximum log level [default: INFO]\n" ++
  "      --file <FILE>            Read the statement from a file\n" ++
  "  -h, --help                   Print help (see more with '--help')\n"

/-- Help in a paragraph for every option. -/
def manual : String :=
  "Rewrite portable placeholders into a backend's native SQL\n\n" ++
  "Usage: sql-preprocess [OPTIONS] [SQL]\n\n" ++
  "Arguments:\n" ++
  "  [SQL]\n" ++
  "          Statement text\n\n" ++
  "Options:\n" ++
  "      --db-type <DB_TYPE>\n" ++
  "          Target backend\n          \n" ++
  "          [default: postgres]\n\n" ++
  "          Possible values:\n" ++
  "          - postgres: `PostgreSQL` database\n" ++
  "          - sqlite:   `SQLite` database\n" ++
  "          - mssql:    SQL Server database\n\n" ++
  "      --native\n" ++
  "          Keep placeholders as written\n\n" ++
  "      --log-level <LOG_LEVEL>\n" ++
  "          Maximum log level\n          \n" ++
  "          [default: INFO]\n\n" ++
  "      --file <FILE>\n" ++
  "          Read the statement from a file\n\n" ++
  "  -h, --help\n" ++
  "          Print help (see a summary with '-h')\n"

/-- What a stop leaves behind. -/
def Stop.outcome : Stop → Outcome
  | help detailed => ⟨0, if detailed then manual else summary, ""⟩
  | misuse => ⟨2, "", "error: unusable arguments\n\nFor more information, try '--help'.\n"⟩
  | unreadable => ⟨1, "", "error: cannot read statement\n"⟩

/-- All that the command does with its arguments; `contents` reads a file. -/
def answer {m : Type → Type} [Monad m] (contents : String → m (Option Bytes))
    (arguments : List String) : m Outcome := do
  match ← (rendered contents arguments).run with
  | .ok out => pure ⟨0, (report out).indented ++ "\n", ""⟩
  | .error stop => pure stop.outcome

end CommandLine

end PortableSql
