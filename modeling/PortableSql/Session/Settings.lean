import PortableSql.Error
import PortableSql.Json.Basic
import PortableSql.Postgres.Options
import PortableSql.SqlServer.Options
import PortableSql.Sqlite.Options

/-!
# Settings of a session

Settings say which product to talk to and how to reach it. They are kept as a JSON object whose
member `db_type` names the product; the array of that name and the other values in order means the
same. Members that the product does not know are ignored, and none it knows may occur twice.
-/
namespace PortableSql

/-- Settings for one of the products. -/
inductive Settings where
  | postgres (options : Postgres.Options)
  | sqlite (options : Sqlite.Options)
  | mssql (options : SqlServer.Options)
  deriving DecidableEq, Repr

namespace Settings

/-- The product that the settings are for. -/
def product : Settings → Product
  | postgres _ => .postgres
  | sqlite _ => .sqlite
  | mssql _ => .mssql

/-- Name of the member that says which product is meant. -/
def tag : String := "db_type"

/-- Names of a product's settings, in order. -/
def fields : Product → List String
  | .postgres => ["host", "port", "dbname", "user", "password"]
  | .sqlite => ["db_path", "wal"]
  | .mssql => ["server", "database", "user", "password", "port", "instance_name", "trust_cert"]

/-- Number of settings that an array must hold; the others may be left out at its end. -/
def leastItems : Product → Nat
  | .postgres => 5
  | .sqlite => 1
  | .mssql => 4

/-- The value of a member, if it is there once or not at all. -/
def single? (members : List (String × Json)) (name : String) : Option (Option Json) :=
  match members.filter (·.1 == name) with
  | [] => some none
  | [member] => some (some member.2)
  | _ => none

/-- A setting that must be there. -/
def required? {α : Type} (read : Json → Option α) : Option Json → Option α
  | some value => read value
  | none => none

/-- A setting that may be missing or null. -/
def nullable? {α : Type} (read : Json → Option α) : Option Json → Option (Option α)
  | none | some .null => some none
  | some value => (read value).map some

/-- A setting with a default. -/
def defaulted? {α : Type} (read : Json → Option α) (default : α) : Option Json → Option α
  | none => some default
  | some value => read value

/-- Reads a port. -/
def port? (value : Json) : Option UInt16 :=
  match value.integer? with
  | some n => if 0 ≤ n ∧ n < 65536 then some (UInt16.ofNat n.toNat) else none
  | none => none

/-- Settings of a product from the values of its fields, in order. -/
def ofFields? (product : Product) (values : List (Option Json)) : Option Settings :=
  match product, values with
  | .postgres, [host, port, dbname, user, password] => do
    pure (.postgres ⟨← nullable? Json.string? host, ← nullable? port? port,
      ← nullable? Json.string? dbname, ← nullable? Json.string? user,
      ← nullable? Json.string? password⟩)
  | .sqlite, [path, wal] => do
    pure (.sqlite ⟨← required? Json.string? path, ← defaulted? Json.bool? false wal⟩)
  | .mssql, [server, database, user, password, port, instanceName, trustCert] => do
    pure (.mssql ⟨← required? Json.string? server, ← required? Json.string? database,
      ← required? Json.string? user, ← required? Json.string? password, ← nullable? port? port,
      ← nullable? Json.string? instanceName, ← defaulted? Json.bool? true trustCert⟩)
  | _, _ => none

/-- The product named by a value. -/
def productOf? (value : Json) : Option Product :=
  value.string? >>= Product.ofName?

/-- Settings from an object or an array. -/
def ofJson? (value : Json) : Option Settings :=
  match value with
  | .object members => do
    let name ← single? members tag
    let product ← required? productOf? name
    let values ← (fields product).mapM (single? members)
    ofFields? product values
  | .array (name :: items) => do
    let product ← productOf? name
    let count := (fields product).length
    if leastItems product ≤ items.length ∧ items.length ≤ count then
      ofFields? product (items.map some ++ List.replicate (count - items.length) none)
    else none
  | _ => none

/-- A value or null. -/
def orNull {α : Type} (write : α → Json) : Option α → Json
  | some value => write value
  | none => .null

/-- A port as a number. -/
def portNumber (port : UInt16) : Json :=
  .ofNat port.toNat

/-- Values of the fields, in order. -/
def values : Settings → List Json
  | postgres o =>
    [orNull .string o.host, orNull portNumber o.port, orNull .string o.dbname,
      orNull .string o.user, orNull .string o.password]
  | sqlite o => [.string o.dbPath, .bool o.wal]
  | mssql o =>
    [.string o.server, .string o.database, .string o.user, .string o.password,
      orNull portNumber o.port, orNull .string o.instanceName, .bool o.trustCert]

/-- Settings as an object. -/
def toJson (s : Settings) : Json :=
  .object ((tag, .string s.product.name) :: (fields s.product).zip s.values)

end Settings

end PortableSql
