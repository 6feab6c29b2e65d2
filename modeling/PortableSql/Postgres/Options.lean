import PortableSql.Error

/-!
# Settings of a PostgreSQL session

Every setting is needed to connect; the first one that is missing is reported.
-/
namespace PortableSql.Postgres

/-- Settings, each possibly missing. -/
structure Options where
  host : Option String
  port : Option UInt16
  dbname : Option String
  user : Option String
  password : Option String
  deriving DecidableEq, Repr

/-- Settings that are all there. -/
structure Endpoint where
  host : String
  port : UInt16
  dbname : String
  user : String
  password : String
  deriving DecidableEq, Repr

namespace Options

/-- No settings. -/
def empty : Options := ⟨none, none, none, none, none⟩

instance : Inhabited Options := ⟨empty⟩

/-- A setting that must be there. -/
def require {α : Type} (field : String) : Option α → Result α
  | some value => .ok value
  | none => .error (.missingOption field)

/-- All settings, or the first one that is missing. -/
def endpoint (o : Options) : Result Endpoint := do
  let dbname ← require "dbname" o.dbname
  let host ← require "host" o.host
  let port ← require "port" o.port
  let user ← require "user" o.user
  let password ← require "password" o.password
  pure ⟨host, port, dbname, user, password⟩

/-- Refused if a setting is missing. -/
def validate (o : Options) : Result Unit :=
  o.endpoint.map fun _ => ()

end Options

end PortableSql.Postgres
