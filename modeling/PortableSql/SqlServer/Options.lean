import PortableSql.Text.Decimal

/-!
# Settings of a SQL Server session
-/
namespace PortableSql.SqlServer

/-- Settings. -/
structure Options where
  server : String
  database : String
  user : String
  password : String
  port : Option UInt16
  instanceName : Option String
  /-- The server's certificate is accepted unseen. -/
  trustCert : Bool
  deriving DecidableEq, Repr

namespace Options

/-- Settings with the defaults for those that may be left out. -/
def new (server database user password : String) : Options :=
  ⟨server, database, user, password, none, none, true⟩

/-- The port at which the server listens unless told otherwise. -/
def defaultPort : UInt16 := 1433

/-- The port to connect to. -/
def portOrDefault (o : Options) : UInt16 :=
  o.port.getD defaultPort

/-- The machine to connect to. A single dot stands for the one that asks. -/
def host (o : Options) : String :=
  if o.server == "." then "localhost" else o.server

/-- The machine to connect to, with the port. -/
def address (o : Options) : String :=
  o.host ++ ":" ++ Text.Decimal.ofNat o.portOrDefault.toNat

end Options

end PortableSql.SqlServer
