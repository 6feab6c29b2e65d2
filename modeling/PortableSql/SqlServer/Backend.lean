import PortableSql.Session.Backend
import PortableSql.SqlServer.Script

/-!
# SQL Server as a backend
-/
namespace PortableSql.SqlServer

/-- How a connection is shown. -/
def describe {σ : Type} (c : Connection σ) : String :=
  let flag := if c.inTransaction then "true" else "false"
  s!"Mssql(MssqlConnection \x7b in_transaction: {flag}, .. \x7d)"

/-- SQL Server behind a link. -/
def backend {σ : Type} (server : Link σ) : Backend where
  Link := σ
  Statement := Statement
  product := .mssql
  supportsSequences := true
  control := server.control
  statements := statements server
  describe := describe

/-- A scripted SQL Server. -/
def scripted : Backend := backend Script.link

end PortableSql.SqlServer
