import PortableSql.Postgres.Script
import PortableSql.Session.Backend

/-!
# PostgreSQL as a backend
-/
namespace PortableSql.Postgres

/-- How a connection is shown, given whether the server has closed it. -/
def describe {σ : Type} (isClosed : σ → Bool) (c : Connection σ) : String :=
  let closed := if isClosed c.link then "true" else "false"
  let flag := if c.inTransaction then "true" else "false"
  s!"Postgres(PostgresConnection \x7b closed: {closed}, in_transaction: {flag}, .. \x7d)"

/-- PostgreSQL behind a link. -/
def backend {σ : Type} (server : Link σ) (isClosed : σ → Bool) : Backend where
  Link := σ
  Statement := Statement
  product := .postgres
  supportsSequences := true
  control := server.control
  statements := statements server
  describe := describe isClosed

/-- A scripted PostgreSQL server. -/
def scripted : Backend := backend Script.link Script.closed

end PortableSql.Postgres
