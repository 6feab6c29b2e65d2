import PortableSql.Session.Backend
import PortableSql.Sqlite.Handle

/-!
# SQLite as a backend
-/
namespace PortableSql.Sqlite

/-- How a connection is shown. -/
def describe (c : Connection Handle) : String :=
  let path := c.link.options.dbPath
  let flag := if c.inTransaction then "true" else "false"
  s!"Sqlite(SqliteConnection \x7b db_path: \"{path}\", in_transaction: {flag}, .. \x7d)"

/-- SQLite. -/
def backend : Backend where
  Link := Handle
  Statement := Statement
  product := .sqlite
  supportsSequences := false
  control := Handle.control
  statements := Handle.statements
  describe := describe

end PortableSql.Sqlite
