import PortableSql.Sql.Dialect

/-!
# Placeholders of SQLite

SQLite understands the placeholders as they are written. It has no sequences, so keys are given out
on insertion and the templates for them are left out.
-/
namespace PortableSql.Sqlite

/-- How SQLite wants SQL to be written. -/
def dialect : Dialect where
  position text _ := text
  name text _ := text
  ifSeq _ _ := []
  next _ _ := []
  coalescing := false

end PortableSql.Sqlite
