/-!
# Settings of a SQLite session
-/
namespace PortableSql.Sqlite

/-- Settings. -/
structure Options where
  /-- Path of the database's file. -/
  dbPath : String
  /-- The file is switched to write-ahead logging. -/
  wal : Bool
  deriving DecidableEq, Repr

namespace Options

/-- Settings for a file that is left as it is. -/
def new (dbPath : String) : Options := ⟨dbPath, false⟩

/-- The path that stands for a database without a file. -/
def memoryPath : String := ":memory:"

/-- The database has no file. -/
def isInMemory (o : Options) : Bool :=
  o.dbPath == memoryPath

end Options

end PortableSql.Sqlite
