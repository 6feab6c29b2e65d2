import PortableSql.Value.Basic

/-!
# Stored values

What SQLite stores in a cell: nothing, a number, a text or a binary object. The type that a column
is declared with does not restrict its cells; it is only a hint for readers.
-/
namespace PortableSql.Sqlite

/-- Contents of a cell. -/
inductive Stored where
  | null
  | integer (n : Int64)
  | real (x : Double)
  | text (text : String)
  | blob (bytes : Bytes)
  deriving DecidableEq, Repr

namespace Stored

/-- The type of a cell's contents. -/
def valueType : Stored → ValueType
  | null => .null
  | integer _ => .bigint
  | real _ => .double
  | text _ => .varchar
  | blob _ => .blob

/-- The cell is empty. -/
def isNull : Stored → Bool
  | null => true
  | _ => false

/-- A real number as it is stored; one that is not a number is stored as nothing. -/
def ofDouble (x : Double) : Stored :=
  if x.isNan then null else real x

end Stored

/-- The word occurs in the text. -/
def mentions (word text : List Char) : Bool :=
  match text with
  | [] => word.isEmpty
  | c :: rest => word.isPrefixOf (c :: rest) || mentions word rest

/-- The text in ASCII capitals. -/
def capitals (text : String) : List Char :=
  text.toList.map Char.toUpper

/-- One of the words occurs in the declaration. -/
def declares (declared : List Char) (words : List String) : Bool :=
  words.any fun word => mentions word.toList declared

/-- The type that a declaration suggests. -/
def typeOfDeclaration (declared? : Option String) : ValueType :=
  match declared? with
  | none => .any
  | some declared =>
    let upper := capitals declared
    if upper = "DATE".toList then .date
    else if upper = "TIME".toList then .time
    else if upper = "TIMESTAMP".toList ∨ upper = "DATETIME".toList then .timestamp
    else if declares upper ["INT"] then .bigint
    else if declares upper ["CHAR", "CLOB", "TEXT"] then .varchar
    else if declares upper ["BLOB"] || upper.isEmpty then .blob
    else if declares upper ["REAL", "FLOA", "DOUB"] then .double
    else .any

end PortableSql.Sqlite
