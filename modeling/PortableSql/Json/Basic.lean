import PortableSql.Number.Float

/-!
# JSON values

Settings are read from JSON and reports are written as JSON. Objects keep their members in order,
repeated names included, so that a reader can refuse them.
-/
namespace PortableSql

/-- A JSON value. -/
inductive Json where
  | null
  | bool (value : Bool)
  /-- A number written without fraction and exponent, of at most 64 bits. -/
  | integer (value : Int)
  /-- Any other number. -/
  | real (value : Double)
  | string (value : String)
  | array (items : List Json)
  | object (members : List (String × Json))
  deriving Inhabited

namespace Json

/-- The first member of an object with the given name. -/
def get? (value : Json) (name : String) : Option Json :=
  match value with
  | object members => (members.find? (·.1 == name)).map (·.2)
  | _ => none

/-- The text of a string. -/
def string? : Json → Option String
  | string value => some value
  | _ => none

/-- The value of a truth value. -/
def bool? : Json → Option Bool
  | bool value => some value
  | _ => none

/-- The value of a number written without fraction and exponent. -/
def integer? : Json → Option Int
  | integer value => some value
  | _ => none

/-- The items of an array. -/
def array? : Json → Option (List Json)
  | array items => some items
  | _ => none

/-- The members of an object. -/
def object? : Json → Option (List (String × Json))
  | object members => some members
  | _ => none

/-- The number of a natural. -/
def ofNat (n : Nat) : Json := integer n

end Json

end PortableSql
