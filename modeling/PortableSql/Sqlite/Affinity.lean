import PortableSql.Sqlite.RealText
import PortableSql.Sqlite.Storage
import PortableSql.Text.Blank

/-!
# Affinities

The declaration of a column gives it an affinity: the kind of value it prefers. A value that can be
turned into that kind without loss is turned when it is stored or compared, and any other value is
left as it is.
-/
namespace PortableSql.Sqlite

/-- Kinds of values that a column prefers. -/
inductive Affinity where
  | blob
  | text
  | numeric
  | integer
  | real
  deriving DecidableEq, Repr

namespace Affinity

/-- The affinity of a declaration. -/
def ofDeclaration (declared? : Option String) : Affinity :=
  match declared? with
  | none => blob
  | some declared =>
    let upper := capitals declared
    if declares upper ["INT"] then integer
    else if declares upper ["CHAR", "CLOB", "TEXT"] then text
    else if declares upper ["BLOB"] || upper.isEmpty then blob
    else if declares upper ["REAL", "FLOA", "DOUB"] then real
    else numeric

/-- Numbers are preferred. -/
def isNumeric : Affinity → Bool
  | numeric | integer | real => true
  | blob | text => false

/-- Blanks that may stand around a number. -/
def isNumberBlank (c : Char) : Bool :=
  c == ' ' || decide ('\t' ≤ c ∧ c ≤ '\r')

/-- A real number, or the integer that it equals. The ends of the integers stay real. -/
def wholeOrReal (x : Double) : Stored :=
  match x.truncate? with
  | some n =>
    if (Double.ofInt n).numEq x ∧ IntType.int64.least < n ∧ n < IntType.int64.greatest then
      .integer (Int64.ofInt n)
    else .real x
  | none => .real x

/-- The number that a text is, with blanks around it. -/
def numberOfText? (text : String) : Option Stored :=
  let trimmed := Text.dropTrailing isNumberBlank (text.toList.dropWhile isNumberBlank)
  let (negative, body) := FloatText.splitSign trimmed
  let real := (FloatText.scientific? body).map fun s => wholeOrReal (RealText.read negative s)
  match Text.Decimal.parseInt? trimmed with
  | some n => if IntType.int64.Fits n then some (.integer (Int64.ofInt n)) else real
  | none => real

/-- A value turned into a number, if it is the text of one. -/
def toNumber (value : Stored) : Stored :=
  match value with
  | .text shown => (numberOfText? shown).getD value
  | .real x => wholeOrReal x
  | value => value

/-- A value turned into text, if it is a number. -/
def toText (value : Stored) : Stored :=
  match value with
  | .integer n => .text (Text.Decimal.ofInt n.toInt)
  | .real x => .text (RealText.ofDouble x)
  | value => value

/-- A value as a column of an affinity stores it. -/
def store (affinity : Affinity) (value : Stored) : Stored :=
  match affinity with
  | blob => value
  | text => toText value
  | numeric | integer => toNumber value
  | real =>
    match toNumber value with
    | .integer n => .real (.ofInt n.toInt)
    | value => value

end Affinity

end PortableSql.Sqlite
