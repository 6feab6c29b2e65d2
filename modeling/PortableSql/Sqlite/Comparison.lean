import PortableSql.Sqlite.Affinity
import PortableSql.Text.Utf8

/-!
# Comparing stored values

Nothing comes first, then numbers by value, then texts and binary objects byte by byte. Nothing
equals nothing only in this order: in a condition it is neither equal nor unequal to anything.
-/
namespace PortableSql.Sqlite

/-- A number as a ratio to the power of two that is its second part, or an infinity. -/
def numberDatum (value : Stored) : Datum :=
  match value with
  | .integer n => .finite (decide (n.toInt < 0)) n.toInt.natAbs 0
  | .real x => x.datum
  | _ => .nan

/-- The order of two numbers. -/
def compareNumbers (a b : Datum) : Ordering :=
  match a, b with
  | .infinite s, .infinite t => if s = t then .eq else if s then .lt else .gt
  | .infinite s, _ => if s then .lt else .gt
  | _, .infinite t => if t then .gt else .lt
  | .finite s m e, .finite t n d =>
    let low := min e d
    let left := Datum.signedMantissa s m * 2 ^ (e - low).toNat
    let right := Datum.signedMantissa t n * 2 ^ (d - low).toNat
    compare left right
  | _, _ => .eq

/-- The order of two sequences of bytes. -/
def compareBytes : Bytes → Bytes → Ordering
  | [], [] => .eq
  | [], _ => .lt
  | _, [] => .gt
  | a :: as, b :: bs => (compare a.toNat b.toNat).then (compareBytes as bs)

namespace Stored

/-- Place of a value's class in the order. -/
def classRank : Stored → Nat
  | null => 0
  | integer _ | real _ => 1
  | text _ => 2
  | blob _ => 3

/-- The order of stored values. -/
def order (a b : Stored) : Ordering :=
  match a, b with
  | text s, text t => compareBytes (Text.Utf8.encode s) (Text.Utf8.encode t)
  | blob s, blob t => compareBytes s t
  | a, b => (compare a.classRank b.classRank).then (compareNumbers (numberDatum a) (numberDatum b))

/-- Both values are something, and they are equal. -/
def equals (a b : Stored) : Bool :=
  !a.isNull && !b.isNull && a.order b == .eq

end Stored

/-- The affinity under which two sides are compared; an expression that is no column has none. -/
def comparisonAffinity (a b : Option Affinity) : Affinity :=
  match a, b with
  | some a, some b => if a.isNumeric || b.isNumeric then .numeric else .blob
  | some a, none => a
  | none, some b => b
  | none, none => .blob

/-- The two sides of a condition are equal. -/
def conditionHolds (a b : Stored) (affinity : Affinity) : Bool :=
  let convert (value : Stored) :=
    if affinity.isNumeric then Affinity.toNumber value
    else if affinity = .text then Affinity.toText value
    else value
  (convert a).equals (convert b)

end PortableSql.Sqlite
