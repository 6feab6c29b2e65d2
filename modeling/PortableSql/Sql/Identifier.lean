import PortableSql.Text.Decimal
import PortableSql.Text.LowerCase

/-!
# References to parameters and columns

A parameter or a column is addressed by its position, counted from one, or by its name. Names keep
the sigil they are written with, so `:a`, `@a` and `$a` are different, and letter case does not
matter in them. A position never equals a name.
-/
namespace PortableSql

/-- A position or a name. -/
inductive Identifier where
  | position (n : Nat)
  | name (text : String)
  deriving DecidableEq, Repr

/-- The lower-case form by which names are compared. -/
def foldName (text : String) : String :=
  Text.lower text

/-- A hash whose state is `σ`: what it makes of the parts that it is fed. -/
structure Hasher (σ : Type) where
  byte : UInt8 → σ → σ
  word : Nat → σ → σ
  text : String → σ → σ

namespace Identifier

/-- How the identifier is shown. -/
def text : Identifier → String
  | position n => Text.Decimal.ofNat n
  | name text => text

/-- The position, if it is one. -/
def position? : Identifier → Option Nat
  | position n => some n
  | name _ => none

/-- The name, if it is one. -/
def name? : Identifier → Option String
  | position _ => none
  | name text => some text

/-- The identifier is a position. -/
def isPosition (id : Identifier) : Bool :=
  id.position?.isSome

/-- What identifiers are filed under: equal ones have one key. -/
def key : Identifier → Identifier
  | position n => position n
  | name text => name (foldName text)

/-- The texts differ at most in the case of ASCII letters. -/
def sameAscii (a b : String) : Bool :=
  a.toList.map Char.toLower == b.toList.map Char.toLower

/-- The identifiers mean the same parameter or column. -/
def same : Identifier → Identifier → Bool
  | position a, position b => a == b
  | name a, name b => sameAscii a b || foldName a == foldName b
  | _, _ => false

/-- Feeds an identifier to a hash: a byte that tells positions from names, and then the position or the
folded name. -/
def feed {σ : Type} (h : Hasher σ) : Identifier → σ → σ
  | position n, s => h.word n (h.byte 0 s)
  | name text, s => h.text (foldName text) (h.byte 1 s)

@[simp] theorem same_position (a b : Nat) : (position a).same (position b) = (a == b) := rfl

@[simp] theorem same_position_name (n : Nat) (s : String) :
    (position n).same (name s) = false := rfl

@[simp] theorem same_name_position (s : String) (n : Nat) :
    (name s).same (position n) = false := rfl

@[simp] theorem key_position (n : Nat) : (position n).key = position n := rfl

@[simp] theorem key_name (s : String) : (name s).key = name (foldName s) := rfl

end Identifier

end PortableSql
