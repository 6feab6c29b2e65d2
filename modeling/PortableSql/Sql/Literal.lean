/-!
# Quoted literals

A literal runs from an opening quote to the next quote that is neither doubled nor escaped by a
backslash. When the text ends before such a quote, the last doubled or escaped one closes the
literal; when there is none either, the opening quote opens nothing.

The rule looks at single symbols only, so it is stated for symbols of any kind.
-/
namespace PortableSql.Literal

variable {α : Type} [DecidableEq α]

/-- Number of symbols after the opening quote up to and including the closing one. `passed` symbols
have been read already, and `last` is the answer if no quote stands alone in the rest. -/
def closingFrom (escape quote : α) : List α → (passed : Nat) → (last : Option Nat) → Option Nat
  | [], _, last => last
  | [x], passed, last => if x = quote then some (passed + 1) else last
  | x :: y :: rest, passed, last =>
    if x = escape then
      closingFrom escape quote rest (passed + 2) (if y = quote then some (passed + 2) else last)
    else if x = quote then
      if y = quote then closingFrom escape quote rest (passed + 2) (some (passed + 1))
      else some (passed + 1)
    else closingFrom escape quote (y :: rest) (passed + 1) last

/-- Number of symbols after an opening `quote` that belong to the literal, the closing quote
included, if it is one. -/
def closing? (escape quote : α) (body : List α) : Option Nat :=
  closingFrom escape quote body 0 none

end PortableSql.Literal
