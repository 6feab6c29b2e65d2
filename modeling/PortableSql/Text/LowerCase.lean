import PortableSql.Text.CaseTable

/-!
# Lower-casing text

The full default lower-case mapping: character by character, except that a capital sigma at the
end of a word becomes the final small sigma. Names of parameters and columns are compared by it.
-/
namespace PortableSql.Text

/-- Lower-case form of a character taken by itself. One letter of the standard has a form of two
characters. -/
def lowerChar (c : Char) : List Char :=
  if c.toNat < 128 then [c.toLower]
  else if c = 'İ' then ['i', '\u0307']
  else match lowerRuns.find? (·.covers c.toNat) with
    | some run => [Char.ofNat (c.toNat + run.shift).toNat]
    | none => [c]

/-- The first character that is not transparent is a letter with case. -/
def meetsLetter (text : List Char) : Bool :=
  match text.dropWhile fun c => inRanges transparentRanges c.toNat with
  | c :: _ => inRanges casedRanges c.toNat
  | [] => false

/-- Lower-case form of a capital sigma between `before`, nearest character first, and `after`: the
final form where a letter comes before and none follows. -/
def lowerSigma (before after : List Char) : Char :=
  if meetsLetter before && !meetsLetter after then 'ς' else 'σ'

/-- Lower-case form of the text that follows `before`, nearest character first. -/
def lowerAfter (before : List Char) : List Char → List Char
  | [] => []
  | c :: rest =>
    (if c = 'Σ' then [lowerSigma before rest] else lowerChar c) ++ lowerAfter (c :: before) rest

/-- Lower-case form of a text. -/
def lower (text : String) : String :=
  String.ofList (lowerAfter [] text.toList)

@[simp] theorem lower_empty : lower "" = "" := rfl

end PortableSql.Text
