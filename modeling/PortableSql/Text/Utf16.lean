/-!
# Text as 16-bit code units

A character is one unit, or a pair of surrogates above the 16-bit range. Every text has an
encoding; a sequence of units is a text exactly when its surrogates come in pairs.
-/
namespace PortableSql.Text.Utf16

/-- The code units of a character. -/
def ofChar (c : Char) : List UInt16 :=
  if c.toNat < 0x10000 then [UInt16.ofNat c.toNat]
  else [UInt16.ofNat (0xD800 + (c.toNat - 0x10000) / 0x400),
    UInt16.ofNat (0xDC00 + (c.toNat - 0x10000) % 0x400)]

/-- The code units of a sequence of characters. -/
def ofChars (text : List Char) : List UInt16 :=
  text.flatMap ofChar

/-- The code units of a text. -/
def encode (text : String) : List UInt16 :=
  ofChars text.toList

/-- The unit opens a surrogate pair. -/
def isLeading (u : UInt16) : Bool :=
  decide (0xD800 ≤ u.toNat ∧ u.toNat < 0xDC00)

/-- The unit closes a surrogate pair. -/
def isTrailing (u : UInt16) : Bool :=
  decide (0xDC00 ≤ u.toNat ∧ u.toNat < 0xE000)

/-- The character of a surrogate pair. -/
def ofPair (high low : UInt16) : Char :=
  Char.ofNat (0x10000 + (high.toNat - 0xD800) * 0x400 + (low.toNat - 0xDC00))

/-- The characters of a sequence of units, unless a surrogate stands alone. -/
def toChars? : List UInt16 → Option (List Char)
  | [] => some []
  | u :: rest =>
    if isLeading u then
      match rest with
      | v :: rest' => if isTrailing v then (toChars? rest').map (ofPair u v :: ·) else none
      | [] => none
    else if isTrailing u then none
    else (toChars? rest).map (Char.ofNat u.toNat :: ·)

/-- The text of a sequence of units, unless a surrogate stands alone. -/
def decode? (units : List UInt16) : Option String :=
  (toChars? units).map String.ofList

@[simp] theorem ofChars_nil : ofChars [] = [] := rfl

@[simp] theorem ofChars_cons (c : Char) (text : List Char) :
    ofChars (c :: text) = ofChar c ++ ofChars text := rfl

end PortableSql.Text.Utf16
