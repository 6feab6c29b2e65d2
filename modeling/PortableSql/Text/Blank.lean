/-!
# Blank characters

White space in the sense of the character standard, and the smaller ASCII set that separates the
words of a template.
-/
namespace PortableSql.Text

/-- White space of the character standard. -/
def isBlank (c : Char) : Bool :=
  let code := c.toNat
  decide (9 ≤ code ∧ code ≤ 13) || code == 0x20 || code == 0x85 || code == 0xA0 ||
  code == 0x1680 || decide (0x2000 ≤ code ∧ code ≤ 0x200A) || code == 0x2028 ||
  code == 0x2029 || code == 0x202F || code == 0x205F || code == 0x3000

/-- White space of ASCII, without the vertical tab. -/
def isAsciiBlank (c : Char) : Bool :=
  c == ' ' || c == '\t' || c == '\n' || c == '\x0c' || c == '\r'

/-- The text without blanks at its start. -/
def trimStart (text : List Char) : List Char :=
  text.dropWhile isBlank

/-- The text without characters of the class at its end. -/
def dropTrailing (drop : α → Bool) (text : List α) : List α :=
  (text.reverse.dropWhile drop).reverse

/-- The text without blanks at either end. -/
def trim (text : List Char) : List Char :=
  dropTrailing isBlank (trimStart text)

@[simp] theorem dropTrailing_nil (drop : α → Bool) : dropTrailing drop [] = [] := rfl

end PortableSql.Text
