import PortableSql.Bytes.BigEndian

/-!
# Text as bytes

A text has one encoding, and bytes that encode no text are refused.
-/
namespace PortableSql.Text.Utf8

/-- The bytes of a text. -/
def encode (text : String) : Bytes :=
  text.toUTF8.data.toList

/-- The text of bytes, if they encode one. -/
def decode? (bytes : Bytes) : Option String :=
  String.fromUTF8? ⟨bytes.toArray⟩

end PortableSql.Text.Utf8
