/-!
# Texts as bytes

A text is written as the bytes of its UTF-8 encoding, and read from such bytes.  Not every list of
bytes is the encoding of a text.
-/

namespace JobImages.Text

/-- The bytes of a text. -/
def toBytes (text : String) : List UInt8 :=
  text.toList.flatMap String.utf8EncodeChar

/-- The text whose bytes are given, if there is one. -/
def ofBytes? (bytes : List UInt8) : Option String :=
  String.fromUTF8? ⟨bytes.toArray⟩

end JobImages.Text
