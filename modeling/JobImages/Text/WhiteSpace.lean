/-!
# White space

The characters with the Unicode property `White_Space`, and the texts made of nothing else.  A
setting that holds only white space counts as not given.

## Main definitions

* `Text.isWhiteSpace` — the property, for one character;
* `Text.isBlank` — a text with no character outside it.
-/

namespace JobImages.Text

/-- The code points of `White_Space`, as closed ranges in increasing order. -/
def whiteSpaceRanges : List (Nat × Nat) :=
  [(0x9, 0xd), (0x20, 0x20), (0x85, 0x85), (0xa0, 0xa0), (0x1680, 0x1680), (0x2000, 0x200a),
    (0x2028, 0x2029), (0x202f, 0x202f), (0x205f, 0x205f), (0x3000, 0x3000)]

/-- Unicode white space, which includes the no-break spaces and the line separators. -/
def isWhiteSpace (c : Char) : Bool :=
  whiteSpaceRanges.any fun range => range.1 ≤ c.toNat && c.toNat ≤ range.2

/-- A text is blank when it is empty or all white space. -/
def isBlank (text : String) : Bool :=
  text.toList.all isWhiteSpace

@[simp] theorem isBlank_empty : isBlank "" = true := rfl

end JobImages.Text
