/-!
# Text for a terminal

A text for a terminal holds control sequences between its characters: they say how the text looks
and not what it is.  Where there is no terminal, the text is written without them and without other
controls than blanks and line ends.  A sequence that is not finished takes with it what follows, up
to the next sequence.

## Main definitions

* `Text.Sequence` — the sequence under way, if there is one;
* `Text.plain` — what is left of a text without its sequences;
* `Text.strong` — a text that a terminal shows in bold.
-/

namespace JobImages.Text

/-- How far a sequence with parameters has come. -/
inductive Stage where
  /-- Only its introduction is known. -/
  | opened
  /-- Its parameters are being read. -/
  | parameters
  /-- Its parameters are over. -/
  | intermediate
  /-- It has something at a wrong place. -/
  | malformed
  deriving DecidableEq

/-- The stage after a character, or `none` if the character is the last of the sequence.  What is no
printable ASCII character does not count. -/
def Stage.next? (stage : Stage) (c : Char) : Option Stage :=
  let n := c.toNat
  if n < 0x20 || 0x7f ≤ n then some stage
  else if n < 0x30 then
    match stage with
    | .malformed => some .malformed
    | _ => some .intermediate
  else if n < 0x40 then
    match stage with
    | .opened => some .parameters
    | .parameters => if n < 0x3c then some .parameters else some .malformed
    | .intermediate | .malformed => some .malformed
  else none

/-- The sequence that a place in a text belongs to. -/
inductive Sequence where
  /-- None: what comes is text. -/
  | none
  /-- One of which only the escape character is known. -/
  | escape
  /-- A short one, whose last character is still to come. -/
  | short
  /-- A control sequence. -/
  | control (stage : Stage)
  /-- A sequence for a device, before the data of the device. -/
  | device (stage : Stage)
  /-- Data that no terminal shows. -/
  | data
  /-- A title or another setting of the terminal. -/
  | setting
  deriving DecidableEq

/-- A blank or a line end that counts as text. -/
def isSpacing (c : Char) : Bool :=
  c == '\t' || c == '\n' || c == '\x0c' || c == '\r'

/-- The sequence that an escape character and another character begin. -/
def Sequence.ofIntroducer (c : Char) : Sequence :=
  let n := c.toNat
  if n < 0x20 || 0x7f ≤ n then .escape
  else if n < 0x30 then .short
  else
    match c with
    | '[' => .control .opened
    | ']' => .setting
    | 'P' => .device .opened
    | 'X' | '^' | '_' => .data
    | _ => .none

/-- Whether a character ends data: one of its bytes is that of the string terminator. -/
def endsData (c : Char) : Bool :=
  (String.utf8EncodeChar c).contains 0x9c

/-- The sequence after a character.  An escape character begins a sequence anywhere, and the
characters that cancel or substitute end one anywhere; spacing ends all but those with data. -/
def Sequence.next (sequence : Sequence) (c : Char) : Sequence :=
  if c = '\x1b' then .escape
  else if c = '\x18' ∨ c = '\x1a' then .none
  else
    match sequence with
    | .none => .none
    | .escape => if isSpacing c then .none else .ofIntroducer c
    | .short => if isSpacing c || ('0' ≤ c && c ≤ '~') then .none else .short
    | .control stage =>
      if isSpacing c then .none
      else
        match stage.next? c with
        | some stage => .control stage
        | .none => .none
    | .device stage =>
      match stage.next? c with
      | some .malformed | .none => .data
      | some stage => .device stage
    | .data => if endsData c then .none else .data
    | .setting => if c = '\x07' then .none else .setting

/-- Whether a character counts as text, by the sequence it stands in. -/
def Sequence.shows (sequence : Sequence) (c : Char) : Bool :=
  match sequence with
  | .none => isSpacing c || (0x20 ≤ c.toNat && c.toNat != 0x7f)
  | .escape | .short | .control _ => isSpacing c
  | .device _ | .data | .setting => false

/-- What is left of a text that begins within a sequence. -/
def plainFrom (sequence : Sequence) : List Char → List Char
  | [] => []
  | c :: rest =>
    let left := plainFrom (sequence.next c) rest
    if sequence.shows c then c :: left else left

/-- A text without its sequences and controls. -/
def plain (text : String) : String :=
  String.ofList (plainFrom .none text.toList)

/-- A text in bold, between two control sequences. -/
def strong (text : String) : String :=
  "\x1b[1m" ++ text ++ "\x1b[0m"

end JobImages.Text
