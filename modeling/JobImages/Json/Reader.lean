import JobImages.Json.Number
import JobImages.Json.Fault

/-!
# Reading JSON

A reader takes characters from the front of a text and leaves the rest.  Reading a value is a
recursion on how deep containers may still be nested; the loops over the characters of a string, the
elements of an array and the members of an object each carry a count that starts at the number of
characters left, of which every round takes at least one.

A reader that stops says how many bytes of the text lie behind the place of the fault.  That place
is where the reader is, or the byte after it, and never beyond the end.

## Main definitions

* `Json.Reader` — a reader of some kind of part;
* `Reader.literal`, `Reader.string`, `Reader.array`, `Reader.object` — the parts;
* `Reader.value` — a value with at most so many containers nested in one another;
* `Json.readNested`, `Json.read` — a whole text.
-/

namespace JobImages.Json

/-- Why and where a reader stops. -/
structure Stop where
  /-- What is wrong. -/
  reason : Reason
  /-- The number of bytes behind the place. -/
  behind : Nat
  deriving DecidableEq

/-- The number of bytes that characters take in UTF-8. -/
def byteLength (text : List Char) : Nat :=
  text.foldr (fun c length => c.utf8Size + length) 0

/-- A reader: a part from the front of a text and the rest, or the reason to stop. -/
abbrev Reader (α : Type) := List Char → Except Stop (α × List Char)

namespace Reader

/-- Stops `ahead` bytes after the beginning of the rest, or at the end of the text. -/
def stop {α : Type} (reason : Reason) (rest : List Char) (ahead : Nat) : Except Stop α :=
  .error { reason, behind := byteLength rest - ahead }

/-- A reader that goes on from another had something to go on from. -/
theorem exists_of_bind_eq_ok {α β : Type} {first : Except Stop α} {next : α → Except Stop β}
    {result : β} (h : (first >>= next) = .ok result) :
    ∃ middle, first = .ok middle ∧ next middle = .ok result := by
  cases first with
  | ok middle => exact ⟨middle, rfl, h⟩
  | error reached => cases h

/-- A reader that works something out of what another takes had that to work on. -/
theorem exists_of_map_eq_ok {α β : Type} {first : Except Stop α} {f : α → β} {result : β}
    (h : first.map f = .ok result) : ∃ value, first = .ok value ∧ f value = result := by
  cases first with
  | ok value => exact ⟨value, rfl, Except.ok.inj h⟩
  | error reached => cases h

/-- The blanks that may stand between the parts of a document. -/
def isBlank (c : Char) : Bool :=
  c == ' ' || c == '\n' || c == '\t' || c == '\r'

/-- The text from its first character that is not blank. -/
def skipBlanks (text : List Char) : List Char :=
  text.dropWhile isBlank

/-- The rest of a literal word. -/
def word : List Char → Reader Unit
  | [], rest => .ok ((), rest)
  | _ :: _, [] => stop .endInValue [] 0
  | c :: cs, d :: rest => if c = d then word cs rest else stop .literalExpected (d :: rest) 1

/-! ## Numbers -/

/-- The digits after a point. -/
def fraction (text : List Char) : Except Stop (Option (List Char) × List Char) :=
  match text with
  | '.' :: rest =>
    let digits := rest.takeWhile Char.isDigit
    match digits, rest.dropWhile Char.isDigit with
    | [], [] => stop .endInValue [] 0
    | [], after => stop .badNumber after 1
    | _, after => .ok (some digits, after)
  | text => .ok (none, text)

/-- The exponent part of a number. -/
def exponent (text : List Char) : Except Stop (Option Literal.Exponent × List Char) :=
  match text with
  | [] => .ok (none, [])
  | c :: rest =>
    if c = 'e' ∨ c = 'E' then
      let negative := rest.head? == some '-'
      let unsigned := if negative || rest.head? == some '+' then rest.tail else rest
      let digits := unsigned.takeWhile Char.isDigit
      match digits, unsigned.dropWhile Char.isDigit with
      | [], [] => stop .endInValue [] 0
      | [], after => stop .badNumber after 1
      | _, after => .ok (some { negative, digits }, after)
    else .ok (none, c :: rest)

/-- The digits before the point: one zero, or digits that do not begin with zero. -/
def whole (text : List Char) : Except Stop (List Char × List Char) :=
  match text with
  | [] => stop .endInValue [] 0
  | c :: rest =>
    if c = '0' then
      match rest with
      | d :: _ => if d.isDigit then stop .badNumber rest 1 else .ok ([c], rest)
      | [] => .ok ([c], rest)
    else if c.isDigit then
      .ok (c :: rest.takeWhile Char.isDigit, rest.dropWhile Char.isDigit)
    else stop .badNumber (c :: rest) 1

/-- A number literal. -/
def literal : Reader Literal := fun text => do
  let negative := text.head? == some '-'
  let (whole, rest) ← whole (if negative then text.tail else text)
  let (fraction, rest) ← fraction rest
  let (exponent, rest) ← exponent rest
  .ok ({ negative, whole, fraction, exponent }, rest)

/-- A number. -/
def number : Reader Number := fun text => do
  let (literal, rest) ← literal text
  match literal.number? with
  | some n => .ok (n, rest)
  | none =>
    .error { reason := .numberTooGreat, behind := byteLength rest + literal.unreadDigits }

/-! ## Strings -/

/-- The value of a hexadecimal digit of either case. -/
def hexDigit? (c : Char) : Option Nat :=
  if c.isDigit then some (c.toNat - '0'.toNat)
  else if 'a' ≤ c ∧ c ≤ 'f' then some (c.toNat - 'a'.toNat + 10)
  else if 'A' ≤ c ∧ c ≤ 'F' then some (c.toNat - 'A'.toNat + 10)
  else none

/-- Four hexadecimal digits. -/
def hexCode : Reader Nat := fun text =>
  -- Four bytes have to be left, of whatever characters they are; only then are these looked at.
  if byteLength (text.take 4) < 4 then stop .endInString [] 0
  else
    match text with
    | a :: b :: c :: d :: rest =>
      match hexDigit? a, hexDigit? b, hexDigit? c, hexDigit? d with
      | some a, some b, some c, some d => .ok (((a * 16 + b) * 16 + c) * 16 + d, rest)
      | _, _, _, _ => stop .badEscape text 4
    | _ => stop .badEscape text 4

/-- A UTF-16 unit that must come second in a pair. -/
def isLowSurrogate (unit : Nat) : Bool :=
  0xdc00 ≤ unit && unit ≤ 0xdfff

/-- A UTF-16 unit that must come first in a pair. -/
def isHighSurrogate (unit : Nat) : Bool :=
  0xd800 ≤ unit && unit ≤ 0xdbff

/-- The second half of a pair, after the first. -/
def lowHalf (high : Nat) : Reader Char := fun text =>
  match text with
  | [] => stop .endInString [] 0
  | '\\' :: rest =>
    match rest with
    | [] => stop .endInString [] 0
    | 'u' :: rest => do
      let (low, rest) ← hexCode rest
      if isLowSurrogate low then
        .ok (Char.ofNat ((high - 0xd800) * 0x400 + (low - 0xdc00) + 0x10000), rest)
      else stop .loneSurrogate rest 0
    | rest => stop .endOfEscape rest 1
  | text => stop .endOfEscape text 1

/-- The character that a code escape stands for, after its `u`. -/
def codeEscape : Reader Char := fun text => do
  let (unit, rest) ← hexCode text
  if isLowSurrogate unit then stop .loneSurrogate rest 0
  else if isHighSurrogate unit then lowHalf unit rest
  else .ok (Char.ofNat unit, rest)

/-- The character that an escape stands for, after its backslash. -/
def escaped : Reader Char := fun text =>
  match text with
  | [] => stop .endInString [] 0
  | c :: rest =>
    match c with
    | '"' => .ok ('"', rest)
    | '\\' => .ok ('\\', rest)
    | '/' => .ok ('/', rest)
    | 'b' => .ok ('\x08', rest)
    | 'f' => .ok ('\x0c', rest)
    | 'n' => .ok ('\n', rest)
    | 'r' => .ok ('\r', rest)
    | 't' => .ok ('\t', rest)
    | 'u' => codeEscape rest
    | _ => stop .badEscape (c :: rest) 1

/-- The characters of a string up to its closing quote.  When the count is used up, so is the text,
if the count was no less than its length. -/
def stringBody : Nat → Reader (List Char)
  | 0, text => stop .endInString text 0
  | count + 1, text =>
    match text with
    | [] => stop .endInString [] 0
    | c :: rest =>
      if c = '"' then .ok ([], rest)
      else if c = '\\' then do
        let (first, rest) ← escaped rest
        let (others, rest) ← stringBody count rest
        .ok (first :: others, rest)
      else if c.toNat < 0x20 then stop .bareControl text 1
      else do
        let (others, rest) ← stringBody count rest
        .ok (c :: others, rest)

/-- A string, after its opening quote. -/
def string : Reader String := fun text => do
  let (body, rest) ← stringBody text.length text
  .ok (String.ofList body, rest)

/-! ## Containers -/

/-- The elements of an array that has some, with the closing bracket. -/
def elements (element : Reader Json) : Nat → Reader (List Json)
  | 0, text => stop .endInArray text 0
  | count + 1, text => do
    let (first, rest) ← element text
    match skipBlanks rest with
    | [] => stop .endInArray [] 0
    | ']' :: rest => .ok ([first], rest)
    | ',' :: rest =>
      match skipBlanks rest with
      | [] => stop .endInValue [] 0
      | ']' :: rest => stop .trailingComma (']' :: rest) 1
      | rest => do
        let (others, rest) ← elements element count rest
        .ok (first :: others, rest)
    | rest => stop .arrayCommaExpected rest 1

/-- An array, after its opening bracket. -/
def array (element : Reader Json) : Reader (List Json) := fun text =>
  match skipBlanks text with
  | [] => stop .endInArray [] 0
  | ']' :: rest => .ok ([], rest)
  | rest => elements element rest.length rest

/-- A member of an object, after the opening quote of its key. -/
def member (element : Reader Json) : Reader (String × Json) := fun text => do
  let (key, rest) ← string text
  match skipBlanks rest with
  | [] => stop .endInObject [] 0
  | ':' :: rest => do
    let (value, rest) ← element rest
    .ok ((key, value), rest)
  | rest => stop .colonExpected rest 1

/-- The members of an object that has some, from the first opening quote, with the closing brace. -/
def members (element : Reader Json) : Nat → Reader (List (String × Json))
  | 0, text => stop .endInObject text 0
  | count + 1, text => do
    let (first, rest) ← member element text
    match skipBlanks rest with
    | [] => stop .endInObject [] 0
    | '\x7d' :: rest => .ok ([first], rest)
    | ',' :: rest =>
      match skipBlanks rest with
      | [] => stop .endInValue [] 0
      | '"' :: rest => do
        let (others, rest) ← members element count rest
        .ok (first :: others, rest)
      | '\x7d' :: rest => stop .trailingComma ('\x7d' :: rest) 1
      | rest => stop .keyExpected rest 1
    | rest => stop .objectCommaExpected rest 1

/-- An object, after its opening brace: every member in the order of the text. -/
def object (element : Reader Json) : Reader (List (String × Json)) := fun text =>
  match skipBlanks text with
  | [] => stop .endInObject [] 0
  | '\x7d' :: rest => .ok ([], rest)
  -- One round for each member, and one more, in which the text is found to have ended.
  | '"' :: rest => members element (rest.length + 1) rest
  | rest => stop .keyExpected rest 1

/-! ## Values and texts -/

/-- A value that begins with a given character.  There are no containers unless there is a reader
for what is in them. -/
def valueAfter (nested : Option (Reader Json)) (first : Char) : Reader Json := fun rest =>
  match first with
  | 'n' => do
    let (_, rest) ← word ['u', 'l', 'l'] rest
    .ok (.null, rest)
  | 't' => do
    let (_, rest) ← word ['r', 'u', 'e'] rest
    .ok (.bool true, rest)
  | 'f' => do
    let (_, rest) ← word ['a', 'l', 's', 'e'] rest
    .ok (.bool false, rest)
  | '"' => do
    let (text, rest) ← string rest
    .ok (.string text, rest)
  | '[' =>
    match nested with
    -- The place of this fault is behind the bracket: it is the bracket that nests too deep.
    | none => stop .tooDeep ('[' :: rest) 1
    | some nested => do
      let (items, rest) ← array nested rest
      .ok (.array items, rest)
  | '\x7b' =>
    match nested with
    | none => stop .tooDeep ('\x7b' :: rest) 1
    | some nested => do
      let (writes, rest) ← object nested rest
      .ok (.object (Members.ofWrites writes), rest)
  | first =>
    if first = '-' ∨ first.isDigit then do
      let (n, rest) ← number (first :: rest)
      .ok (.number n, rest)
    else stop .valueExpected (first :: rest) 1

/-- A value, blanks before it allowed. -/
def valueWith (nested : Option (Reader Json)) : Reader Json := fun text =>
  match skipBlanks text with
  | [] => stop .endInValue [] 0
  | first :: rest => valueAfter nested first rest

/-- A value in which at most so many containers are nested. -/
def value : Nat → Reader Json
  | 0 => valueWith none
  | depth + 1 => valueWith (some (value depth))

/-- A text that is one value with blanks around it. -/
def document (depth : Nat) (text : List Char) : Except Stop Json := do
  let (result, rest) ← value depth text
  match skipBlanks rest with
  | [] => .ok result
  | rest => stop .trailingCharacters rest 1

end Reader

/-- The fault at the place where a reader stopped. -/
def Stop.fault (text : List Char) (reached : Stop) : Fault :=
  let bytes := text.flatMap String.utf8EncodeChar
  let (line, column) := Fault.place (bytes.take (bytes.length - reached.behind))
  { reason := reached.reason, line, column }

/-- How many containers a document may nest in one another. -/
def depthLimit : Nat := 127

/-- The value of a text that nests at most `depth` containers. -/
def readNested (depth : Nat) (text : String) : Except Fault Json :=
  match Reader.document depth text.toList with
  | .ok value => .ok value
  | .error reached => .error (reached.fault text.toList)

/-- The value of a text. -/
def read (text : String) : Except Fault Json :=
  readNested depthLimit text

end JobImages.Json
