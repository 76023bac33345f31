/-!
# Faults of a JSON text

What can be wrong with a text, and where.  A place is a line and a column, and columns count bytes.

## Main definitions

* `Json.Reason` — the kinds of fault, each with its wording;
* `Json.Fault` — a kind with its place;
* `Json.Fault.place` — the line and column reached after a number of bytes.
-/

namespace JobImages.Json

/-- What is wrong with a text. -/
inductive Reason where
  /-- The text ends where a value should be. -/
  | endInValue
  /-- The text ends within an array. -/
  | endInArray
  /-- The text ends within an object. -/
  | endInObject
  /-- The text ends within a string. -/
  | endInString
  /-- A member's key is not followed by a colon. -/
  | colonExpected
  /-- An element is followed by neither a comma nor the end of the array. -/
  | arrayCommaExpected
  /-- A member is followed by neither a comma nor the end of the object. -/
  | objectCommaExpected
  /-- A word begins like a literal and goes on otherwise. -/
  | literalExpected
  /-- No value begins with that character. -/
  | valueExpected
  /-- No such escape exists. -/
  | badEscape
  /-- A number literal is malformed. -/
  | badNumber
  /-- A number lies beyond the finite doubles. -/
  | numberTooGreat
  /-- A control character stands in a string. -/
  | bareControl
  /-- A member does not begin with a string. -/
  | keyExpected
  /-- A surrogate without its other half. -/
  | loneSurrogate
  /-- A comma before the end of an array or object. -/
  | trailingComma
  /-- Something follows the value. -/
  | trailingCharacters
  /-- A high surrogate is not followed by another escape. -/
  | endOfEscape
  /-- Arrays and objects are nested too deep. -/
  | tooDeep
  deriving DecidableEq

/-- The wording of a kind of fault. -/
def Reason.message : Reason → String
  | .endInValue => "EOF while parsing a value"
  | .endInArray => "EOF while parsing a list"
  | .endInObject => "EOF while parsing an object"
  | .endInString => "EOF while parsing a string"
  | .colonExpected => "expected `:`"
  | .arrayCommaExpected => "expected `,` or `]`"
  | .objectCommaExpected => "expected `,` or `\x7d`"
  | .literalExpected => "expected ident"
  | .valueExpected => "expected value"
  | .badEscape => "invalid escape"
  | .badNumber => "invalid number"
  | .numberTooGreat => "number out of range"
  | .bareControl => "control character (\\u0000-\\u001F) found while parsing a string"
  | .keyExpected => "key must be a string"
  | .loneSurrogate => "lone leading surrogate in hex escape"
  | .trailingComma => "trailing comma"
  | .trailingCharacters => "trailing characters"
  | .endOfEscape => "unexpected end of hex escape"
  | .tooDeep => "recursion limit exceeded"

/-- A fault at its place. -/
structure Fault where
  /-- What is wrong. -/
  reason : Reason
  /-- The line, counted from one. -/
  line : Nat
  /-- The number of bytes of that line up to the fault. -/
  column : Nat
  deriving DecidableEq

namespace Fault

/-- The line and the column at the end of some bytes. -/
def place (bytes : List UInt8) : Nat × Nat :=
  bytes.foldl (fun (line, column) (byte : UInt8) =>
    if byte = 10 then (line + 1, 0) else (line, column + 1)) (1, 0)

/-- The fault's wording with its place. -/
def message (fault : Fault) : String :=
  s!"{fault.reason.message} at line {fault.line} column {fault.column}"

end Fault

end JobImages.Json
