import JobImages.Log.Basic
import JobImages.Text.Alphanumeric
import JobImages.Text.Split
import JobImages.Text.WhiteSpace

/-!
# Filters of remarks

The environment says which remarks are shown, in a list of directives.  A directive gives an amount
of detail: for everything, for the sources whose names begin in some way, for the remarks with some
field, or for what is said within a span.  Of the directives that apply to a remark the most
specific one decides: the one with the longest name, then one that asks for a field.

## Main definitions

* `Log.Directive` — a directive;
* `Log.Directive.read?` — the directive that a text stands for, by way of its `Log.Directive.Parts`;
* `Log.Filter.read`, `Log.Filter.admits` — the filter in a setting, and what it lets through.
-/

namespace JobImages.Log

/-- What a directive asks of a remark besides its source. -/
inductive Condition where
  /-- Nothing. -/
  | always
  /-- A field of that name. -/
  | field (name : List Char)
  /-- That it is made within a span, which no remark is. -/
  | withinSpan
  deriving DecidableEq

/-- An amount of detail for some remarks.  It is a number up to that of `Level.trace`; zero shows
nothing. -/
structure Directive where
  /-- How the name of the source begins. -/
  source : List Char
  /-- What else is asked. -/
  condition : Condition
  /-- How much detail is shown. -/
  detail : Nat
  deriving DecidableEq

namespace Directive

/-! ## Reading -/

/-- The names of the amounts of detail, in lower case. -/
def detailNames : List (String × Nat) :=
  [("off", 0), ("error", 1), ("warn", 2), ("info", 3), ("debug", 4), ("trace", 5)]

/-- The amount of detail that a text names: a name in either case, or a number in decimal, a plus
sign before it allowed. -/
def detail? (text : List Char) : Option Nat :=
  let digits := if text.head? == some '+' then text.drop 1 else text
  if !digits.isEmpty && digits.all Char.isDigit then
    let value := digits.foldl (fun value digit => value * 10 + (digit.toNat - '0'.toNat)) 0
    if value ≤ Level.trace.detail then some value else none
  else detailNames.lookup (String.ofList (text.map Char.toLower))

/-- A directive by its parts. -/
structure Parts where
  /-- What stands before a bracket or a sign of equality. -/
  word : List Char
  /-- The condition in brackets, if there are any. -/
  condition : Option Condition
  /-- What stands after the sign of equality, if there is one. -/
  level : Option (List Char)

/-- What a field in brackets asks for, next to the name of a span.  A field with a value is one that
spans have. -/
def fieldCondition (span field : List Char) : Condition :=
  if span.isEmpty && !field.contains '=' then .field field else .withinSpan

/-- The condition in brackets and what follows them, given without the opening bracket. -/
def cutCondition? (text : List Char) : Option (Condition × List Char) :=
  let span := text.takeWhile fun c => c != ']' && c != '\x7b'
  match text.drop span.length with
  | ']' :: rest => some (.withinSpan, rest)
  | _ :: rest =>
    let field := rest.takeWhile (· != '\x7d')
    match rest.drop field.length with
    | _ :: ']' :: rest => if field.isEmpty then none else some (fieldCondition span field, rest)
    | _ => none
  | [] => none

/-- What follows a sign of equality, or nothing but blanks. -/
def cutLevel? (text : List Char) : Option (Option (List Char)) :=
  match text with
  | '=' :: level => some (some level)
  | rest => if rest.all Text.isWhiteSpace then some none else none

/-- Whether a directive may begin with a character. -/
def canBegin (c : Char) : Bool :=
  Text.isAlphanumeric c || ['[', '-', ':', '_'].contains c

/-- The parts of a text that does not begin with a blank. -/
def Parts.read? (text : List Char) : Option Parts := do
  if !text.head?.any canBegin then none
  let word := text.takeWhile fun c => c != '=' && c != '['
  match text.drop word.length with
  | '[' :: rest => do
    let (condition, rest) ← cutCondition? rest
    let level ← cutLevel? rest
    some { word, condition := some condition, level }
  | rest => do
    let level ← cutLevel? rest
    some { word, condition := none, level }

/-- The directive of some parts.  A word on its own is a level if it can be one; without a level, or
with an empty one, everything is shown. -/
def ofParts? (parts : Parts) : Option Directive := do
  let all := Level.trace.detail
  let condition := parts.condition.getD .always
  match parts.condition, parts.level, detail? parts.word with
  | none, none, some detail => some { source := [], condition, detail }
  | _, none, _ => some { source := parts.word, condition, detail := all }
  | _, some level, _ => do
    let detail ← if level.isEmpty then some all else detail? level
    some { source := parts.word, condition, detail }

/-- The directive that a text stands for.  Blanks before it belong to the name of a source, which no
source has, and leave no place for a level. -/
def read? (text : List Char) : Option Directive := do
  let bare := text.dropWhile Text.isWhiteSpace
  let parts ← Parts.read? bare
  if bare.length = text.length then ofParts? parts
  else if parts.level.isSome then none
  else some { source := text, condition := .always, detail := Level.trace.detail }

/-! ## Remarks that a directive is about -/

/-- Whether a directive applies to a remark. -/
def appliesTo (directive : Directive) (record : Record) : Bool :=
  directive.source.isPrefixOf record.source.name.toList &&
    (match directive.condition with
      | .always => true
      | .field name => record.fieldNames.contains (String.ofList name)
      | .withinSpan => false)

/-- What is compared to find the more specific of two directives: the length of the name, and then
the field, in the order of texts. -/
def key (directive : Directive) : List Nat :=
  directive.source.length ::
    (match directive.condition with
      | .field name => 1 :: name.map Char.toNat
      | _ => [0])

/-- Whether a key does not come after another, in lexicographic order. -/
def isAtMost : List Nat → List Nat → Bool
  | [], _ => true
  | _ :: _, [] => false
  | a :: first, b :: second => if a = b then isAtMost first second else a < b

/-- The more specific of two directives; the second if they are about the same. -/
def moreSpecific (first second : Directive) : Directive :=
  if isAtMost first.key second.key then second else first

end Directive

/-! ## Filters -/

/-- What is shown. -/
abbrev Filter := List Directive

namespace Filter

/-- Warnings and errors of everything. -/
def standard : Filter :=
  [{ source := [], condition := .always, detail := Level.warn.detail }]

/-- The filter that a setting asks for.  Where there is no setting, or one that cannot be
understood, it is the standard. -/
def read (setting : Option String) : Filter :=
  match setting with
  | none => standard
  | some text =>
    -- One directive that cannot be understood spoils the others.
    let parts := (Text.splitOn ',' text.toList).filter (!·.isEmpty)
    (parts.mapM Directive.read?).getD standard

/-- The detail that is shown of what a remark is about. -/
def detailFor (filter : Filter) (record : Record) : Nat :=
  match filter.filter (·.appliesTo record) with
  | [] => 0
  | first :: rest => (rest.foldl Directive.moreSpecific first).detail

/-- Whether a remark is shown. -/
def admits (filter : Filter) (record : Record) : Bool :=
  record.level.detail ≤ filter.detailFor record

end Filter

end JobImages.Log
