import JobImages.Json.Basic

/-!
# Looking into JSON values

A document that describes something is looked at member by member.  What is not there, or is of
another kind, is as good as absent, and what is absent may have a value of its own.
-/

namespace JobImages.Json

/-- The member of an object. -/
def field? (object : Json) (key : String) : Option Json :=
  match object with
  | .object members => Members.get? members key
  | _ => none

/-- The text of a member. -/
def textAt? (object : Json) (key : String) : Option String :=
  (object.field? key).bind text?

/-- The text of a member, or another. -/
def textAt (object : Json) (key otherwise : String) : String :=
  (object.textAt? key).getD otherwise

/-- The integer of a member. -/
def integerAt? (object : Json) (key : String) : Option Int :=
  match object.field? key with
  | some (.number (.integer n)) => some n.value
  | _ => none

/-- The natural number of a member, or another. -/
def naturalAt (object : Json) (key : String) (otherwise : Nat) : Nat :=
  match object.integerAt? key with
  | some value => value.toNat
  | none => otherwise

/-- The truth value of a member, or another. -/
def boolAt (object : Json) (key : String) (otherwise : Bool) : Bool :=
  match object.field? key with
  | some (.bool value) => value
  | _ => otherwise

/-- The elements of a member that is an array. -/
def itemsAt? (object : Json) (key : String) : Option (List Json) :=
  match object.field? key with
  | some (.array items) => some items
  | _ => none

/-- The elements of a member that is an array, or none. -/
def itemsAt (object : Json) (key : String) : List Json :=
  (object.itemsAt? key).getD []

end JobImages.Json
