import JobImages.Binary64.Basic

/-!
# JSON values

A value keeps what a document says as far as readers can tell documents apart: the order of an
object's members, and whether a number is an exact integer or a double.

## Main definitions

* `Json.Integer` — the integers that are kept exactly;
* `Json` — the values, an object being a list of members in document order;
* `Members.put` — a member written into an object, in place if its key is there already;
* `Json.same` — equality that does not look at the order of members.
-/

namespace JobImages

/-- The integers kept exactly: what fits a signed or an unsigned 64-bit word. -/
structure Json.Integer where
  /-- The integer. -/
  value : Int
  /-- Nothing lies below the least signed word. -/
  lower : -0x8000000000000000 ≤ value
  /-- Nothing lies above the greatest unsigned word. -/
  upper : value < 0x10000000000000000
  deriving DecidableEq

/-- A number of a document. -/
inductive Json.Number where
  /-- An exact integer. -/
  | integer (n : Json.Integer)
  /-- Anything else, and `-0`. -/
  | real (x : Binary64)
  deriving DecidableEq

/-- A JSON value. -/
inductive Json where
  /-- The literal `null`. -/
  | null
  /-- The literals `true` and `false`. -/
  | bool (value : Bool)
  /-- A number. -/
  | number (value : Json.Number)
  /-- A string. -/
  | string (text : String)
  /-- The elements in order. -/
  | array (items : List Json)
  /-- The members in order. -/
  | object (members : List (String × Json))

namespace Json

/-- The members of an object, in order. -/
abbrev Members := List (String × Json)

/-- The integer as one of those kept exactly, if it is. -/
def Integer.ofInt? (value : Int) : Option Integer :=
  if h : -0x8000000000000000 ≤ value ∧ value < 0x10000000000000000 then
    some ⟨value, h.1, h.2⟩
  else none

@[simp] theorem Integer.ofInt?_value (n : Integer) : Integer.ofInt? n.value = some n :=
  dif_pos ⟨n.lower, n.upper⟩

/-- Equality of value for numbers: an integer never equals a double, and the zeros are equal. -/
def Number.same : Number → Number → Bool
  | .integer m, .integer n => m.value == n.value
  | .real x, .real y => x.sameValue y
  | _, _ => false

namespace Members

/-- The value kept for a key. -/
def get? (members : Members) (key : String) : Option Json :=
  members.lookup key

/-- Writes a member: a key that is there keeps its place and takes the new value, and a new key
comes last. -/
def put (key : String) (value : Json) : Members → Members
  | [] => [(key, value)]
  | (k, v) :: rest => if k = key then (k, value) :: rest else (k, v) :: put key value rest

/-- The keys in order. -/
def keys (members : Members) : List String :=
  members.map Prod.fst

/-- The object that a sequence of members leaves when each is written after the one before it. -/
def ofWrites (writes : List (String × Json)) : Members :=
  writes.foldl (fun members write => put write.1 write.2 members) []

@[simp] theorem put_nil (key : String) (value : Json) : put key value [] = [(key, value)] := rfl

theorem get?_cons (key k : String) (v : Json) (rest : Members) :
    get? ((k, v) :: rest) key = if k = key then some v else get? rest key := by
  unfold get?
  rw [List.lookup_cons]
  by_cases h : k = key
  · simp [h]
  · have h' : (key == k) = false := by simpa using fun e : key = k => h e.symm
    simp [h, h']

theorem get?_put_self (key : String) (value : Json) (members : Members) :
    get? (put key value members) key = some value := by
  induction members with
  | nil => rw [put, get?_cons, if_pos rfl]
  | cons member rest ih =>
    obtain ⟨k, v⟩ := member
    by_cases h : k = key
    · rw [put, if_pos h, get?_cons, if_pos h]
    · rw [put, if_neg h, get?_cons, if_neg h, ih]

theorem get?_put_of_ne {key other : String} (value : Json) (members : Members)
    (h : other ≠ key) : get? (put key value members) other = get? members other := by
  induction members with
  | nil => rw [put, get?_cons, if_neg h.symm]
  | cons member rest ih =>
    obtain ⟨k, v⟩ := member
    by_cases hk : k = key
    · rw [put, if_pos hk, get?_cons, get?_cons, hk, if_neg h.symm, if_neg h.symm]
    · rw [put, if_neg hk, get?_cons, get?_cons, ih]

theorem keys_put_of_mem {key : String} (value : Json) {members : Members}
    (h : key ∈ keys members) : keys (put key value members) = keys members := by
  induction members with
  | nil => cases h
  | cons member rest ih =>
    obtain ⟨k, v⟩ := member
    by_cases hk : k = key
    · rw [put, if_pos hk]
      rfl
    · rw [put, if_neg hk]
      rcases List.mem_cons.1 h with h | h
      · exact absurd h.symm hk
      · exact congrArg (k :: ·) (ih h)

theorem keys_put_of_not_mem {key : String} (value : Json) {members : Members}
    (h : key ∉ keys members) : keys (put key value members) = keys members ++ [key] := by
  induction members with
  | nil => rfl
  | cons member rest ih =>
    obtain ⟨k, v⟩ := member
    have hk : k ≠ key := fun e => h (List.mem_cons.2 (Or.inl e.symm))
    rw [put, if_neg hk]
    exact congrArg (k :: ·) (ih fun hmem => h (List.mem_cons.2 (Or.inr hmem)))

/-- Writing a member keeps the keys distinct. -/
theorem nodup_keys_put (key : String) (value : Json) {members : Members}
    (h : (keys members).Nodup) : (keys (put key value members)).Nodup := by
  by_cases hkey : key ∈ keys members
  · rw [keys_put_of_mem value hkey]
    exact h
  · rw [keys_put_of_not_mem value hkey]
    refine List.nodup_append.2 ⟨h, by simp, fun a ha b hb e => hkey ?_⟩
    rw [List.mem_singleton] at hb
    rwa [← hb, ← e]

/-- Of two writes under one key the second is all that is left. -/
theorem put_put (key : String) (first second : Json) (members : Members) :
    put key second (put key first members) = put key second members := by
  induction members with
  | nil => simp [put]
  | cons member rest ih =>
    obtain ⟨k, v⟩ := member
    by_cases hk : k = key
    · simp [put, hk]
    · simp [put, hk, ih]

end Members

mutual

/-- Equality of value.  Elements are compared in order, members by key. -/
def same : Json → Json → Bool
  | .null, .null => true
  | .bool a, .bool b => a == b
  | .number m, .number n => m.same n
  | .string s, .string t => s == t
  | .array xs, .array ys => sameItems xs ys
  | .object ms, .object ns => ms.length == ns.length && sameMembers ms ns
  | _, _ => false

/-- Elements pairwise equal, and equally many. -/
def sameItems : List Json → List Json → Bool
  | [], [] => true
  | x :: xs, y :: ys => same x y && sameItems xs ys
  | _, _ => false

/-- Every member of the first list has an equal value in the second. -/
def sameMembers : List (String × Json) → List (String × Json) → Bool
  | [], _ => true
  | (key, value) :: rest, others =>
    (match Members.get? others key with
      | some other => same value other
      | none => false) && sameMembers rest others

end

/-- What a value is, in words. -/
def kind : Json → String
  | .null => "null"
  | .bool _ => "a boolean"
  | .number _ => "a number"
  | .string _ => "a string"
  | .array _ => "an array"
  | .object _ => "an object"

/-- The text of a string value. -/
def text? : Json → Option String
  | .string text => some text
  | _ => none

theorem text?_eq_some_iff {value : Json} {text : String} :
    value.text? = some text ↔ value = .string text := by
  cases value <;> simp [text?]

end Json

end JobImages
