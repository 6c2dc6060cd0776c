import Rollup.Json.Number

/-!
# JSON values

A value keeps as much of its written form as later decisions need. A number keeps
its digits. A string that is written correctly may still denote no text, for it
may hold half of a surrogate pair or octets that are not UTF-8; such a string is
no obstacle where its value is not asked for. A member's key also says whether it
was written with escapes.
-/

namespace Rollup

/-- The key of an object's member. -/
structure Json.Key where
  /-- The text that the key denotes, if it denotes one. -/
  text : Option String
  /-- Whether an escape occurs in its written form. -/
  escaped : Bool
  deriving DecidableEq, Repr

/-- A JSON value. Objects keep the order and the repetition of their members. -/
inductive Json where
  | null
  | bool (value : Bool)
  | number (value : Json.Number)
  | string (text : Option String)
  | array (items : List Json)
  | object (members : List (Json.Key × Json))

namespace Json

def ofString (text : String) : Json :=
  .string (some text)

def ofNat (value : Nat) : Json :=
  .number (.ofNat value)

def Key.ofString (text : String) : Key :=
  ⟨some text, false⟩

/-- An object whose keys are written without escapes. -/
def ofMembers (members : List (String × Json)) : Json :=
  .object (members.map fun (key, value) => (.ofString key, value))

/-- An object whose members stand in the order of their keys. -/
def ofMembersByKey (members : List (String × Json)) : Json :=
  .ofMembers (members.mergeSort fun left right => left.1 ≤ right.1)

mutual

/-- Whether every string of the value denotes a text, every number is finite in
double precision, and containers are nested in each other at most `depth` times. -/
def isReadable : (depth : Nat) → Json → Bool
  | _, .null | _, .bool _ => true
  | _, .number value => value.isFinite
  | _, .string text => text.isSome
  | 0, .array _ | 0, .object _ => false
  | depth + 1, .array items => allReadable depth items
  | depth + 1, .object members => membersReadable depth members

/-- Whether `isReadable` holds of every item. -/
def allReadable : (depth : Nat) → List Json → Bool
  | _, [] => true
  | depth, item :: rest => isReadable depth item && allReadable depth rest

/-- Whether every key denotes a text and `isReadable` holds of every value. -/
def membersReadable : (depth : Nat) → List (Key × Json) → Bool
  | _, [] => true
  | depth, (key, value) :: rest =>
      key.text.isSome && isReadable depth value && membersReadable depth rest

end

/-! ## Equality -/

mutual

/-- Whether two values are the same. -/
def same : Json → Json → Bool
  | .null, .null => true
  | .bool left, .bool right => left == right
  | .number left, .number right => left == right
  | .string left, .string right => left == right
  | .array left, .array right => sameItems left right
  | .object left, .object right => sameMembers left right
  | _, _ => false

def sameItems : List Json → List Json → Bool
  | [], [] => true
  | left :: lefts, right :: rights => same left right && sameItems lefts rights
  | _, _ => false

def sameMembers : List (Key × Json) → List (Key × Json) → Bool
  | [], [] => true
  | (key, left) :: lefts, (other, right) :: rights =>
      key == other && same left right && sameMembers lefts rights
  | _, _ => false

end

mutual

theorem same_iff : (left right : Json) → (same left right = true ↔ left = right)
  | .null, right => by cases right <;> simp [same]
  | .bool left, right => by cases right <;> simp [same]
  | .number left, right => by cases right <;> simp [same]
  | .string left, right => by cases right <;> simp [same]
  | .array left, right => by cases right <;> simp [same, sameItems_iff left]
  | .object left, right => by cases right <;> simp [same, sameMembers_iff left]

theorem sameItems_iff : (left right : List Json) → (sameItems left right = true ↔ left = right)
  | [], right => by cases right <;> simp [sameItems]
  | head :: rest, right => by
      cases right <;> simp [sameItems, same_iff head, sameItems_iff rest]

theorem sameMembers_iff :
    (left right : List (Key × Json)) → (sameMembers left right = true ↔ left = right)
  | [], right => by cases right <;> simp [sameMembers]
  | (key, value) :: rest, right => by
      rcases right with _ | ⟨⟨other, found⟩, others⟩ <;>
        simp [sameMembers, same_iff value, sameMembers_iff rest]

end

instance : DecidableEq Json :=
  fun left right => decidable_of_iff _ (same_iff left right)

end Json

end Rollup
