import Rollup.Composite
import Rollup.Json.Value

/-!
# Records and scalars on the wire

Domain values are written as JSON objects. A reader also takes an array that
holds the fields in declaration order, ignores fields that it does not know, and
refuses a known field that is given twice. Integers are plain digits, and nothing
is converted: neither `1.0` nor `"1"` is an integer, and null is no default.

A choice between names is written as a string. It may also be read from an object
that maps the name to null.
-/

namespace Rollup

namespace Wire

/-! ## Scalars -/

def bool? : Json → Option Bool
  | .bool value => some value
  | _ => none

def text? : Json → Option String
  | .string text => text
  | _ => none

/-- Read a natural number below a bound. -/
def natBelow? (bound : Nat) : Json → Option Nat
  | .number value => value.toNat?.filter (· < bound)
  | _ => none

def ofWord (word : UInt64) : Json :=
  .ofNat word.toNat

def word? (json : Json) : Option UInt64 :=
  (natBelow? (Nat.pow 2 64) json).map Nat.toUInt64

def ofPosition (position : Position) : Json :=
  .ofNat position.toNat

def position? (json : Json) : Option Position :=
  (natBelow? (Nat.pow 2 32) json).map Nat.toUInt32

def list? {α : Type} (item? : Json → Option α) : Json → Option (List α)
  | .array items => items.mapM item?
  | _ => none

/-- A key that is the decimal text of a natural number below a bound, written
without escapes. -/
def numeral? (bound : Nat) (key : Json.Key) : Option Nat :=
  if key.escaped then none
  else do
    let text ← key.text
    let value ← text.toNat?
    if toString value = text && value < bound then some value else none

/-! ## Names -/

/-- How a value comes to its reader. -/
inductive Reading where
  /-- Straight from the document. -/
  | direct
  /-- From a part of the document that was taken in before its kind was known. -/
  | buffered
  deriving DecidableEq, Repr

/-- Whether a value may stand for the absence of content behind a name. -/
def isUnit : Reading → Json → Bool
  | _, .null => true
  | .buffered, .object [] => true
  | _, _ => false

/-- The name that a choice is given by. -/
def name? (reading : Reading) : Json → Option String
  | .string text => text
  | .object [(key, value)] => if isUnit reading value then key.text else none
  | _ => none

def status? (reading : Reading) (json : Json) : Option Status :=
  (name? reading json).bind Status.ofName?

def ofStatus (status : Status) : Json :=
  .ofString status.name

def facet? (json : Json) : Option Facet :=
  (name? .direct json).bind Facet.ofName?

def ofFacet (facet : Facet) : Json :=
  .ofString facet.name

def discipline? (json : Json) : Option Discipline :=
  (name? .direct json).bind Discipline.ofName?

def ofDiscipline (discipline : Discipline) : Json :=
  .ofString discipline.name

/-! ## Records -/

/-- What a record says about one of its fields. -/
inductive Slot where
  /-- The value of the field. -/
  | given (value : Json)
  /-- An object without a member of that name. -/
  | unnamed
  /-- An array that ends before the field. -/
  | cutOff

namespace Slot

/-- A field that has to be there. -/
def required {α : Type} (read? : Json → Option α) : Slot → Option α
  | .given value => read? value
  | .unnamed | .cutOff => none

/-- A field that has a default. -/
def withDefault {α : Type} (default : α) (read? : Json → Option α) : Slot → Option α
  | .given value => read? value
  | .unnamed | .cutOff => some default

/-- A field that may be null. An object may leave it out, an array may not. -/
def nullable {α : Type} (read? : Json → Option α) : Slot → Option (Option α)
  | .given .null => some none
  | .given value => (read? value).map some
  | .unnamed => some none
  | .cutOff => none

end Slot

/-- What the members of an object say about a field; none if they say it more
than once. -/
def slotNamed? (members : List (Json.Key × Json)) (name : String) : Option Slot :=
  match members.filter fun (key, _) => key.text == some name with
  | [] => some .unnamed
  | [(_, value)] => some (.given value)
  | _ => none

/-- What an object says about each of the named fields. Every key has to denote a
text, also the key of a field that nobody asks for. -/
def memberSlots? (names : List String) (members : List (Json.Key × Json)) :
    Option (List Slot) :=
  if members.all fun (key, _) => key.text.isSome then
    names.mapM (slotNamed? members)
  else
    none

/-- What an array says about each of as many fields as there are names. -/
def itemSlots? (names : List String) (items : List Json) : Option (List Slot) :=
  if items.length ≤ names.length then
    some (items.map .given ++ List.replicate (names.length - items.length) .cutOff)
  else
    none

/-- What a record says about each of the named fields. -/
def slots? (names : List String) : Json → Option (List Slot)
  | .object members => memberSlots? names members
  | .array items => itemSlots? names items
  | _ => none

/-! ## Tagged records -/

/-- The levels of containers that a document may have where its parts are taken
in before their kind is known. -/
def depthLimit : Nat :=
  127

/-- A record whose kind is given by one of its members. -/
structure Tagged where
  /-- The kind. -/
  tag : String
  /-- The record without the member that gives the kind. -/
  content : Json

/-- Read a record whose kind is given by its member `type`, or by the first item
of an array. All that stands beside the kind is taken in before the kind is
looked at, so it has to be readable. -/
def tagged? : Json → Option Tagged
  | .object members => do
      let isTag := fun (member : Json.Key × Json) => member.1.text == some "type"
      let content := members.filter fun member => !isTag member
      match members.filter isTag with
      | [(_, .string (some tag))] =>
          if Json.membersReadable (depthLimit - 1) content then
            some ⟨tag, .object content⟩
          else
            none
      | _ => none
  | .array (.string (some tag) :: content) =>
      if Json.allReadable (depthLimit - 1) content then
        some ⟨tag, .array content⟩
      else
        none
  | _ => none

end Wire

end Rollup
