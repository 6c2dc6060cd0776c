import Rollup.Json.Number

/-!
# Stamps of a run

What a report says about a run beside its results, apart from the moments of its
beginning and its end: which run it was, and how long it took. The library passes
these values on and looks at their form only when it reads them.
-/

namespace Rollup

/-! ## Identifiers -/

/-- Whether a character is a hexadecimal digit in lower case. -/
def isLowerHex (character : Char) : Bool :=
  character.isDigit || ('a' ≤ character && character ≤ 'f')

/-- Whether the characters are 32 hexadecimal digits in lower case, grouped by
hyphens into 8, 4, 4, 4 and 12. -/
def isRunIdText (characters : List Char) : Bool :=
  characters.length == 36 && characters.zipIdx.all fun (character, index) =>
    if [8, 13, 18, 23].contains index then character == '-' else isLowerHex character

/-- Identifies one run. -/
structure RunId where
  text : String
  wellFormed : isRunIdText text.toList = true
  deriving DecidableEq, Repr

namespace RunId

def zero : RunId :=
  ⟨"00000000-0000-0000-0000-000000000000", by decide⟩

/-- Put hyphens into 32 digits. -/
def hyphenate (digits : List Char) : List Char :=
  digits.take 8 ++ '-' :: (digits.drop 8).take 4 ++ '-' :: (digits.drop 12).take 4
    ++ '-' :: (digits.drop 16).take 4 ++ '-' :: digits.drop 20

/-- What stands in braces, or behind a resource name in letters of either case. -/
def unwrap (characters : List Char) : List Char :=
  match characters with
  | '\x7b' :: rest => if rest.getLast? = some '\x7d' then rest.dropLast else characters
  | _ =>
      if (characters.take 9).map Char.toLower = "urn:uuid:".toList then characters.drop 9
      else characters

/-- The regular spelling of an identifier that may have digits in upper case, and
that either has no hyphens or may stand in braces or behind a resource name. -/
def regularize (characters : List Char) : List Char :=
  let grouped := if characters.length = 32 then hyphenate characters else unwrap characters
  grouped.map Char.toLower

def ofText? (text : String) : Option RunId :=
  if wellFormed : isRunIdText text.toList = true then
    some ⟨text, wellFormed⟩
  else
    let regular := String.ofList (regularize text.toList)
    if wellFormed : isRunIdText regular.toList = true then some ⟨regular, wellFormed⟩ else none

@[simp] theorem ofText?_text (id : RunId) : ofText? id.text = some id := by
  simp [ofText?, id.wellFormed]

end RunId

/-! ## Durations -/

/-- A span of time in milliseconds. It is a measured quantity, so it has a sign
and a magnitude in double precision. -/
structure Duration where
  negative : Bool
  magnitude : Double
  deriving DecidableEq, Repr

namespace Duration

def zero : Duration :=
  ⟨false, .zero⟩

/-- Read a duration; any finite number will do. -/
def ofNumber? (number : Json.Number) : Option Duration :=
  number.magnitude?.map fun magnitude => ⟨number.negative, magnitude⟩

/-- Write a duration with the fewest digits that round to it. -/
def toNumber (duration : Duration) : Json.Number :=
  .ofDouble duration.negative duration.magnitude

end Duration

end Rollup
