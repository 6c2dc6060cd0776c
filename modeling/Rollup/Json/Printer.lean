import Rollup.Json.Value

/-!
# Writing JSON

Values are written without blanks. In a string, the quote, the backslash and the
control characters are escaped, the common ones by a letter and the others by
four hexadecimal digits in lower case; every other character stands for itself.
-/

namespace Rollup

namespace Json

def hexDigit (value : Nat) : Char :=
  if value < 10 then Char.ofNat ('0'.toNat + value) else Char.ofNat ('a'.toNat + (value - 10))

/-- One character inside a written string. -/
def escapeChar (character : Char) : List Char :=
  if character = '"' then ['\\', '"']
  else if character = '\\' then ['\\', '\\']
  else if character = '\x08' then ['\\', 'b']
  else if character = '\x09' then ['\\', 't']
  else if character = '\x0a' then ['\\', 'n']
  else if character = '\x0c' then ['\\', 'f']
  else if character = '\x0d' then ['\\', 'r']
  else if character.toNat < 0x20 then
    ['\\', 'u', '0', '0', hexDigit (character.toNat / 16), hexDigit (character.toNat % 16)]
  else [character]

def quote (text : String) : String :=
  "\"" ++ String.ofList (text.toList.flatMap escapeChar) ++ "\""

def Number.write (number : Number) : String :=
  let sign := if number.negative then "-" else ""
  let fraction :=
    if number.fraction.isEmpty then ""
    else "." ++ String.join (number.fraction.map fun digit => toString digit)
  let exponent :=
    match number.exponent with
    | none => ""
    | some value => "e" ++ toString value
  sign ++ toString number.whole ++ fraction ++ exponent

mutual

/-- A value in its written form. A string without text is written as empty. -/
def write : Json → String
  | .null => "null"
  | .bool true => "true"
  | .bool false => "false"
  | .number value => value.write
  | .string text => quote (text.getD "")
  | .array items => "[" ++ writeItems items ++ "]"
  | .object members => "\x7b" ++ writeMembers members ++ "\x7d"

def writeItems : List Json → String
  | [] => ""
  | [item] => item.write
  | item :: next :: rest => item.write ++ "," ++ writeItems (next :: rest)

def writeMembers : List (Key × Json) → String
  | [] => ""
  | [(key, value)] => quote (key.text.getD "") ++ ":" ++ value.write
  | (key, value) :: next :: rest =>
      quote (key.text.getD "") ++ ":" ++ value.write ++ "," ++ writeMembers (next :: rest)

end

end Json

end Rollup
