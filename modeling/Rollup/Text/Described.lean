import Rollup.Text.Hidden

/-!
# Texts in descriptions

A description for developers shows a text between quotes. The quote, the
backslash and the four most common control characters are written with a
backslash, and every other hidden character as its code point in hexadecimal.
-/

namespace Rollup.Text

def describeChar (character : Char) : List Char :=
  if character = '"' then ['\\', '"']
  else if character = '\\' then ['\\', '\\']
  else if character = '\x00' then ['\\', '0']
  else if character = '\x09' then ['\\', 't']
  else if character = '\x0a' then ['\\', 'n']
  else if character = '\x0d' then ['\\', 'r']
  else if isHidden character then
    ['\\', 'u', '\x7b'] ++ Nat.toDigits 16 character.toNat ++ ['\x7d']
  else [character]

/-- A text as descriptions show it. -/
def describe (text : String) : String :=
  "\"" ++ String.ofList (text.toList.flatMap describeChar) ++ "\""

end Rollup.Text
