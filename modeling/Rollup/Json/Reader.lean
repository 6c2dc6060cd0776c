import Rollup.Json.Value

/-!
# Reading JSON

The reader takes octets, because a string may hold octets that are not UTF-8
without being written wrongly. It is strict: no comments, no comma behind the
last item, nothing but blanks behind the value. Each step of the mutual recursion
takes one unit of fuel, and a value of `n` octets needs no more than `2 * n + 2`.
-/

namespace Rollup

namespace Json

def octet (character : Char) : UInt8 :=
  character.toNat.toUInt8

/-- Blanks between tokens: space, tab, line feed and carriage return. -/
def isBlank (byte : UInt8) : Bool :=
  byte == 0x20 || byte == 0x09 || byte == 0x0a || byte == 0x0d

def skipBlanks (bytes : List UInt8) : List UInt8 :=
  bytes.dropWhile isBlank

def digitValue? (byte : UInt8) : Option Nat :=
  if octet '0' ≤ byte && byte ≤ octet '9' then some (byte - octet '0').toNat else none

def hexValue? (byte : UInt8) : Option Nat :=
  if octet '0' ≤ byte && byte ≤ octet '9' then some (byte - octet '0').toNat
  else if octet 'a' ≤ byte && byte ≤ octet 'f' then some ((byte - octet 'a').toNat + 10)
  else if octet 'A' ≤ byte && byte ≤ octet 'F' then some ((byte - octet 'A').toNat + 10)
  else none

/-! ## Strings -/

/-- A part of a written string: an octet that stands for itself, or the UTF-16
unit of an escape. -/
inductive Piece where
  | plain (byte : UInt8)
  | escape (unit : Nat)
  deriving DecidableEq, Repr

def Piece.isEscape : Piece → Bool
  | .plain _ => false
  | .escape _ => true

/-- The unit of a one-letter escape. -/
def letterEscape? (byte : UInt8) : Option Nat :=
  if byte = octet '"' then some 0x22
  else if byte = octet '\\' then some 0x5c
  else if byte = octet '/' then some 0x2f
  else if byte = octet 'b' then some 0x08
  else if byte = octet 'f' then some 0x0c
  else if byte = octet 'n' then some 0x0a
  else if byte = octet 'r' then some 0x0d
  else if byte = octet 't' then some 0x09
  else none

/-- The parts of a string, up to and without its closing quote. Control
characters have to be escaped. -/
def readPieces : List UInt8 → Option (List Piece × List UInt8)
  | [] => none
  | byte :: rest =>
      if byte = octet '"' then
        some ([], rest)
      else if byte = octet '\\' then
        match rest with
        | [] => none
        | letter :: rest =>
            if letter = octet 'u' then
              match rest with
              | first :: second :: third :: fourth :: rest => do
                  let first ← hexValue? first
                  let second ← hexValue? second
                  let third ← hexValue? third
                  let fourth ← hexValue? fourth
                  let (pieces, rest) ← readPieces rest
                  some (.escape (((first * 16 + second) * 16 + third) * 16 + fourth) :: pieces,
                    rest)
              | _ => none
            else do
              let unit ← letterEscape? letter
              let (pieces, rest) ← readPieces rest
              some (.escape unit :: pieces, rest)
      else if byte < 0x20 then
        none
      else do
        let (pieces, rest) ← readPieces rest
        some (.plain byte :: pieces, rest)

/-- Whether a UTF-16 unit opens a surrogate pair. -/
def isHighSurrogate (unit : Nat) : Bool :=
  0xd800 ≤ unit && unit < 0xdc00

/-- Whether a UTF-16 unit closes a surrogate pair. -/
def isLowSurrogate (unit : Nat) : Bool :=
  0xdc00 ≤ unit && unit < 0xe000

/-- The octets that the parts denote, unless a surrogate stands alone. -/
def octetsOf : List Piece → Option (List UInt8)
  | [] => some []
  | .plain byte :: rest => (octetsOf rest).map (byte :: ·)
  | .escape unit :: rest =>
      if isHighSurrogate unit then
        match rest with
        | .escape low :: rest =>
            if isLowSurrogate low then
              let scalar := 0x10000 + (unit - 0xd800) * 0x400 + (low - 0xdc00)
              (octetsOf rest).map (String.utf8EncodeChar (Char.ofNat scalar) ++ ·)
            else
              none
        | _ => none
      else if isLowSurrogate unit then
        none
      else
        (octetsOf rest).map (String.utf8EncodeChar (Char.ofNat unit) ++ ·)

/-- The text that the parts denote, if they denote one. -/
def textOf (pieces : List Piece) : Option String :=
  (octetsOf pieces).bind fun bytes => String.fromUTF8? ⟨bytes.toArray⟩

/-! ## Numbers -/

/-- As many digits as there are. -/
def readDigits : List UInt8 → List Nat × List UInt8
  | [] => ([], [])
  | byte :: rest =>
      match digitValue? byte with
      | some digit =>
          let (digits, rest) := readDigits rest
          (digit :: digits, rest)
      | none => ([], byte :: rest)

def readDigits1 (bytes : List UInt8) : Option (List Nat × List UInt8) :=
  match readDigits bytes with
  | ([], _) => none
  | (digits, rest) => some (digits, rest)

/-- The digits before the point, without a zero in front of another digit. -/
def readWhole (bytes : List UInt8) : Option (Nat × List UInt8) := do
  let (digits, rest) ← readDigits1 bytes
  match digits with
  | 0 :: _ :: _ => none
  | _ => some (Number.ofDigits digits, rest)

/-- The point and the digits behind it, if there are any. -/
def readFraction : List UInt8 → Option (List Nat × List UInt8)
  | [] => some ([], [])
  | byte :: rest => if byte = octet '.' then readDigits1 rest else some ([], byte :: rest)

def readExponent : List UInt8 → Option (Option Int × List UInt8)
  | [] => some (none, [])
  | byte :: rest =>
      if byte = octet 'e' || byte = octet 'E' then
        match rest with
        | [] => none
        | sign :: tail =>
            if sign = octet '-' then do
              let (digits, rest) ← readDigits1 tail
              some (some (-(Number.ofDigits digits : Int)), rest)
            else do
              let (digits, rest) ← readDigits1 (if sign = octet '+' then tail else sign :: tail)
              some (some (Number.ofDigits digits : Int), rest)
      else
        some (none, byte :: rest)

/-- A number without its sign. -/
def readMagnitude (negative : Bool) (bytes : List UInt8) : Option (Json × List UInt8) := do
  let (whole, bytes) ← readWhole bytes
  let (fraction, bytes) ← readFraction bytes
  let (exponent, bytes) ← readExponent bytes
  some (.number ⟨negative, whole, fraction, exponent⟩, bytes)

/-! ## Values -/

/-- Leave out the given octets at the front. -/
def expect (word : List Char) (bytes : List UInt8) : Option (List UInt8) :=
  match word with
  | [] => some bytes
  | character :: word =>
      match bytes with
      | [] => none
      | byte :: bytes => if byte = octet character then expect word bytes else none

/-- The key of a member, from behind its opening quote. -/
def readKey (bytes : List UInt8) : Option (Key × List UInt8) := do
  let (pieces, rest) ← readPieces bytes
  some (⟨textOf pieces, pieces.any Piece.isEscape⟩, rest)

mutual

/-- A value and what follows it. -/
def readValue : (fuel : Nat) → List UInt8 → Option (Json × List UInt8)
  | 0, _ => none
  | fuel + 1, bytes =>
      match skipBlanks bytes with
      | [] => none
      | byte :: rest =>
          if byte = octet '"' then do
            let (pieces, rest) ← readPieces rest
            some (.string (textOf pieces), rest)
          else if byte = octet '[' then
            match skipBlanks rest with
            | [] => none
            | next :: tail =>
                if next = octet ']' then some (.array [], tail)
                else do
                  let (items, rest) ← readItems fuel (next :: tail)
                  some (.array items, rest)
          else if byte = octet '\x7b' then
            match skipBlanks rest with
            | [] => none
            | next :: tail =>
                if next = octet '\x7d' then some (.object [], tail)
                else do
                  let (members, rest) ← readMembers fuel (next :: tail)
                  some (.object members, rest)
          else if byte = octet '-' then readMagnitude true rest
          else if byte = octet 't' then do
            some (.bool true, ← expect ['r', 'u', 'e'] rest)
          else if byte = octet 'f' then do
            some (.bool false, ← expect ['a', 'l', 's', 'e'] rest)
          else if byte = octet 'n' then do
            some (.null, ← expect ['u', 'l', 'l'] rest)
          else readMagnitude false (byte :: rest)

/-- The items of an array up to its closing bracket; there is at least one. -/
def readItems : (fuel : Nat) → List UInt8 → Option (List Json × List UInt8)
  | 0, _ => none
  | fuel + 1, bytes => do
      let (item, rest) ← readValue fuel bytes
      match skipBlanks rest with
      | [] => none
      | byte :: rest =>
          if byte = octet ',' then do
            let (items, rest) ← readItems fuel rest
            some (item :: items, rest)
          else if byte = octet ']' then some ([item], rest)
          else none

/-- The members of an object up to its closing brace; there is at least one. -/
def readMembers : (fuel : Nat) → List UInt8 → Option (List (Key × Json) × List UInt8)
  | 0, _ => none
  | fuel + 1, bytes =>
      match skipBlanks bytes with
      | [] => none
      | byte :: rest =>
          if byte = octet '"' then do
            let (key, rest) ← readKey rest
            let rest ← expect [':'] (skipBlanks rest)
            let (value, rest) ← readValue fuel rest
            match skipBlanks rest with
            | [] => none
            | byte :: rest =>
                if byte = octet ',' then do
                  let (members, rest) ← readMembers fuel rest
                  some ((key, value) :: members, rest)
                else if byte = octet '\x7d' then some ([(key, value)], rest)
                else none
          else
            none

end

/-- The value written in the octets, with nothing but blanks around it. -/
def ofOctets? (bytes : List UInt8) : Option Json := do
  let (value, rest) ← readValue (2 * bytes.length + 2) bytes
  if (skipBlanks rest).isEmpty then some value else none

def ofText? (text : String) : Option Json :=
  ofOctets? text.toUTF8.toList

end Json

end Rollup
