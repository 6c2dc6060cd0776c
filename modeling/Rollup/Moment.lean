import Rollup.Calendar
import Rollup.Text.Blank

/-!
# Moments

A moment is read from a date, a time of day and an offset from universal time,
and written in universal time. Reading is lenient about blanks, missing leading
zeros and further digits of the second; each moment has one regular spelling.
-/

namespace Rollup

/-! ## Clock readings -/

/-- A day and a time of day. Second 60 is a leap second. -/
structure Clock where
  date : Date
  hour : Nat
  minute : Nat
  second : Nat
  nanosecond : Nat
  deriving DecidableEq, Repr

namespace Clock

/-- Whether there is such a day and such a time of day. -/
def isValid (clock : Clock) : Bool :=
  clock.date.isValid && clock.hour < 24 && clock.minute < 60 && clock.second ≤ 60

/-- What a clock in universal time shows when this one, which is ahead of it by an
offset of less than a day, has its reading. -/
def toUniversal (clock : Clock) (offsetMinutes : Int) : Clock :=
  let minutes := (clock.hour * 60 + clock.minute : Nat) - offsetMinutes
  let date :=
    if minutes < 0 then clock.date.previous
    else if 1440 ≤ minutes then clock.date.next
    else clock.date
  let minuteOfDay := (minutes % 1440).toNat
  { clock with date, hour := minuteOfDay / 60, minute := minuteOfDay % 60 }

end Clock

namespace Moment

/-! ## Reading -/

/-- The natural number with the given decimal digits. -/
def valueOf (digits : List Char) : Nat :=
  digits.foldl (fun value digit => 10 * value + (digit.toNat - '0'.toNat)) 0

/-- The characters without the blanks at the front. -/
def skipBlanks (characters : List Char) : List Char :=
  characters.dropWhile Text.isBlank

/-- Read a number of at least one digit; no digit behind the first `limit` ones
belongs to it. -/
def readNumber? (limit : Nat) (characters : List Char) : Option (Nat × List Char) :=
  let digits := (characters.take limit).takeWhile Char.isDigit
  if digits.isEmpty then none else some (valueOf digits, characters.drop digits.length)

/-- Read a number of one or two digits, behind any blanks. -/
def readShort? (characters : List Char) : Option (Nat × List Char) :=
  readNumber? 2 (skipBlanks characters)

/-- Read a number of exactly two digits. -/
def readPair? (characters : List Char) : Option (Nat × List Char) :=
  if ((characters.take 2).filter Char.isDigit).length = 2 then readNumber? 2 characters else none

/-- Leave out one of the given characters at the front. -/
def skipOne? (allowed : List Char) : List Char → Option (List Char)
  | character :: rest => if allowed.contains character then some rest else none
  | [] => none

/-- Read a year, behind any blanks. It has up to four digits, or a sign and any
number of digits. -/
def readYear? (characters : List Char) : Option (Int × List Char) :=
  match skipBlanks characters with
  | '-' :: rest => (readNumber? rest.length rest).map fun (year, rest) => (-(year : Int), rest)
  | '+' :: rest => (readNumber? rest.length rest).map fun (year, rest) => ((year : Int), rest)
  | unsigned => (readNumber? 4 unsigned).map fun (year, rest) => ((year : Int), rest)

/-- Read a date; blanks may stand before each of its parts. -/
def readDate? (characters : List Char) : Option (Date × List Char) := do
  let (year, rest) ← readYear? characters
  let (month, rest) ← readShort? (← skipOne? ['-'] (skipBlanks rest))
  let (day, rest) ← readShort? (← skipOne? ['-'] (skipBlanks rest))
  some (⟨year, month, day⟩, rest)

/-- Read the part of a second behind its point, if there is one, in nanoseconds.
Digits behind the ninth have no effect. -/
def readNanosecond? : List Char → Option (Nat × List Char)
  | '.' :: rest =>
      let digits := rest.takeWhile Char.isDigit
      let shown := digits.take 9
      if digits.isEmpty then none
      else some (valueOf shown * Nat.pow 10 (9 - shown.length), rest.drop digits.length)
  | rest => some (0, rest)

/-- Read the rest of a clock reading, behind its date. -/
def readClock? (date : Date) (characters : List Char) : Option (Clock × List Char) := do
  let (hour, rest) ← readShort? characters
  let (minute, rest) ← readShort? (← skipOne? [':'] (skipBlanks rest))
  let (second, rest) ← readShort? (← skipOne? [':'] (skipBlanks rest))
  let (nanosecond, rest) ← readNanosecond? rest
  some (⟨date, hour, minute, second, nanosecond⟩, rest)

/-- Read how many minutes a clock is ahead of universal time. Colons and blanks
may stand between the hours and the minutes. -/
def readOffset? (characters : List Char) : Option (Int × List Char) := do
  if (characters.take 3).map Char.toUpper = ['U', 'T', 'C'] then
    some (0, characters.drop 3)
  else if let some rest := skipOne? ['Z', 'z'] characters then
    some (0, rest)
  else
    let (hours, rest) ← readPair? (← skipOne? ['+', '-', '\u2212'] characters)
    let (minutes, rest) ← readPair? (rest.dropWhile fun character =>
      character = ':' || Text.isBlank character)
    let offset : Int := hours * 60 + minutes
    if hours < 24 && minutes < 60 then
      some (if characters.head? = some '+' then offset else -offset, rest)
    else
      none

/-- Read a moment as a clock in universal time shows it. Both that reading and the
one that is written have to be valid. -/
def read? (characters : List Char) : Option Clock := do
  let (date, rest) ← readDate? characters
  let (clock, rest) ← readClock? date (← skipOne? ['T', 't', ' '] rest)
  let (offset, rest) ← readOffset? (skipBlanks rest)
  let universal := clock.toUniversal offset
  if clock.isValid && universal.isValid && rest.all Text.isBlank then some universal else none

/-! ## Writing -/

/-- A natural number with at least `width` digits. -/
def padded (width value : Nat) : List Char :=
  (Nat.toDigits 10 value).leftpad width '0'

/-- A year with four digits; outside of these, it has a sign. -/
def writeYear (year : Int) : List Char :=
  if year < 0 then '-' :: padded 4 year.natAbs
  else if year ≤ 9999 then padded 4 year.natAbs
  else '+' :: padded 4 year.natAbs

/-- A part of a second, to the thousandth, the millionth or the billionth. -/
def writeNanosecond (nanosecond : Nat) : List Char :=
  if nanosecond = 0 then []
  else if nanosecond % 1000000 = 0 then '.' :: padded 3 (nanosecond / 1000000)
  else if nanosecond % 1000 = 0 then '.' :: padded 6 (nanosecond / 1000)
  else '.' :: padded 9 nanosecond

/-- The regular spelling of what a clock in universal time shows. -/
def write (clock : Clock) : List Char :=
  writeYear clock.date.year ++ '-' :: padded 2 clock.date.month ++ '-' :: padded 2 clock.date.day
    ++ 'T' :: padded 2 clock.hour ++ ':' :: padded 2 clock.minute ++ ':' :: padded 2 clock.second
    ++ writeNanosecond clock.nanosecond ++ ['Z']

/-- The regular spelling of the moment that the characters denote. -/
def regularize? (characters : List Char) : Option (List Char) :=
  (read? characters).map write

end Moment

/-- A moment in its regular spelling. -/
structure Moment where
  text : String
  regular : Moment.regularize? text.toList = some text.toList
  deriving DecidableEq, Repr

namespace Moment

/-- The moment from which computers count time. -/
def epoch : Moment :=
  ⟨"1970-01-01T00:00:00Z", by decide +kernel⟩

/-- The moment with the given spelling, if it is the regular one. -/
def ofRegular? (text : String) : Option Moment :=
  if regular : regularize? text.toList = some text.toList then some ⟨text, regular⟩ else none

/-- Read a moment in any spelling. -/
def ofText? (text : String) : Option Moment :=
  (regularize? text.toList).bind fun spelling => ofRegular? (String.ofList spelling)

@[simp] theorem ofText?_text (moment : Moment) : ofText? moment.text = some moment := by
  simp [ofText?, ofRegular?, moment.regular]

end Moment

end Rollup
