import Rollup.Double

/-!
# Numbers in JSON

A number keeps its digits, since `1` is an integer where `1.0` and `-0` are not.
Where its value is asked for, it is read in double precision by a fixed number of
roundings: a significand below 2^64 is rounded, and then multiplied with a power
of ten or divided by one.
-/

namespace Rollup

structure Json.Number where
  negative : Bool
  /-- The digits before the point. -/
  whole : Nat
  /-- The digits behind the point; none if there is no point. -/
  fraction : List Nat
  /-- The exponent, if one is written. -/
  exponent : Option Int
  deriving DecidableEq, Repr

namespace Json.Number

/-! ## Natural numbers -/

/-- A natural number, written in plain digits. -/
def ofNat (value : Nat) : Number :=
  ⟨false, value, [], none⟩

/-- The natural number that is written, if it is written in plain digits. -/
def toNat? (number : Number) : Option Nat :=
  if number.negative || !number.fraction.isEmpty || number.exponent.isSome then
    none
  else
    some number.whole

@[simp] theorem toNat?_ofNat (value : Nat) : (ofNat value).toNat? = some value := rfl

def digits (value : Nat) : List Nat :=
  (Nat.toDigits 10 value).map fun digit => digit.toNat - '0'.toNat

/-- The natural number with the given digits. -/
def ofDigits (digits : List Nat) : Nat :=
  digits.foldl (fun value digit => 10 * value + digit) 0

/-! ## Reading in double precision -/

/-- Take digits into a significand for as long as it stays below 2^64. The digits
that are left over come second. -/
def takeDigits (significand : Nat) : List Nat → Nat × List Nat
  | [] => (significand, [])
  | digit :: rest =>
      if 10 * significand + digit < Nat.pow 2 64 then takeDigits (10 * significand + digit) rest
      else (significand, digit :: rest)

/-- The number as a significand below 2^64 and a power of ten. A digit before the
point that does not fit only raises the power, and so does each one behind it up
to the point; the digits behind the point are taken up to the first that does not
fit. -/
def significandAndScale (number : Number) : Nat × Int :=
  let (significand, dropped) := takeDigits 0 (digits number.whole)
  let (significand, ignored) := takeDigits significand number.fraction
  let taken := number.fraction.length - ignored.length
  (significand, number.exponent.getD 0 + dropped.length - taken)

/-- The magnitude of the number, unless it is too large. -/
def magnitude? (number : Number) : Option Double := do
  let (significand, scale) := number.significandAndScale
  (← Double.ofDecimal? significand 0).scale? scale

/-- Whether the number has a finite value in double precision. -/
def isFinite (number : Number) : Bool :=
  number.magnitude?.isSome

/-! ## Writing in double precision -/

/-- The digits without the zeros at their end. -/
def trimZeros (digits : List Nat) : List Nat :=
  (digits.reverse.dropWhile (· == 0)).reverse

/-- A magnitude with the fewest digits that round to it. There is at least one
digit on either side of the point while the point is near the digits, and an
exponent otherwise. -/
def ofDouble (negative : Bool) (magnitude : Double) : Number :=
  let (significand, scale) := magnitude.shortestDecimal
  let written := digits significand
  let shown := trimZeros written
  let order := scale + written.length
  if shown.isEmpty then
    ⟨negative, 0, [0], none⟩
  else if shown.length ≤ order && order ≤ 16 then
    ⟨negative, ofDigits shown * Nat.pow 10 (order.toNat - shown.length), [0], none⟩
  else if 0 < order && order ≤ 16 then
    ⟨negative, ofDigits (shown.take order.toNat), shown.drop order.toNat, none⟩
  else if -5 < order && order ≤ 0 then
    ⟨negative, 0, List.replicate (-order).toNat 0 ++ shown, none⟩
  else
    ⟨negative, ofDigits (shown.take 1), shown.drop 1, some (order - 1)⟩

end Json.Number

end Rollup
