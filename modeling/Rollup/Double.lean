/-!
# Magnitudes in double precision

The finite magnitudes of double precision are multiples of 2^-1074 with at most
53 significant bits. A quotient of natural numbers is rounded to the nearest of
them; of two that are equally near, the one with the even rank is taken. All
arithmetic is exact before that one rounding.
-/

namespace Rollup

/-- A finite magnitude in double precision, by its rank in ascending order: zero
has rank 0, and each power of two is followed by 2^52 - 1 magnitudes before the
next one. -/
structure Double where
  rank : Nat
  finite : rank < 2047 * Nat.pow 2 52
  deriving DecidableEq, Repr

namespace Double

def zero : Double :=
  ⟨0, by decide⟩

/-- The magnitude as a multiple of 2^-1074. -/
def units (magnitude : Double) : Nat :=
  let shift := magnitude.rank / Nat.pow 2 52 - 1
  (magnitude.rank - shift * Nat.pow 2 52) * Nat.pow 2 shift

/-- The magnitude one, in the same multiples. -/
def unitsOfOne : Nat :=
  Nat.pow 2 1074

/-- Divide and round to the nearest natural number, and to the even one if two
are equally near. -/
def roundedQuotient (numerator denominator : Nat) : Nat :=
  let below := numerator / denominator
  let rest := numerator % denominator
  if denominator < 2 * rest || (2 * rest == denominator && below % 2 == 1) then below + 1
  else below

/-- The rank of the magnitude that is nearest to a quotient. The last bit kept is
worth `2 ^ shift` units, and rounding up to a power of two carries into the next
group of ranks. -/
def nearestRank (numerator denominator : Nat) : Nat :=
  let shift := (numerator * unitsOfOne / denominator).log2 - 52
  shift * Nat.pow 2 52 +
    roundedQuotient (numerator * unitsOfOne) (denominator * Nat.pow 2 shift)

/-- The magnitude that is nearest to a quotient, unless that is infinite. -/
def ofQuotient? (numerator denominator : Nat) : Option Double :=
  if finite : nearestRank numerator denominator < 2047 * Nat.pow 2 52 then
    some ⟨nearestRank numerator denominator, finite⟩
  else
    none

def mul? (left right : Double) : Option Double :=
  ofQuotient? (left.units * right.units) (unitsOfOne * unitsOfOne)

def div? (left right : Double) : Option Double :=
  ofQuotient? left.units right.units

/-- The magnitude that is nearest to a natural number times a power of ten. -/
def ofDecimal? (significand : Nat) (scale : Int) : Option Double :=
  ofQuotient? (significand * Nat.pow 10 scale.toNat) (Nat.pow 10 (-scale).toNat)

/-! ## Multiplication with powers of ten in steps -/

/-- The last exponent whose power of ten is finite. -/
def largestPower : Nat :=
  308

/-- Divide by the largest power of ten, step by step, until nothing is left. -/
def descend? : (steps : Nat) → Double → Option Double
  | 0, magnitude => some magnitude
  | steps + 1, magnitude =>
      if magnitude = zero then some zero
      else do
        let divisor ← ofDecimal? 1 largestPower
        descend? steps (← magnitude.div? divisor)

/-- Multiply with a power of ten, or divide by one. Each step is rounded by
itself; there is more than one step only where the power itself is not finite. -/
def scale? (magnitude : Double) (exponent : Int) : Option Double :=
  if magnitude = zero then
    some zero
  else if exponent < 0 then do
    let places := (-exponent).toNat
    let steps := (places - 1) / largestPower
    let reduced ← magnitude.descend? steps
    let divisor ← ofDecimal? 1 (places - largestPower * steps : Nat)
    reduced.div? divisor
  else if exponent ≤ largestPower then do
    let factor ← ofDecimal? 1 exponent
    magnitude.mul? factor
  else
    none

/-! ## Shortest decimals -/

def digitCount (value : Nat) : Nat :=
  (Nat.toDigits 10 value).length

/-- How many digits stand before the point; a negative number counts the zeros
behind it. -/
def order (magnitude : Double) : Int :=
  if unitsOfOne ≤ magnitude.units then
    digitCount (magnitude.units / unitsOfOne)
  else
    1 - digitCount (unitsOfOne / magnitude.units)

/-- The multiple of a power of ten that is nearest to the magnitude, of the two
around it that round to the magnitude, if one does. -/
def decimalAt? (magnitude : Double) (scale : Int) : Option Nat :=
  let numerator := magnitude.units * Nat.pow 10 (-scale).toNat
  let denominator := unitsOfOne * Nat.pow 10 scale.toNat
  let below := numerator / denominator
  let nearer := roundedQuotient numerator denominator
  let farther := if nearer = below then below + 1 else below
  [nearer, farther].find? fun candidate => ofDecimal? candidate scale == some magnitude

/-- The decimal with the fewest digits that rounds to the magnitude, as a natural
number and a power of ten. No magnitude needs more than 17 digits. -/
def shortestDecimal (magnitude : Double) : Nat × Int :=
  let found := (List.range 17).findSome? fun (further : Nat) =>
    let scale := magnitude.order - further - 1
    (magnitude.decimalAt? scale).map fun significand => (significand, scale)
  found.getD (0, 0)

end Double

end Rollup
