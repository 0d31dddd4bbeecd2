import CardListing.Decimal.Double

/-!
The shortest decimal that reads back. A binary floating point number stands for all reals
that round to it; of the decimals among these the one with the fewest digits is chosen, of
several such the nearest, and of two equally near the one with an even last digit. All
comparisons are between natural numbers.
-/

namespace CardListing

/-- The number `digits * 10 ^ exponent`. -/
structure Decimal where
  digits : Nat
  exponent : Int
deriving DecidableEq, Repr

/-- A positive floating point number `significand * 2 ^ exponent`. -/
structure BinaryNumber where
  significand : Nat
  exponent : Int
  /-- Whether the next smaller number is half as far away as the next larger one. -/
  closeBelow : Bool
deriving DecidableEq, Repr

namespace BinaryNumber

/-- The binary number of a magnitude; zero has none. -/
def ofMagnitude? (x : Double.Magnitude) : Option BinaryNumber :=
  let places := Double.places x.units
  if x.units = 0 then none
  else
    let significand := x.units >>> places
    some
      { significand
        exponent := (places : Int) - 1074
        closeBelow := significand = 0x10000000000000 && places ≠ 0 }

/-- The number and the ends of the interval that rounds to it, as numerators over one
denominator. The interval reaches half way to the neighbours. -/
structure Interval where
  low : Nat
  value : Nat
  high : Nat
  denominator : Nat
  /-- Whether the ends round to the number as well. -/
  closed : Bool

def interval (x : BinaryNumber) : Interval :=
  let places := (x.exponent - 2).toNat
  { low := (4 * x.significand - (if x.closeBelow then 1 else 2)) <<< places
    value := (4 * x.significand) <<< places
    high := (4 * x.significand + 2) <<< places
    denominator := 1 <<< (2 - x.exponent).toNat
    closed := x.significand % 2 = 0 }

/-- The interval measured in units of a power of ten. -/
def Interval.inUnits (i : Interval) (exponent : Int) : Interval :=
  let scale := Nat.pow 10 (-exponent).toNat
  { low := i.low * scale
    value := i.value * scale
    high := i.high * scale
    denominator := i.denominator * Nat.pow 10 exponent.toNat
    closed := i.closed }

/-- Whether a whole number of units lies in the interval. -/
def Interval.contains (i : Interval) (units : Nat) : Bool :=
  let n := units * i.denominator
  if i.closed then i.low ≤ n && n ≤ i.high else i.low < n && n < i.high

/-- The whole number of units in the interval that is nearest to its number, if there is
one. Only the two neighbours of the number need to be looked at. -/
def Interval.nearest? (i : Interval) : Option Nat :=
  let below := i.value / i.denominator
  let above := below + 1
  match i.contains below, i.contains above with
  | false, false => none
  | true, false => some below
  | false, true => some above
  | true, true =>
    let toBelow := i.value - below * i.denominator
    let toAbove := above * i.denominator - i.value
    if toBelow < toAbove then some below
    else if toAbove < toBelow then some above
    else if below % 2 = 0 then some below else some above

/-- The exponent of the first decimal digit of the number, from the digits of the number
itself or, below one, of its reciprocal. -/
def leadingExponent (x : BinaryNumber) : Int :=
  let i := x.interval
  if i.denominator ≤ i.value then
    (Nat.toDigits 10 (i.value / i.denominator)).length - 1
  else
    -(Nat.toDigits 10 ((i.denominator - 1) / i.value)).length

/-- A decimal without trailing zeros in its digits, for digits below a power of ten. -/
def stripZeros : Nat → Decimal → Decimal
  | 0, d => d
  | bound + 1, d =>
    if d.digits ≠ 0 ∧ d.digits % 10 = 0 then
      stripZeros bound ⟨d.digits / 10, d.exponent + 1⟩
    else d

/-- The shortest decimal that reads back as the number. Seventeen digits are enough for a
significand of 53 bits. -/
def shortest (x : BinaryNumber) : Decimal :=
  let leading := x.leadingExponent
  let found := (List.range 17).findSome? fun (more : Nat) =>
    let exponent := leading - (more : Int)
    (x.interval.inUnits exponent).nearest?.map fun digits => Decimal.mk digits exponent
  stripZeros 20 (found.getD ⟨x.significand, x.exponent⟩)

end BinaryNumber

end CardListing
