import CardListing.Decimal.Shortest
import CardListing.Numeral

/-!
Writing floating point numbers. Numbers of moderate size are written positionally and
others with an exponent; the digits are those of the shortest decimal that reads back.
-/

namespace CardListing

structure DecimalLayout where
  /-- The least exponent of the leading digit that is written positionally. -/
  leastPositional : Int
  /-- The greatest exponent of the leading digit that is written positionally. -/
  greatestPositional : Int
  /-- Whether a whole number is written with a zero after the point. -/
  pointZero : Bool
  /-- Whether a positive exponent is written with its sign. -/
  signedExponent : Bool
deriving DecidableEq, Repr

namespace DecimalLayout

/-- A decimal written positionally. -/
def positional (layout : DecimalLayout) (d : Decimal) : Text :=
  let digits := decimalDigits d.digits
  if 0 ≤ d.exponent then
    digits ++ List.replicate d.exponent.toNat '0'
      ++ (if layout.pointZero then ['.', '0'] else [])
  else
    let places := (-d.exponent).toNat
    let padded := digits.leftpad (places + 1) '0'
    padded.take (padded.length - places) ++ '.' :: padded.drop (padded.length - places)

/-- A decimal written with an exponent. -/
def scientific (layout : DecimalLayout) (d : Decimal) : Text :=
  let digits := decimalDigits d.digits
  let exponent := d.exponent + (digits.length - 1 : Nat)
  let mantissa :=
    match digits with
    | [] => []
    | [c] => [c]
    | c :: rest => c :: '.' :: rest
  let sign := if exponent < 0 then ['-'] else if layout.signedExponent then ['+'] else []
  mantissa ++ 'e' :: sign ++ decimalDigits exponent.natAbs

def write (layout : DecimalLayout) (d : Decimal) : Text :=
  let leading := d.exponent + ((decimalDigits d.digits).length - 1 : Nat)
  if layout.leastPositional ≤ leading ∧ leading ≤ layout.greatestPositional then
    layout.positional d
  else
    layout.scientific d

/-- A floating point number. Zero keeps its sign. -/
def writeDouble (layout : DecimalLayout) (x : Double) : Text :=
  let sign := if x.negative then ['-'] else []
  match BinaryNumber.ofMagnitude? x.magnitude with
  | some number => sign ++ layout.write number.shortest
  | none => sign ++ layout.positional ⟨0, 0⟩

end DecimalLayout

end CardListing
