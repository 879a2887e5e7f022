import EscapeTime.Decimal

set_option autoImplicit false

namespace EscapeTime.Decimal

inductive Tie where
  | up
  | even
deriving DecidableEq

def Tie.takesLower (tie : Tie) (coefficient : Nat) : Bool :=
  tie = .even && coefficient % 2 = 0

def leadingPlace (ratio : Ratio) : Int :=
  let guess : Int := ((digits ratio.num).length : Int) - (digits ratio.den).length
  if (ratio.scale 10 (-guess)).isLarge then guess else guess - 1

def exact (format : Format) (pattern : Nat) : Decimal :=
  let significand := format.significand pattern
  let exponent := format.exponent pattern
  if 0 ≤ exponent then ⟨significand * Nat.pow 2 exponent.toNat, 0⟩
  else ⟨significand * Nat.pow 5 (-exponent).toNat, exponent⟩

def carried (coefficient places : Nat) (exponent : Int) : Decimal :=
  if coefficient + 1 = Nat.pow 10 places then ⟨1, exponent + places⟩
  else ⟨coefficient + 1, exponent⟩

/-- The decimal of so many digits that rounds to the pattern, if there is one. Only the two
decimals next to the exact value can be nearest. -/
def withPlaces? (format : Format) (tie : Tie) (pattern places : Nat) : Option Decimal :=
  let ratio := format.ratio pattern
  let exponent := leadingPlace ratio - places + 1
  let scaled := ratio.scale 10 (-exponent)
  let below : Decimal := ⟨scaled.num / scaled.den, exponent⟩
  let above := carried below.coefficient places exponent
  let twice := 2 * (scaled.num % scaled.den)
  let lower := twice < scaled.den ∨ twice = scaled.den ∧ tie.takesLower below.coefficient
  if below.nearest format = pattern ∧ (lower ∨ above.nearest format ≠ pattern) then some below
  else if above.nearest format = pattern then some above
  else none

-- Every number of the formats used here has a decimal of at most this many digits.
def mostPlaces : Nat := 17

def shortest (format : Format) (tie : Tie) (pattern : Nat) : Decimal :=
  ((List.range mostPlaces).findSome? fun places =>
    withPlaces? format tie pattern (places + 1)).getD (exact format pattern)

def positional (decimal : Decimal) : String :=
  let digits := digits decimal.coefficient
  if 0 ≤ decimal.exponent then
    String.ofList (digits ++ List.replicate decimal.exponent.toNat '0')
  else
    let places := (-decimal.exponent).toNat
    let padded := List.replicate (places + 1 - digits.length) '0' ++ digits
    let whole := padded.length - places
    String.ofList (padded.take whole ++ '.' :: padded.drop whole)

def pointed (decimal : Decimal) : String :=
  if 0 ≤ decimal.exponent then decimal.positional ++ ".0" else decimal.positional

def scientific (decimal : Decimal) : String :=
  let digits := digits decimal.coefficient
  let place := decimal.exponent + ((digits.length : Int) - 1)
  let mantissa :=
    match digits with
    | [] => []
    | [digit] => [digit]
    | digit :: more => digit :: '.' :: more
  String.ofList mantissa ++ "e" ++ (if place < 0 then "-" else "+") ++ toString place.natAbs

end EscapeTime.Decimal
