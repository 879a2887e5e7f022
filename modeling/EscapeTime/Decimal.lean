import EscapeTime.Binary

set_option autoImplicit false

namespace EscapeTime

structure Decimal where
  coefficient : Nat
  exponent : Int
deriving DecidableEq

namespace Decimal

def digitValue (digit : Char) : Nat :=
  digit.toNat - '0'.toNat

def ofDigits (digits : List Char) : Nat :=
  digits.foldl (fun value digit => 10 * value + digitValue digit) 0

def digits (n : Nat) : List Char :=
  Nat.toDigits 10 n

def ratio (decimal : Decimal) : Ratio :=
  Ratio.scale 10 ⟨decimal.coefficient, 1⟩ decimal.exponent

-- Magnitudes of `10 ^ reach` and more, and those below `10 ^ (-reach)`, are beyond every format used here.
def reach : Int := 400

def nearest (format : Format) (decimal : Decimal) : Nat :=
  let point : Int := (digits decimal.coefficient).length + decimal.exponent
  if decimal.coefficient = 0 then 0
  else if reach < point then format.infinity
  else if point < -reach then 0
  else format.nearest decimal.ratio

def splitSign : List Char → Bool × List Char
  | '-' :: tail => (true, tail)
  | '+' :: tail => (false, tail)
  | text => (false, text)

def readExponent? : List Char → Option Int
  | [] => some 0
  | mark :: tail =>
      if mark = 'e' ∨ mark = 'E' then
        let (negative, digits) := splitSign tail
        if digits ≠ [] ∧ digits.all Char.isDigit then
          some (if negative then -(ofDigits digits : Int) else ofDigits digits)
        else none
      else none

def ofChars? (text : List Char) : Option Decimal :=
  let whole := text.takeWhile Char.isDigit
  let (fraction, tail) :=
    match text.dropWhile Char.isDigit with
    | '.' :: tail => (tail.takeWhile Char.isDigit, tail.dropWhile Char.isDigit)
    | tail => ([], tail)
  if whole = [] ∧ fraction = [] then none
  else
    (readExponent? tail).map fun exponent =>
      ⟨ofDigits (whole ++ fraction), exponent - fraction.length⟩

def readFloat? (text : String) : Option Float :=
  let (negative, body) := splitSign text.toList
  match String.ofList (body.map Char.toLower) with
  | "inf" | "infinity" => some (Binary.ofMagnitude64 negative Format.binary64.infinity)
  | "nan" => some (Binary.ofMagnitude64 false Format.binary64.nan)
  | _ => (ofChars? body).map fun decimal =>
      Binary.ofMagnitude64 negative (decimal.nearest .binary64)

end Decimal

end EscapeTime
