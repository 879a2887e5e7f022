import EscapeTime.Datum
import EscapeTime.Toml.Dates

set_option autoImplicit false

namespace EscapeTime.Toml

def ungroup (isDigit : Char → Bool) : List Char → Option (List Char)
  | [] => none
  | [digit] => if isDigit digit then some [digit] else none
  | digit :: '_' :: tail =>
      if isDigit digit then (ungroup isDigit tail).map (digit :: ·) else none
  | digit :: tail => if isDigit digit then (ungroup isDigit tail).map (digit :: ·) else none

def decimalDigits? (text : List Char) : Option (List Char) :=
  (ungroup Char.isDigit text).bind fun digits =>
    match digits with
    | '0' :: _ :: _ => none
    | digits => some digits

def hexDigit? (c : Char) : Option Nat :=
  if c.isDigit then some (c.toNat - '0'.toNat)
  else if 'a' ≤ c ∧ c ≤ 'f' then some (c.toNat - 'a'.toNat + 10)
  else if 'A' ≤ c ∧ c ≤ 'F' then some (c.toNat - 'A'.toNat + 10)
  else none

def isDigitOf (base : Nat) (c : Char) : Bool :=
  match hexDigit? c with
  | some value => value < base
  | none => false

def ofDigitsIn (base : Nat) (digits : List Char) : Nat :=
  digits.foldl (fun value digit => base * value + (hexDigit? digit).getD 0) 0

def inRange (n : Int) : Bool :=
  -Int.pow 2 127 ≤ n && n < Int.pow 2 128

def integer? (text : List Char) : Option Int :=
  let value :=
    match text with
    | '0' :: 'x' :: tail => (ungroup (isDigitOf 16) tail).map fun digits => (ofDigitsIn 16 digits : Int)
    | '0' :: 'o' :: tail => (ungroup (isDigitOf 8) tail).map fun digits => (ofDigitsIn 8 digits : Int)
    | '0' :: 'b' :: tail => (ungroup (isDigitOf 2) tail).map fun digits => (ofDigitsIn 2 digits : Int)
    | text =>
        let (negative, body) := Decimal.splitSign text
        (decimalDigits? body).map fun digits =>
          if negative then -(Decimal.ofDigits digits : Int) else Decimal.ofDigits digits
  value.filter inRange

def exponent? : List Char → Option Int
  | [] => none
  | mark :: tail =>
      if mark = 'e' ∨ mark = 'E' then
        let (negative, body) := Decimal.splitSign tail
        (ungroup Char.isDigit body).map fun digits =>
          if negative then -(Decimal.ofDigits digits : Int) else Decimal.ofDigits digits
      else none

def isExponentMark (c : Char) : Bool :=
  c == 'e' || c == 'E'

def decimal? (text : List Char) : Option Decimal := do
  let mantissa := text.takeWhile fun c => !isExponentMark c
  let tail := text.dropWhile fun c => !isExponentMark c
  let whole ← decimalDigits? (mantissa.takeWhile (· ≠ '.'))
  match mantissa.dropWhile (· ≠ '.') with
  | [] =>
      let exponent ← exponent? tail
      return ⟨Decimal.ofDigits whole, exponent⟩
  | _ :: places =>
      let fraction ← ungroup Char.isDigit places
      let exponent ← if tail = [] then some 0 else exponent? tail
      return ⟨Decimal.ofDigits (whole ++ fraction), exponent - fraction.length⟩

def float? (text : List Char) : Option Float :=
  let (negative, body) := Decimal.splitSign text
  if body = ['i', 'n', 'f'] then some (Binary.ofMagnitude64 negative Format.binary64.infinity)
  else if body = ['n', 'a', 'n'] then some (Binary.ofMagnitude64 false Format.binary64.nan)
  else
    (decimal? body).bind fun decimal =>
      let pattern := decimal.nearest .binary64
      if pattern = Format.binary64.infinity then none
      else some (Binary.ofMagnitude64 negative pattern)

def word? (text : List Char) : Option Datum :=
  if text = ['t', 'r', 'u', 'e'] then some (.boolean true)
  else if text = ['f', 'a', 'l', 's', 'e'] then some (.boolean false)
  else
    match integer? text with
    | some n => some (.integer n)
    | none =>
        match float? text with
        | some x => some (.float x)
        | none => (moment? text).map fun moment => .date moment.text

def isWordChar (c : Char) : Bool :=
  c.isAlphanum || c == '_' || c == '+' || c == '-' || c == '.' || c == ':'

def readWord? (text : List Char) : Option (Datum × List Char) :=
  let first := text.takeWhile isWordChar
  let tail := text.dropWhile isWordChar
  let joined :=
    match readDay? first, tail with
    | some (_, []), ' ' :: digit :: more =>
        if digit.isDigit then
          some (first ++ ' ' :: (digit :: more).takeWhile isWordChar,
            (digit :: more).dropWhile isWordChar)
        else none
    | _, _ => none
  let (written, rest) := joined.getD (first, tail)
  (word? written).map fun value => (value, rest)

end EscapeTime.Toml
