import EscapeTime.Decimal.Text
import EscapeTime.Toml.Reader

set_option autoImplicit false

namespace EscapeTime.Toml

def numberStyle : Decimal.Style where
  nan := "nan"
  infinity := "inf"
  negativeInfinity := "-inf"
  zero := "0.0"
  tie := .up
  finite := Decimal.pointed

def number (x : Float32) : String :=
  numberStyle.write32 x

def longestRun (c : Char) : (current : Nat) → List Char → Nat
  | current, [] => current
  | current, head :: tail =>
      if head = c then longestRun c (current + 1) tail
      else max current (longestRun c 0 tail)

def isHidden (c : Char) : Bool :=
  (c.toNat < 0x20 || c.toNat == 0x7f) && c != '\n' && c != '\t'

inductive Quotes where
  | basic
  | literal
  | longBasic
  | longLiteral
deriving DecidableEq

def plainQuotes? (text : List Char) (oneLine : Bool) : Option Quotes :=
  let doubles := longestRun '"' 0 text
  let singles := longestRun '\'' 0 text
  if text.any isHidden then none
  else if oneLine ∧ ¬ '\\' ∈ text ∧ doubles = 0 then some .basic
  else if oneLine ∧ singles = 0 then some .literal
  else if ¬ '\\' ∈ text ∧ doubles ≤ 2 then some .longBasic
  else if singles ≤ 2 then some .longLiteral
  else none

def escapeChar (long : Bool) (c : Char) : List Char :=
  match c with
  | '\x08' => ['\\', 'b']
  | '\t' => ['\\', 't']
  | '\x0c' => ['\\', 'f']
  | '\r' => ['\\', 'r']
  | '\\' => ['\\', '\\']
  | '\n' => if long then ['\n'] else ['\\', 'n']
  | '"' => ['\\', '"']
  | c =>
      if isHidden c then
        let digits := (Nat.toDigits 16 c.toNat).map Char.toUpper
        '\\' :: 'u' :: (List.replicate (4 - digits.length) '0' ++ digits)
      else [c]

def escapeLong : (run : Nat) → List Char → List Char
  | _, [] => []
  | run, '"' :: tail =>
      if run < 2 then '"' :: escapeLong (run + 1) tail else '\\' :: '"' :: escapeLong 0 tail
  | _, c :: tail => escapeChar true c ++ escapeLong 0 tail

def opening (quote : String) (text : List Char) : String :=
  if '\n' ∈ text then quote ++ "\n" else quote

def quoted (quotes : Quotes) (text : List Char) : String :=
  match quotes with
  | .basic => "\"" ++ String.ofList (text.flatMap (escapeChar false)) ++ "\""
  | .literal => "'" ++ String.ofList text ++ "'"
  | .longBasic => opening "\"\"\"" text ++ String.ofList (escapeLong 0 text) ++ "\"\"\""
  | .longLiteral => opening "'''" text ++ String.ofList text ++ "'''"

def quoteValue (text : String) : String :=
  let chars := text.toList
  let oneLine : Bool := decide (¬ '\n' ∈ chars)
  quoted ((plainQuotes? chars oneLine).getD (if oneLine then .basic else .longBasic)) chars

def quoteKey (key : String) : String :=
  let chars := key.toList
  if chars ≠ [] ∧ chars.all isBareChar then key
  else
    match plainQuotes? chars (decide (¬ '\n' ∈ chars)) with
    | some .literal => quoted .literal chars
    | _ => quoted .basic chars

end EscapeTime.Toml
