import EscapeTime.Decimal.Text
import EscapeTime.Session

set_option autoImplicit false

namespace EscapeTime

inductive Json where
  | natural (n : Nat)
  | single (x : Float32)
  | text (value : String)
  | object (fields : List (String × Json))

namespace Json

def leadingPlace (decimal : Decimal) : Int :=
  decimal.exponent + (((Decimal.digits decimal.coefficient).length : Int) - 1)

def numberStyle : Decimal.Style where
  nan := "null"
  infinity := "null"
  negativeInfinity := "null"
  zero := "0.0"
  tie := .even
  finite := fun decimal =>
    if -6 ≤ leadingPlace decimal ∧ leadingPlace decimal ≤ 12 then decimal.pointed
    else decimal.scientific

def number (x : Float32) : String :=
  numberStyle.write32 x

def escapeChar (c : Char) : String :=
  match c with
  | '"' => "\\\""
  | '\\' => "\\\\"
  | '\x08' => "\\b"
  | '\x0c' => "\\f"
  | '\n' => "\\n"
  | '\r' => "\\r"
  | '\t' => "\\t"
  | c =>
      if c.toNat < 0x10 then "\\u000" ++ String.ofList (Nat.toDigits 16 c.toNat)
      else if c.toNat < 0x20 then "\\u00" ++ String.ofList (Nat.toDigits 16 c.toNat)
      else String.singleton c

def quote (value : String) : String :=
  "\"" ++ String.join (value.toList.map escapeChar) ++ "\""

mutual

def compact : Json → String
  | natural n => toString n
  | single x => number x
  | text value => quote value
  | object fields => String.singleton '{' ++ compactFields fields ++ String.singleton '}'

def compactFields : List (String × Json) → String
  | [] => ""
  | [(key, value)] => quote key ++ ":" ++ value.compact
  | (key, value) :: rest => quote key ++ ":" ++ value.compact ++ "," ++ compactFields rest

end

def indent (depth : Nat) : String :=
  "\n" ++ String.ofList (List.replicate (2 * depth) ' ')

mutual

def prettyAt (depth : Nat) : Json → String
  | natural n => toString n
  | single x => number x
  | text value => quote value
  | object [] => "{}"
  | object fields => String.singleton '{' ++ prettyFields depth fields ++ indent depth ++ String.singleton '}'

def prettyFields (depth : Nat) : List (String × Json) → String
  | [] => ""
  | [(key, value)] => indent (depth + 1) ++ quote key ++ ": " ++ prettyAt (depth + 1) value
  | (key, value) :: rest =>
      indent (depth + 1) ++ quote key ++ ": " ++ prettyAt (depth + 1) value ++ "," ++
        prettyFields depth rest

end

def pretty (json : Json) : String :=
  json.prettyAt 0

end Json

def Slot.json (slot : Slot) : Json :=
  .object [("id", .natural slot.id), ("real", .single slot.real), ("imag", .single slot.imag)]

def Variables.json (table : Variables) : Json :=
  .object (table.entries.map fun entry => (entry.1, entry.2.json))

def Palette.json : Palette → Json
  | custom body => .object [("custom", .text body)]
  | palette => .text palette.name

def Shader.report (shader : Shader) (table : Variables) : Json :=
  .object [("variables", table.json), ("uniform_len", .natural shader.uniformLength),
    ("initial_code", .text shader.initialCode), ("step_code", .text shader.stepCode)]

end EscapeTime
