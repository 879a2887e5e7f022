import EscapeTime.Dictionary
import EscapeTime.Text.Blank
import EscapeTime.Token

set_option autoImplicit false

namespace EscapeTime.Markup

def commands : List (String × Kind) :=
  [("left", .leftParen), ("right", .rightParen), ("cdot", .dot), ("frac", .fraction),
    ("sqrt", .sqrt), ("sin", .sin), ("cos", .cos), ("tan", .tan), ("ln", .ln), ("log", .log)]

def greekLetters : List String :=
  ["alpha", "beta", "gamma", "delta", "epsilon", "zeta", "eta", "theta", "iota", "kappa",
    "lambda", "mu", "nu", "xi", "omicron", "pi", "rho", "sigma", "tau", "upsilon", "phi", "chi",
    "psi", "omega"]

def sign? : Char → Option Kind
  | '{' => some .leftParen
  | '}' => some .rightParen
  | '+' => some .plus
  | '-' => some .minus
  | '^' => some .caret
  | _ => none

-- How many characters a run takes that starts inside `depth + 1` braces and ends with the brace that closes
-- the outermost of them, or with the source. The depth has no bound: a count of 32 bits gives the same
-- widths as long as fewer than 2 ^ 31 braces are open at once.
def braceWidth : Nat → List Char → Nat
  | _, [] => 0
  | depth, '{' :: tail => braceWidth (depth + 1) tail + 1
  | 0, '}' :: _ => 1
  | depth + 1, '}' :: tail => braceWidth depth tail + 1
  | depth, _ :: tail => braceWidth depth tail + 1

def subscriptWidth : List Char → Nat
  | '_' :: '{' :: tail => braceWidth 0 tail + 2
  | '_' :: _ :: _ => 2
  | ['_'] => 1
  | _ => 0

def digitWidth (source : List Char) : Nat :=
  (source.takeWhile Char.isDigit).length

def numeralWidth (source : List Char) : Nat :=
  match source.drop (digitWidth source) with
  | '.' :: tail => digitWidth source + 1 + digitWidth tail
  | _ => digitWidth source

inductive Lexeme where
  | skipped
  | token (kind : Kind) (value : Option String)
  | stray (character : Char)
  | unknown (command : String)
deriving DecidableEq

def unknownName (source : List Char) : List Char :=
  match source.takeWhile Char.isAlpha with
  | [] => source.take 1
  | word => word

def command (source : List Char) : Lexeme × Nat :=
  match commands.find? fun entry => entry.1.toList.isPrefixOf source with
  | some entry => (.token entry.2 none, entry.1.length)
  | none =>
      match greekLetters.find? fun letter => letter.toList.isPrefixOf source with
      | some letter =>
          let width := letter.length + subscriptWidth (source.drop letter.length)
          (.token .identifier (some (String.ofList ('\\' :: source.take width))), width)
      | none =>
          match source with
          | ' ' :: _ => (.skipped, 1)
          | _ => (.unknown (String.ofList (unknownName source)), 0)

-- Reads after the first digit of a numeral. An `i` after the numeral makes it imaginary, unless it has a
-- subscript and so is a name of its own.
def numeral (digit : Char) (source : List Char) : Lexeme × Nat :=
  let width := numeralWidth source
  let value := some (String.ofList (digit :: source.take width))
  match source.drop width with
  | 'i' :: '_' :: _ => (.token .real value, width)
  | 'i' :: _ => (.token .imaginary value, width + 1)
  | _ => (.token .real value, width)

def name (names : Dictionary) (letter : Char) (source : List Char) : Lexeme × Nat :=
  let width := subscriptWidth source
  let written := String.ofList (letter :: source.take width)
  match names.get? written with
  | some text => (.token .parameter (some text), width)
  | none => (.token .identifier (some written), width)

-- What the segment gives that starts with `head`, and how many characters of `tail` it takes. Parentheses are
-- skipped: only braces and the commands `left` and `right` group.
def segment (names : Dictionary) (head : Char) (tail : List Char) : Lexeme × Nat :=
  if Text.isBlank head || head = '(' || head = ')' then (.skipped, 0)
  else
    match sign? head with
    | some kind => (.token kind none, 0)
    | none =>
        if head = '\\' then command tail
        else if head.isDigit then numeral head tail
        else if head.isAlpha then name names head tail
        else (.stray head, 0)

structure Warning where
  character : Char
  offset : Nat
deriving DecidableEq

namespace Warning

def message (warning : Warning) : String :=
  "invalid character '" ++ String.singleton warning.character ++ "'"

def display (warning : Warning) : String :=
  "warning: " ++ warning.message ++ " at character " ++ toString warning.offset

end Warning

structure UnknownCommand where
  command : String
  offset : Nat
deriving DecidableEq

structure Scan where
  tokens : List Token
  warnings : List Warning
  failure : Option UnknownCommand
deriving DecidableEq

namespace Scan

def isComplete (scan : Scan) : Bool :=
  scan.failure.isNone

def prepend (lexeme : Lexeme) (offset : Nat) (rest : Scan) : Scan :=
  match lexeme with
  | .skipped => rest
  | .token kind value => { rest with tokens := ⟨kind, value, offset⟩ :: rest.tokens }
  | .stray character => { rest with warnings := ⟨character, offset⟩ :: rest.warnings }
  | .unknown command => ⟨[], [], some ⟨command, offset⟩⟩

end Scan

def scanFrom (names : Dictionary) (offset : Nat) : List Char → Scan
  | [] => ⟨[], [], none⟩
  | head :: tail =>
      let (lexeme, width) := segment names head tail
      Scan.prepend lexeme offset (scanFrom names (offset + (width + 1)) (tail.drop width))
termination_by source => source.length
decreasing_by exact Nat.lt_succ_of_le (List.length_drop ▸ Nat.sub_le ..)

def scan (names : Dictionary) (source : String) : Scan :=
  scanFrom names 0 source.toList

end EscapeTime.Markup
