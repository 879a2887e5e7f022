set_option autoImplicit false

namespace EscapeTime

inductive Kind where
  | real
  | imaginary
  | identifier
  | parameter
  | plus
  | minus
  | dot
  | fraction
  | caret
  | leftParen
  | rightParen
  | sqrt
  | sin
  | cos
  | tan
  | ln
  | log
deriving DecidableEq

namespace Kind

def name : Kind → String
  | real => "REAL"
  | imaginary => "IMAGINARY"
  | identifier => "IDENTIFIER"
  | parameter => "PARAMETER"
  | plus => "PLUS"
  | minus => "MINUS"
  | dot => "DOT"
  | fraction => "FRACTION"
  | caret => "CARET"
  | leftParen => "LEFT_PAREN"
  | rightParen => "RIGHT_PAREN"
  | sqrt => "SQRT"
  | sin => "SIN"
  | cos => "COS"
  | tan => "TAN"
  | ln => "LN"
  | log => "LOG"

def isFunction : Kind → Bool
  | sqrt | sin | cos | tan | log | ln => true
  | _ => false

def isLiteral : Kind → Bool
  | real | imaginary => true
  | _ => false

def isName : Kind → Bool
  | identifier | parameter => true
  | _ => false

def startsFactor : Kind → Bool
  | leftParen | identifier | parameter | sqrt | sin | cos | tan | log | ln => true
  | _ => false

theorem starts_factor_of_is_function {kind : Kind} (function : kind.isFunction = true) :
    kind.startsFactor = true := by
  cases kind <;> simp_all [isFunction, startsFactor]

end Kind

structure Token where
  kind : Kind
  value : Option String
  offset : Nat
deriving DecidableEq

namespace Token

def text (token : Token) : String :=
  token.value.getD ""

def display (token : Token) : String :=
  match token.value with
  | some value => String.singleton '{' ++ token.kind.name ++ ": " ++ value ++ String.singleton '}'
  | none => token.kind.name

end Token

end EscapeTime
