import EscapeTime.Token

set_option autoImplicit false

namespace EscapeTime

inductive Formula where
  | unary (op : Token) (inner : Formula)
  | binary (left : Formula) (op : Token) (right : Formula)
  | literal (value : Token)
  | symbol (name : Token)
  | invalid (message : String)
deriving DecidableEq

namespace Formula

def isValid : Formula → Bool
  | unary _ inner => inner.isValid
  | binary left _ right => left.isValid && right.isValid
  | literal _ => true
  | symbol _ => true
  | invalid _ => false

def size : Formula → Nat
  | unary _ inner => 1 + inner.size
  | binary left _ right => 1 + left.size + right.size
  | literal _ => 1
  | symbol _ => 1
  | invalid _ => 1

def display : Formula → String
  | unary op inner => op.display ++ "[" ++ inner.display ++ "]"
  | binary left op right => op.display ++ "[" ++ left.display ++ ", " ++ right.display ++ "]"
  | literal value => value.display
  | symbol name => name.display
  | invalid message => "ERROR[" ++ message ++ "]"

end Formula

end EscapeTime
