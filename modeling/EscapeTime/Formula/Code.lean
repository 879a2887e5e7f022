import EscapeTime.Variables
import EscapeTime.Wgsl.Expr

set_option autoImplicit false

namespace EscapeTime

inductive Role where
  | unaryOperator
  | binaryOperator
  | literal
  | symbol
deriving DecidableEq

def Role.name : Role → String
  | unaryOperator => "unary operator"
  | binaryOperator => "binary operator"
  | literal => "literal"
  | symbol => "variable"

inductive CodeFault where
  | noSlot (name : String)
  | badNumber (text : String) (offset : Nat)
  | outOfRange (text : String) (offset : Nat)
  | unexpected (kind : Kind) (role : Role) (offset : Nat)
  | invalid (message : String)
deriving DecidableEq

namespace CodeFault

def message : CodeFault → String
  | noSlot name => "variable '" ++ name ++ "' has no uniform slot"
  | badNumber text offset =>
      "invalid numeric literal '" ++ text ++ "' at character " ++ toString offset
  | outOfRange text offset =>
      "numeric literal '" ++ text ++ "' at character " ++ toString offset ++ " is out of f32 range"
  | unexpected kind role offset =>
      kind.name ++ " is not a valid " ++ role.name ++ " (character " ++ toString offset ++ ")"
  | invalid message => "cannot generate code for invalid expression: " ++ message

end CodeFault

namespace Formula

def unaryCode (op : Token) (inner : Wgsl.Expr) : Except CodeFault Wgsl.Expr :=
  match op.kind with
  | .minus => .ok (.negate inner)
  | .sqrt => .ok (.unary .sqrt inner)
  | .sin => .ok (.unary .sin inner)
  | .cos => .ok (.unary .cos inner)
  | .tan => .ok (.unary .tan inner)
  | .log => .ok (.unary .log inner)
  | .ln => .ok (.unary .ln inner)
  | kind => .error (.unexpected kind .unaryOperator op.offset)

def binaryCode (left : Wgsl.Expr) (op : Token) (right : Wgsl.Expr) : Except CodeFault Wgsl.Expr :=
  match op.kind with
  | .plus => .ok (.add left right)
  | .minus => .ok (.subtract left right)
  | .dot => .ok (.binary .mult left right)
  | .fraction => .ok (.binary .div left right)
  | .caret => .ok (.binary .pow left right)
  | kind => .error (.unexpected kind .binaryOperator op.offset)

def literalNumber (value : Token) : Except CodeFault Float :=
  match Decimal.readFloat? value.text with
  | none => .error (.badNumber value.text value.offset)
  | some number =>
      if Binary.isFinite32 (Binary.narrow number) then .ok number
      else .error (.outOfRange value.text value.offset)

def literalCode (value : Token) : Except CodeFault Wgsl.Expr := do
  let number ← literalNumber value
  match value.kind with
  | .real => .ok (.constant (Wgsl.number number) "0.0")
  | .imaginary => .ok (.constant "0.0" (Wgsl.number number))
  | kind => .error (.unexpected kind .literal value.offset)

-- The time and the constant under the pointer are fields of the uniform buffer; any other text is a symbol
-- that the program declares, or an expression as it stands.
def parameterCode (text : String) : Wgsl.Expr :=
  if text = "t" ∨ text = "c" then .uniform text else .verbatim text

def symbolCode (table : Variables) (name : Token) : Except CodeFault Wgsl.Expr :=
  match name.kind with
  | .identifier =>
      match table.get? name.text with
      | some slot => .ok (.uniform (Wgsl.slotField slot.id))
      | none => .error (.noSlot name.text)
  | .parameter => .ok (parameterCode name.text)
  | kind => .error (.unexpected kind .symbol name.offset)

def code (table : Variables) : Formula → Except CodeFault Wgsl.Expr
  | unary op inner => do
      let inner ← inner.code table
      unaryCode op inner
  | binary left op right => do
      let left ← left.code table
      let right ← right.code table
      binaryCode left op right
  | literal value => literalCode value
  | symbol name => symbolCode table name
  | invalid message => .error (.invalid message)

end Formula

end EscapeTime
