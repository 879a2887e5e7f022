import EscapeTime.Decimal.Text

set_option autoImplicit false

namespace EscapeTime.Wgsl

inductive UnaryFunction where
  | sqrt
  | sin
  | cos
  | tan
  | log
  | ln
deriving DecidableEq

inductive BinaryFunction where
  | mult
  | div
  | pow
deriving DecidableEq

def UnaryFunction.name : UnaryFunction → String
  | sqrt => "complex_sqrt"
  | sin => "complex_sin"
  | cos => "complex_cos"
  | tan => "complex_tan"
  | log => "complex_log"
  | ln => "complex_ln"

def BinaryFunction.name : BinaryFunction → String
  | mult => "complex_mult"
  | div => "complex_div"
  | pow => "complex_pow"

inductive Expr where
  | verbatim (text : String)
  | uniform (field : String)
  | constant (re im : String)
  | negate (inner : Expr)
  | add (left right : Expr)
  | subtract (left right : Expr)
  | unary (function : UnaryFunction) (inner : Expr)
  | binary (function : BinaryFunction) (left right : Expr)
deriving DecidableEq

namespace Expr

def render : Expr → String
  | verbatim text => text
  | uniform field => "uniforms." ++ field
  | constant re im => "vec2<f32>(" ++ re ++ ", " ++ im ++ ")"
  | negate inner => "-(" ++ inner.render ++ ")"
  | add left right => "(" ++ left.render ++ ") + (" ++ right.render ++ ")"
  | subtract left right => "(" ++ left.render ++ ") - (" ++ right.render ++ ")"
  | unary function inner => function.name ++ "(" ++ inner.render ++ ")"
  | binary function left right =>
      function.name ++ "(" ++ left.render ++ ", " ++ right.render ++ ")"

end Expr

def numberStyle : Decimal.Style where
  nan := "NaN"
  infinity := "inf"
  negativeInfinity := "-inf"
  zero := "0.0"
  tie := .up
  finite := Decimal.pointed

def number (x : Float) : String :=
  numberStyle.write64 x

def slotField (id : Nat) : String :=
  "u" ++ toString id

end EscapeTime.Wgsl
