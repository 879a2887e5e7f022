import EscapeTime.Complex
import EscapeTime.Decimal
import EscapeTime.Dictionary
import EscapeTime.Variables

set_option autoImplicit false

namespace EscapeTime

inductive EvalFault where
  | notUnary (kind : Kind)
  | notBinary (kind : Kind)
  | badNumber (text : String)
  | unbound (name : String)
  | invalid (message : String)
deriving DecidableEq

structure Environment where
  parameters : List (String × Complex)
  table : Variables

namespace Environment

def bare (table : Variables) : Environment := ⟨[], table⟩

def bind (environment : Environment) (text : String) (value : Complex) : Environment :=
  { environment with parameters := (text, value) :: environment.parameters }

def parameter? (environment : Environment) (text : String) : Option Complex :=
  environment.parameters.lookup text

structure Point where
  x : Complex
  z : Complex
  time : Float
  c : Complex

def Point.value? (point : Point) : String → Option Complex
  | "x" => some point.x
  | "z" => some point.z
  | "i" => some .unit
  | "t" => some (.real point.time)
  | "c" => some point.c
  | _ => none

def ofPoint (table : Variables) (names : Dictionary) (point : Point) : Environment :=
  names.entries.foldl
    (fun environment entry =>
      match point.value? entry.1 with
      | some value => environment.bind entry.2 value
      | none => environment)
    (bare table)

end Environment

namespace Formula

def unaryValue (kind : Kind) (inner : Complex) : Except EvalFault Complex :=
  match kind with
  | .minus => .ok inner.neg
  | .sqrt => .ok inner.sqrt
  | .sin => .ok inner.sin
  | .cos => .ok inner.cos
  | .tan => .ok inner.tan
  | .log => .ok inner.log
  | .ln => .ok inner.ln
  | kind => .error (.notUnary kind)

def binaryValue (left : Complex) (kind : Kind) (right : Complex) : Except EvalFault Complex :=
  match kind with
  | .plus => .ok (left.add right)
  | .minus => .ok (left.sub right)
  | .dot => .ok (left.mul right)
  | .fraction => .ok (left.div right)
  | .caret => .ok (left.pow right)
  | kind => .error (.notBinary kind)

def literalValue (value : Token) : Except EvalFault Complex :=
  match Decimal.readFloat? value.text with
  | none => .error (.badNumber value.text)
  | some number => .ok (if value.kind = .imaginary then ⟨0, number⟩ else .real number)

def symbolValue (environment : Environment) (name : Token) : Except EvalFault Complex :=
  if name.kind = .parameter then
    match environment.parameter? name.text with
    | some value => .ok value
    | none => .error (.unbound name.text)
  else
    match environment.table.get? name.text with
    | some slot => .ok ⟨Binary.widen slot.real, Binary.widen slot.imag⟩
    | none => .error (.unbound name.text)

def value (environment : Environment) : Formula → Except EvalFault Complex
  | unary op inner => do
      let inner ← inner.value environment
      unaryValue op.kind inner
  | binary left op right => do
      let left ← left.value environment
      let right ← right.value environment
      binaryValue left op.kind right
  | literal value => literalValue value
  | symbol name => symbolValue environment name
  | invalid message => .error (.invalid message)

structure Orbit where
  initial : Formula
  step : Formula
  table : Variables
  names : Dictionary

namespace Orbit

def valueAt (orbit : Orbit) (formula : Formula) (x z : Complex) : Except EvalFault Complex :=
  formula.value (.ofPoint orbit.table orbit.names ⟨x, z, 0, .zero⟩)

def escapeFrom (orbit : Orbit) (x : Complex) (radiusSq : Float) :
    (steps taken : Nat) → (z : Complex) → Except EvalFault (Option Nat)
  | 0, _, _ => .ok none
  | steps + 1, taken, z => do
      let next ← orbit.valueAt orbit.step x z
      if radiusSq < next.normSq then .ok (some taken)
      else orbit.escapeFrom x radiusSq steps (taken + 1) next

/-- How many steps the orbit of pixel `x` stays within the radius, or none if it does so for all
`limit` steps. -/
def escapeTime (orbit : Orbit) (x : Complex) (limit : Nat) (radius : Float) :
    Except EvalFault (Option Nat) := do
  let start ← orbit.valueAt orbit.initial x .zero
  orbit.escapeFrom x (radius * radius) limit 0 start

end Orbit

end Formula

end EscapeTime
