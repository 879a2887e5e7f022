import EscapeTime.Formula.Parse

set_option autoImplicit false

namespace EscapeTime.Grammar

inductive Symbol where
  | level (level : Level)
  | factor
  | chain
deriving DecidableEq

inductive Derivation (implicit : ImplicitFactor) : Symbol → List Token → Type where
  | product {ts : List Token} (inner : Derivation implicit (.level .product) ts) :
      Derivation implicit (.level .sum) ts
  | sum {ts us : List Token} {op : Token} (left : Derivation implicit (.level .product) ts)
      (sign : op.kind = .plus ∨ op.kind = .minus) (right : Derivation implicit (.level .sum) us) :
      Derivation implicit (.level .sum) (ts ++ op :: us)
  | negation {ts : List Token} (inner : Derivation implicit (.level .negation) ts) :
      Derivation implicit (.level .product) ts
  | times {ts us : List Token} {op : Token} (left : Derivation implicit (.level .negation) ts)
      (sign : op.kind = .dot) (right : Derivation implicit (.level .product) us) :
      Derivation implicit (.level .product) (ts ++ op :: us)
  | beside {ts us : List Token} (left : Derivation implicit (.level .negation) ts)
      (factors : Derivation implicit .chain us) : Derivation implicit (.level .product) (ts ++ us)
  | power {ts : List Token} (inner : Derivation implicit (.level .power) ts) :
      Derivation implicit (.level .negation) ts
  | negate {ts : List Token} {op : Token} (sign : op.kind = .minus)
      (inner : Derivation implicit (.level .negation) ts) :
      Derivation implicit (.level .negation) (op :: ts)
  | quotient {ts : List Token} (inner : Derivation implicit (.level .quotient) ts) :
      Derivation implicit (.level .power) ts
  | raise {ts us : List Token} {op : Token} (base : Derivation implicit (.level .quotient) ts)
      (sign : op.kind = .caret) (exponent : Derivation implicit (.level .power) us) :
      Derivation implicit (.level .power) (ts ++ op :: us)
  | call {ts : List Token} (inner : Derivation implicit (.level .call) ts) :
      Derivation implicit (.level .quotient) ts
  | divide {ts us : List Token} {op : Token} (sign : op.kind = .fraction)
      (numerator : Derivation implicit (.level .quotient) ts)
      (denominator : Derivation implicit (.level .quotient) us) :
      Derivation implicit (.level .quotient) (op :: (ts ++ us))
  | operand {ts : List Token} (inner : Derivation implicit (.level .operand) ts) :
      Derivation implicit (.level .call) ts
  | apply {ts : List Token} {op : Token} (function : op.kind.isFunction = true)
      (inner : Derivation implicit (.level .call) ts) : Derivation implicit (.level .call) (op :: ts)
  | literal {token : Token} (kind : token.kind = .real ∨ token.kind = .imaginary) :
      Derivation implicit (.level .operand) [token]
  | name {token : Token} (kind : token.kind = .identifier ∨ token.kind = .parameter) :
      Derivation implicit (.level .operand) [token]
  | group {ts : List Token} {opening closing : Token} (opens : opening.kind = .leftParen)
      (inner : Derivation implicit (.level .sum) ts) (closes : closing.kind = .rightParen) :
      Derivation implicit (.level .operand) (opening :: (ts ++ [closing]))
  -- Factors of a chain: names, groups and calls in one mode, powers in the other.
  | operandFactor {ts : List Token} {first : Token} (mode : implicit = .primary)
      (starts : first.kind = .identifier ∨ first.kind = .parameter ∨ first.kind = .leftParen)
      (inner : Derivation implicit (.level .operand) (first :: ts)) :
      Derivation implicit .factor (first :: ts)
  | callFactor {ts : List Token} {op : Token} (mode : implicit = .primary)
      (function : op.kind.isFunction = true) (inner : Derivation implicit (.level .call) ts) :
      Derivation implicit .factor (op :: ts)
  | powerFactor {ts : List Token} {first : Token} (mode : implicit = .exponent)
      (starts : first.kind = .leftParen ∨ first.kind = .identifier ∨ first.kind = .parameter ∨
        first.kind.isFunction = true)
      (inner : Derivation implicit (.level .power) (first :: ts)) :
      Derivation implicit .factor (first :: ts)
  | last {ts : List Token} {first : Token} (factor : Derivation implicit .factor (first :: ts)) :
      Derivation implicit .chain (first :: ts)
  | next {ts us : List Token} {first : Token} (factor : Derivation implicit .factor (first :: ts))
      (factors : Derivation implicit .chain us) : Derivation implicit .chain (first :: (ts ++ us))
  | lastTimes {ts us : List Token} {first op : Token} (mode : implicit = .exponent)
      (factor : Derivation implicit .factor (first :: ts)) (sign : op.kind = .dot)
      (right : Derivation implicit (.level .product) us) :
      Derivation implicit .chain (first :: (ts ++ op :: us))

-- A chain has no formula of its own: it extends the formula to its left.
@[reducible] def Symbol.Meaning : Symbol → Type
  | .level _ => Formula
  | .factor => Formula
  | .chain => Formula → Formula

def unwritten (first : Token) : Token :=
  ⟨.dot, none, first.offset⟩

namespace Derivation

def tree {implicit : ImplicitFactor} {symbol : Symbol} {ts : List Token} :
    Derivation implicit symbol ts → symbol.Meaning
  | product inner => inner.tree
  | @sum _ _ _ op left _ right => .binary left.tree op right.tree
  | negation inner => inner.tree
  | @times _ _ _ op left _ right => .binary left.tree op right.tree
  | beside left factors => factors.tree left.tree
  | power inner => inner.tree
  | @negate _ _ op _ inner => .unary op inner.tree
  | quotient inner => inner.tree
  | @raise _ _ _ op base _ exponent => .binary base.tree op exponent.tree
  | call inner => inner.tree
  | @divide _ _ _ op _ numerator denominator => .binary numerator.tree op denominator.tree
  | operand inner => inner.tree
  | @apply _ _ op _ inner => .unary op inner.tree
  | @literal _ token _ => .literal token
  | @name _ token _ => .symbol token
  | group _ inner _ => inner.tree
  | operandFactor _ _ inner => inner.tree
  | @callFactor _ _ op _ _ inner => .unary op inner.tree
  | powerFactor _ _ inner => inner.tree
  | @last _ _ first factor => fun left => .binary left (unwritten first) factor.tree
  | @next _ _ _ first factor factors =>
      fun left => factors.tree (.binary left (unwritten first) factor.tree)
  | @lastTimes _ _ _ first op _ factor _ right =>
      fun left => .binary (.binary left (unwritten first) factor.tree) op right.tree

end Derivation

end EscapeTime.Grammar
