import EscapeTime.Formula
import EscapeTime.Formula.Mode

/- Tokens read into a formula by recursive descent, loosest level first:

```text
sum      := product ((PLUS | MINUS) sum)?
product  := negation (DOT product | chain)?
negation := MINUS negation | power
power    := quotient (CARET power)?
quotient := FRACTION quotient quotient | call
call     := FUNCTION call | operand
operand  := REAL | IMAGINARY | IDENTIFIER | PARAMETER | LEFT_PAREN sum RIGHT_PAREN
```

A chain is a row of implicit factors. Where no operand can start, an `invalid` leaf takes its place
and no token is used, so every list of tokens is read. Each step returns the tokens that are left
with the proof that they are no more than before, and fewer if the first token can start the level
that was asked for. -/

set_option autoImplicit false

namespace EscapeTime

-- Why a list of tokens is not a formula. Positions count tokens, offsets count characters.
inductive Fault where
  | missingOperand (position : Nat)
  | misplaced (position offset : Nat)
  | unclosed (position offset : Nat)
  | unclosedAtEnd
  | trailing (token : Token) (position : Nat)
deriving DecidableEq

namespace Fault

def message : Fault → String
  | missingOperand position => "invalid syntax at end of input (token " ++ toString position ++ ")"
  | misplaced position offset =>
      "invalid syntax at token " ++ toString position ++ " (character " ++ toString offset ++ ")"
  | unclosed position offset =>
      "expected closing delimiter at token " ++ toString position ++
        " (character " ++ toString offset ++ ")"
  | unclosedAtEnd => "expected closing delimiter at end of input"
  | trailing token position => "unexpected " ++ token.display ++ " at token " ++ toString position

end Fault

inductive Level where
  | operand
  | call
  | quotient
  | power
  | negation
  | product
  | sum
deriving DecidableEq

namespace Level

def rank : Level → Nat
  | operand => 0
  | call => 1
  | quotient => 2
  | power => 3
  | negation => 4
  | product => 6
  | sum => 7

def starts (level : Level) : Kind → Bool
  | .real | .imaginary | .identifier | .parameter | .leftParen => true
  | .sqrt | .sin | .cos | .tan | .ln | .log => 1 ≤ level.rank
  | .fraction => 2 ≤ level.rank
  | .minus => 4 ≤ level.rank
  | .plus | .dot | .caret | .rightParen => false

def least (level : Level) : List Token → Nat
  | [] => 0
  | token :: _ => if level.starts token.kind then 1 else 0

theorem least_congr {a b : Level} {tokens : List Token}
    (same : ∀ token ∈ tokens.head?, a.starts token.kind = b.starts token.kind) :
    a.least tokens = b.least tokens := by
  cases tokens with
  | nil => rfl
  | cons token tail => simp [least, same token rfl]

theorem least_sum (tokens : List Token) : least sum tokens = least product tokens :=
  least_congr fun token _ => by cases token.kind <;> rfl

theorem least_product (tokens : List Token) : least product tokens = least negation tokens :=
  least_congr fun token _ => by cases token.kind <;> rfl

theorem least_power (tokens : List Token) : least power tokens = least quotient tokens :=
  least_congr fun token _ => by cases token.kind <;> rfl

theorem least_negation {token : Token} (tail : List Token) (positive : token.kind ≠ .minus) :
    least negation (token :: tail) = least power (token :: tail) :=
  least_congr fun head first => by
    cases first
    cases kind : token.kind <;> first | rfl | exact absurd kind positive

theorem least_quotient {token : Token} (tail : List Token) (whole : token.kind ≠ .fraction) :
    least quotient (token :: tail) = least call (token :: tail) :=
  least_congr fun head first => by
    cases first
    cases kind : token.kind <;> first | rfl | exact absurd kind whole

theorem least_call {token : Token} (tail : List Token) (plain : ¬ token.kind.isFunction = true) :
    least call (token :: tail) = least operand (token :: tail) :=
  least_congr fun head first => by
    cases first
    cases kind : token.kind <;> first | rfl | exact absurd (by rw [kind]; rfl) plain

theorem starts_operand {kind : Kind} (literal : ¬ kind.isLiteral = true)
    (named : ¬ kind.isName = true) (group : kind ≠ .leftParen) : starts operand kind = false := by
  cases kind <;> first | rfl | exact absurd rfl literal | exact absurd rfl named | exact absurd rfl group

theorem least_le_one (level : Level) (tokens : List Token) : level.least tokens ≤ 1 := by
  unfold least
  split
  · simp
  · split <;> simp

end Level

def ImplicitFactor.level : ImplicitFactor → Kind → Level
  | exponent, _ => .power
  | primary, kind => if kind.isFunction then .call else .operand

theorem ImplicitFactor.level_starts (implicit : ImplicitFactor) {kind : Kind}
    (factor : kind.startsFactor = true) : (implicit.level kind).starts kind = true := by
  cases implicit <;> cases kind <;> first | rfl | cases factor

theorem ImplicitFactor.level_rank (implicit : ImplicitFactor) (kind : Kind) :
    (implicit.level kind).rank ≤ 3 := by
  unfold level
  split
  · simp [Level.rank]
  · split <;> simp [Level.rank]

structure Reading where
  tree : Formula
  fault : Option Fault
  rest : List Token
deriving DecidableEq

namespace Reading

def unary (op : Token) (inner : Reading) : Reading :=
  ⟨.unary op inner.tree, inner.fault, inner.rest⟩

def binary (left : Reading) (op : Token) (right : Reading) : Reading :=
  ⟨.binary left.tree op right.tree, left.fault.or right.fault, right.rest⟩

def invalid (fault : Fault) (rest : List Token) : Reading :=
  ⟨.invalid fault.message, some fault, rest⟩

-- A factor joins a chain through a product sign that is not written.
def factor (left : Reading) (offset : Nat) (right : Reading) : Reading :=
  left.binary ⟨.dot, none, offset⟩ right

-- Gives up on what was read; the first fault stays the one that counts.
def fail (reading : Reading) (fault : Fault) : Reading :=
  ⟨.invalid fault.message, reading.fault.or (some fault), reading.rest⟩

def close (grouping : Grouping) (total : Nat) (inner : Reading) : Reading :=
  match grouping with
  | .lenient => { inner with rest := inner.rest.drop 1 }
  | .strict =>
      match inner.rest with
      | [] => inner.fail .unclosedAtEnd
      | token :: rest =>
          if token.kind = .rightParen then { inner with rest }
          else inner.fail (.unclosed (total - inner.rest.length) token.offset)

theorem close_rest_le (grouping : Grouping) (total : Nat) (inner : Reading) :
    (inner.close grouping total).rest.length ≤ inner.rest.length := by
  unfold close
  split
  · simp
  · split
    · simp [fail]
    · split <;> simp_all [fail]

theorem use_first {level : Level} {token : Token} {tail rest : List Token}
    (within : rest.length ≤ tail.length) :
    rest.length + level.least (token :: tail) ≤ (token :: tail).length := by
  have := level.least_le_one (token :: tail)
  simp only [List.length_cons]
  omega

theorem use_none {level : Level} {token : Token} {tail : List Token}
    (ends : level.starts token.kind = false) :
    (token :: tail).length + level.least (token :: tail) ≤ (token :: tail).length := by
  simp [Level.least, ends]

theorem le_of_next {op : Token} {rest after : List Token} {least other bound : Nat}
    (used : (op :: rest).length + least ≤ bound) (within : after.length + other ≤ rest.length) :
    after.length + least ≤ bound := by
  simp only [List.length_cons] at used
  omega

theorem lt_of_starts {level : Level} {token : Token} {tail rest : List Token}
    (starts : level.starts token.kind = true)
    (used : rest.length + level.least (token :: tail) ≤ (token :: tail).length) :
    rest.length < (token :: tail).length := by
  simp only [Level.least, starts, if_true] at used
  omega

end Reading

structure Parse where
  tree : Formula
  valid : Bool
  message : Option String
deriving DecidableEq

abbrev Reading.Within (bound : Nat) := { reading : Reading // reading.rest.length ≤ bound }

abbrev Reading.Of (level : Level) (tokens : List Token) :=
  { reading : Reading // reading.rest.length + level.least tokens ≤ tokens.length }

namespace Formula

mutual

def read (mode : ReadMode) (total : Nat) (level : Level) (tokens : List Token) :
    Reading.Of level tokens :=
  match level with
  | .sum =>
      let ⟨left, used⟩ := read mode total .product tokens
      have used := Level.least_sum tokens ▸ used
      match next : left.rest with
      | [] => ⟨left, used⟩
      | op :: rest =>
          if op.kind = .plus ∨ op.kind = .minus then
            have shorter := next ▸ used
            let ⟨right, within⟩ := read mode total .sum rest
            ⟨left.binary op right, Reading.le_of_next shorter within⟩
          else ⟨left, used⟩
  | .product =>
      let ⟨left, used⟩ := read mode total .negation tokens
      have used := Level.least_product tokens ▸ used
      match next : left.rest with
      | [] => ⟨left, used⟩
      | op :: rest =>
          have shorter := next ▸ used
          if op.kind = .dot then
            let ⟨right, within⟩ := read mode total .product rest
            ⟨left.binary op right, Reading.le_of_next shorter within⟩
          else if op.kind.startsFactor then
            let ⟨whole, within⟩ := chain mode total left
            ⟨whole, Nat.le_trans (Nat.add_le_add_right within _) used⟩
          else ⟨left, used⟩
  | .negation =>
      match tokens with
      | [] => read mode total .power []
      | op :: rest =>
          if negative : op.kind = .minus then
            let ⟨inner, within⟩ := read mode total .negation rest
            ⟨inner.unary op, Reading.use_first (Nat.le_of_add_right_le within)⟩
          else
            let ⟨inner, used⟩ := read mode total .power (op :: rest)
            ⟨inner, Level.least_negation rest negative ▸ used⟩
  | .power =>
      let ⟨base, used⟩ := read mode total .quotient tokens
      have used := Level.least_power tokens ▸ used
      match next : base.rest with
      | [] => ⟨base, used⟩
      | op :: rest =>
          if op.kind = .caret then
            have shorter := next ▸ used
            let ⟨exponent, within⟩ := read mode total .power rest
            ⟨base.binary op exponent, Reading.le_of_next shorter within⟩
          else ⟨base, used⟩
  | .quotient =>
      match tokens with
      | [] => read mode total .call []
      | op :: rest =>
          if divided : op.kind = .fraction then
            let ⟨numerator, shorter⟩ := read mode total .quotient rest
            let ⟨denominator, within⟩ := read mode total .quotient numerator.rest
            ⟨numerator.binary op denominator,
              Reading.use_first (Nat.le_trans (Nat.le_of_add_right_le within)
                (Nat.le_of_add_right_le shorter))⟩
          else
            let ⟨inner, used⟩ := read mode total .call (op :: rest)
            ⟨inner, Level.least_quotient rest divided ▸ used⟩
  | .call =>
      match tokens with
      | [] => read mode total .operand []
      | op :: rest =>
          if function : op.kind.isFunction then
            let ⟨inner, within⟩ := read mode total .call rest
            ⟨inner.unary op, Reading.use_first (Nat.le_of_add_right_le within)⟩
          else
            let ⟨inner, used⟩ := read mode total .operand (op :: rest)
            ⟨inner, Level.least_call rest function ▸ used⟩
  | .operand =>
      match tokens with
      | [] => ⟨.invalid (.missingOperand total) [], Nat.le_refl 0⟩
      | token :: rest =>
          if literal : token.kind.isLiteral then
            ⟨⟨.literal token, none, rest⟩, Reading.use_first (Nat.le_refl _)⟩
          else if named : token.kind.isName then
            ⟨⟨.symbol token, none, rest⟩, Reading.use_first (Nat.le_refl _)⟩
          else if group : token.kind = .leftParen then
            let ⟨inner, within⟩ := read mode total .sum rest
            ⟨inner.close mode.grouping total,
              Reading.use_first (Nat.le_trans (inner.close_rest_le mode.grouping total)
                (Nat.le_of_add_right_le within))⟩
          else
            ⟨.invalid (.misplaced (total - (token :: rest).length) token.offset) (token :: rest),
              Reading.use_none (Level.starts_operand literal named group)⟩
termination_by 8 * tokens.length + level.rank
decreasing_by
  all_goals simp only [Level.rank, List.length_cons, List.length_nil] at *
  all_goals omega

def chain (mode : ReadMode) (total : Nat) (left : Reading) : Reading.Within left.rest.length :=
  match next : left.rest with
  | [] => ⟨left, Nat.le_of_eq (congrArg List.length next)⟩
  | token :: rest =>
      if factor : token.kind.startsFactor then
        let ⟨right, used⟩ := read mode total (mode.implicit.level token.kind) (token :: rest)
        have shorter := Reading.lt_of_starts (mode.implicit.level_starts factor) used
        let ⟨whole, within⟩ := chain mode total (left.factor token.offset right)
        ⟨whole, Nat.le_trans within (Nat.le_of_lt shorter)⟩
      else if mode.implicit = .exponent ∧ token.kind = .dot then
        let ⟨right, within⟩ := read mode total .product rest
        ⟨left.binary token right, Nat.le_succ_of_le (Nat.le_of_add_right_le within)⟩
      else ⟨left, Nat.le_of_eq (congrArg List.length next)⟩
termination_by 8 * left.rest.length + 5
decreasing_by
  all_goals have count := congrArg List.length next
  · have tight := mode.implicit.level_rank token.kind
    omega
  · simp only [List.length_cons, Reading.factor, Reading.binary] at *
    omega
  · simp only [List.length_cons, Level.rank] at *
    omega

end

def readAll (mode : ReadMode) (tokens : List Token) : Reading :=
  let whole := (read mode tokens.length .sum tokens).val
  match mode.grouping, whole.rest with
  | .strict, token :: _ => whole.fail (.trailing token (tokens.length - whole.rest.length))
  | _, _ => whole

def parse (mode : ReadMode) (tokens : List Token) : Parse :=
  let whole := readAll mode tokens
  ⟨whole.tree, whole.fault.isNone, whole.fault.map Fault.message⟩

end Formula

end EscapeTime
