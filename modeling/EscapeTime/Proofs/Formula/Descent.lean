import EscapeTime.Formula.Parse

/- The descent of the reader as a relation: one rule for each way a level or a chain can be read. Facts
about all readings are proved by induction on it, without opening the reader again. -/

set_option autoImplicit false

namespace EscapeTime

theorem Kind.is_literal_iff (kind : Kind) : kind.isLiteral = true ↔ kind = .real ∨ kind = .imaginary := by
  cases kind <;> simp [isLiteral]

theorem Kind.is_name_iff (kind : Kind) : kind.isName = true ↔ kind = .identifier ∨ kind = .parameter := by
  cases kind <;> simp [isName]

theorem Kind.starts_factor_iff (kind : Kind) : kind.startsFactor = true ↔
    kind = .leftParen ∨ kind = .identifier ∨ kind = .parameter ∨ kind.isFunction = true := by
  cases kind <;> simp [startsFactor, isFunction]

theorem Level.starts_operand_iff (kind : Kind) : operand.starts kind = true ↔
    kind.isLiteral = true ∨ kind.isName = true ∨ kind = .leftParen := by
  cases kind <;> simp [starts, rank, Kind.isLiteral, Kind.isName]

namespace Formula

inductive Task where
  | level (level : Level) (tokens : List Token)
  | chain (left : Reading)

-- A rule whose name ends in `Ends` or `Passes` uses no token of its own; its side condition says that
-- the next token, if there is one, is none that the level goes on with.
inductive Descent (mode : ReadMode) (total : Nat) : Task → Reading → Prop where
  | sumEnds {tokens : List Token} {left : Reading}
      (first : Descent mode total (.level .product tokens) left)
      (ends : ∀ op ∈ left.rest.head?, op.kind ≠ .plus ∧ op.kind ≠ .minus) :
      Descent mode total (.level .sum tokens) left
  | sumGoesOn {tokens rest : List Token} {left right : Reading} {op : Token}
      (first : Descent mode total (.level .product tokens) left)
      (next : left.rest = op :: rest) (sign : op.kind = .plus ∨ op.kind = .minus)
      (second : Descent mode total (.level .sum rest) right) :
      Descent mode total (.level .sum tokens) (left.binary op right)
  | productEnds {tokens : List Token} {left : Reading}
      (first : Descent mode total (.level .negation tokens) left)
      (ends : ∀ op ∈ left.rest.head?, op.kind ≠ .dot ∧ op.kind.startsFactor = false) :
      Descent mode total (.level .product tokens) left
  | productGoesOn {tokens rest : List Token} {left right : Reading} {op : Token}
      (first : Descent mode total (.level .negation tokens) left)
      (next : left.rest = op :: rest) (sign : op.kind = .dot)
      (second : Descent mode total (.level .product rest) right) :
      Descent mode total (.level .product tokens) (left.binary op right)
  | productChains {tokens rest : List Token} {left whole : Reading} {op : Token}
      (first : Descent mode total (.level .negation tokens) left)
      (next : left.rest = op :: rest) (factor : op.kind.startsFactor = true)
      (second : Descent mode total (.chain left) whole) :
      Descent mode total (.level .product tokens) whole
  | negationPasses {tokens : List Token} {inner : Reading}
      (ends : ∀ op ∈ tokens.head?, op.kind ≠ .minus)
      (first : Descent mode total (.level .power tokens) inner) :
      Descent mode total (.level .negation tokens) inner
  | negationGoesOn {rest : List Token} {inner : Reading} {op : Token} (sign : op.kind = .minus)
      (first : Descent mode total (.level .negation rest) inner) :
      Descent mode total (.level .negation (op :: rest)) (inner.unary op)
  | powerEnds {tokens : List Token} {base : Reading}
      (first : Descent mode total (.level .quotient tokens) base)
      (ends : ∀ op ∈ base.rest.head?, op.kind ≠ .caret) :
      Descent mode total (.level .power tokens) base
  | powerGoesOn {tokens rest : List Token} {base exponent : Reading} {op : Token}
      (first : Descent mode total (.level .quotient tokens) base)
      (next : base.rest = op :: rest) (sign : op.kind = .caret)
      (second : Descent mode total (.level .power rest) exponent) :
      Descent mode total (.level .power tokens) (base.binary op exponent)
  | quotientPasses {tokens : List Token} {inner : Reading}
      (ends : ∀ op ∈ tokens.head?, op.kind ≠ .fraction)
      (first : Descent mode total (.level .call tokens) inner) :
      Descent mode total (.level .quotient tokens) inner
  | quotientGoesOn {rest : List Token} {numerator denominator : Reading} {op : Token}
      (sign : op.kind = .fraction)
      (first : Descent mode total (.level .quotient rest) numerator)
      (second : Descent mode total (.level .quotient numerator.rest) denominator) :
      Descent mode total (.level .quotient (op :: rest)) (numerator.binary op denominator)
  | callPasses {tokens : List Token} {inner : Reading}
      (ends : ∀ op ∈ tokens.head?, op.kind.isFunction = false)
      (first : Descent mode total (.level .operand tokens) inner) :
      Descent mode total (.level .call tokens) inner
  | callGoesOn {rest : List Token} {inner : Reading} {op : Token}
      (function : op.kind.isFunction = true)
      (first : Descent mode total (.level .call rest) inner) :
      Descent mode total (.level .call (op :: rest)) (inner.unary op)
  | literal {rest : List Token} {token : Token} (literal : token.kind.isLiteral = true) :
      Descent mode total (.level .operand (token :: rest)) ⟨.literal token, none, rest⟩
  | symbol {rest : List Token} {token : Token} (named : token.kind.isName = true) :
      Descent mode total (.level .operand (token :: rest)) ⟨.symbol token, none, rest⟩
  | group {rest : List Token} {inner : Reading} {token : Token} (opens : token.kind = .leftParen)
      (first : Descent mode total (.level .sum rest) inner) :
      Descent mode total (.level .operand (token :: rest)) (inner.close mode.grouping total)
  | missing :
      Descent mode total (.level .operand []) (.invalid (.missingOperand total) [])
  | misplaced {rest : List Token} {token : Token} (ends : Level.operand.starts token.kind = false) :
      Descent mode total (.level .operand (token :: rest))
        (.invalid (.misplaced (total - (token :: rest).length) token.offset) (token :: rest))
  | chainEnds {left : Reading}
      (ends : ∀ op ∈ left.rest.head?, op.kind.startsFactor = false ∧
        ¬ (mode.implicit = .exponent ∧ op.kind = .dot)) :
      Descent mode total (.chain left) left
  | chainFactor {left right whole : Reading} {token : Token} {rest : List Token}
      (next : left.rest = token :: rest) (factor : token.kind.startsFactor = true)
      (first : Descent mode total (.level (mode.implicit.level token.kind) (token :: rest)) right)
      (second : Descent mode total (.chain (left.factor token.offset right)) whole) :
      Descent mode total (.chain left) whole
  | chainGoesOn {left right : Reading} {op : Token} {rest : List Token}
      (next : left.rest = op :: rest) (exponent : mode.implicit = .exponent) (sign : op.kind = .dot)
      (second : Descent mode total (.level .product rest) right) :
      Descent mode total (.chain left) (left.binary op right)

theorem ahead_of_nil {tokens : List Token} (next : tokens = []) (condition : Token → Prop) :
    ∀ op ∈ tokens.head?, condition op := by
  simp [next]

theorem ahead_of_cons {tokens rest : List Token} {token : Token} {condition : Token → Prop}
    (next : tokens = token :: rest) (holds : condition token) : ∀ op ∈ tokens.head?, condition op := by
  simpa [next] using holds

mutual

theorem read_descent (mode : ReadMode) (total : Nat) (level : Level) (tokens : List Token) :
    Descent mode total (.level level tokens) (read mode total level tokens).val := by
  match level, tokens with
  | .sum, tokens =>
      have first := read_descent mode total .product tokens
      rw [read]
      generalize read mode total .product tokens = reading at first ⊢
      obtain ⟨left, used⟩ := reading
      dsimp only
      split
      · rename_i next
        exact .sumEnds first (ahead_of_nil next _)
      · rename_i op rest next
        have bound := next ▸ used
        split
        · rename_i sign
          exact .sumGoesOn first next sign (read_descent mode total .sum rest)
        · rename_i other
          exact .sumEnds first (ahead_of_cons next (not_or.mp other))
  | .product, tokens =>
      have first := read_descent mode total .negation tokens
      rw [read]
      generalize read mode total .negation tokens = reading at first ⊢
      obtain ⟨left, used⟩ := reading
      dsimp only
      split
      · rename_i next
        exact .productEnds first (ahead_of_nil next _)
      · rename_i op rest next
        have bound := next ▸ used
        split
        · rename_i sign
          exact .productGoesOn first next sign (read_descent mode total .product rest)
        · rename_i other
          split
          · rename_i factor
            exact .productChains first next factor (chain_descent mode total left)
          · rename_i last
            exact .productEnds first (ahead_of_cons next ⟨other, Bool.eq_false_iff.mpr last⟩)
  | .negation, [] =>
      rw [read]
      exact .negationPasses (ahead_of_nil rfl _) (read_descent mode total .power [])
  | .negation, op :: rest =>
      rw [read]
      split
      · rename_i sign
        exact .negationGoesOn sign (read_descent mode total .negation rest)
      · rename_i other
        exact .negationPasses (ahead_of_cons rfl other) (read_descent mode total .power (op :: rest))
  | .power, tokens =>
      have first := read_descent mode total .quotient tokens
      rw [read]
      generalize read mode total .quotient tokens = reading at first ⊢
      obtain ⟨base, used⟩ := reading
      dsimp only
      split
      · rename_i next
        exact .powerEnds first (ahead_of_nil next _)
      · rename_i op rest next
        have bound := next ▸ used
        split
        · rename_i sign
          exact .powerGoesOn first next sign (read_descent mode total .power rest)
        · rename_i other
          exact .powerEnds first (ahead_of_cons next other)
  | .quotient, [] =>
      rw [read]
      exact .quotientPasses (ahead_of_nil rfl _) (read_descent mode total .call [])
  | .quotient, op :: rest =>
      rw [read]
      split
      · rename_i sign
        have first := read_descent mode total .quotient rest
        generalize read mode total .quotient rest = reading at first ⊢
        obtain ⟨numerator, used⟩ := reading
        exact .quotientGoesOn sign first (read_descent mode total .quotient numerator.rest)
      · rename_i other
        exact .quotientPasses (ahead_of_cons rfl other) (read_descent mode total .call (op :: rest))
  | .call, [] =>
      rw [read]
      exact .callPasses (ahead_of_nil rfl _) (read_descent mode total .operand [])
  | .call, op :: rest =>
      rw [read]
      split
      · rename_i function
        exact .callGoesOn function (read_descent mode total .call rest)
      · rename_i other
        exact .callPasses (ahead_of_cons rfl (Bool.eq_false_iff.mpr other))
          (read_descent mode total .operand (op :: rest))
  | .operand, [] =>
      rw [read]
      exact .missing
  | .operand, token :: rest =>
      rw [read]
      split
      · rename_i literal
        exact .literal literal
      · rename_i literal
        split
        · rename_i named
          exact .symbol named
        · rename_i named
          split
          · rename_i group
            exact .group group (read_descent mode total .sum rest)
          · rename_i group
            exact .misplaced (Level.starts_operand literal named group)
termination_by 8 * tokens.length + level.rank
decreasing_by
  all_goals simp only [Level.rank, List.length_cons, List.length_nil] at *
  all_goals omega

theorem chain_descent (mode : ReadMode) (total : Nat) (left : Reading) :
    Descent mode total (.chain left) (chain mode total left).val := by
  rw [chain]
  obtain ⟨tree, fault, rest⟩ := left
  cases rest with
  | nil => exact .chainEnds (ahead_of_nil rfl _)
  | cons token rest =>
      dsimp only
      split
      · rename_i factor
        have first := read_descent mode total (mode.implicit.level token.kind) (token :: rest)
        generalize read mode total (mode.implicit.level token.kind) (token :: rest) = reading at first ⊢
        obtain ⟨right, used⟩ := reading
        have shorter := Reading.lt_of_starts (mode.implicit.level_starts factor) used
        exact .chainFactor rfl factor first (chain_descent mode total _)
      · rename_i last
        split
        · rename_i sign
          exact .chainGoesOn rfl sign.1 sign.2 (read_descent mode total .product rest)
        · rename_i other
          exact .chainEnds (ahead_of_cons rfl ⟨Bool.eq_false_iff.mpr last, other⟩)
termination_by 8 * left.rest.length + 5
decreasing_by
  · simp only [List.length_cons, Level.rank]
    omega
  · have tight := mode.implicit.level_rank token.kind
    omega
  · simp only [Reading.factor, Reading.binary]
    omega

end

theorem head_of_cons {tokens rest : List Token} {token : Token} (next : tokens = token :: rest) :
    token ∈ tokens.head? := by
  simp [next]

theorem Descent.unique {mode : ReadMode} {total : Nat} {task : Task} {a b : Reading}
    (left : Descent mode total task a) (right : Descent mode total task b) : a = b := by
  induction left generalizing b with
  | sumEnds _ ends same =>
      cases right with
      | sumEnds first _ => exact same first
      | sumGoesOn first next sign _ =>
          obtain rfl := same first
          exact absurd sign (not_or.mpr (ends _ (head_of_cons next)))
  | sumGoesOn _ next sign _ same more =>
      cases right with
      | sumEnds first ends =>
          obtain rfl := same first
          exact absurd sign (not_or.mpr (ends _ (head_of_cons next)))
      | sumGoesOn first other _ second =>
          obtain rfl := same first
          obtain ⟨rfl, rfl⟩ := List.cons.inj (next.symm.trans other)
          rw [more second]
  | productEnds _ ends same =>
      cases right with
      | productEnds first _ => exact same first
      | productGoesOn first next sign _ =>
          obtain rfl := same first
          exact absurd sign (ends _ (head_of_cons next)).1
      | productChains first next factor _ =>
          obtain rfl := same first
          exact absurd factor (Bool.eq_false_iff.mp (ends _ (head_of_cons next)).2)
  | productGoesOn _ next sign _ same more =>
      cases right with
      | productEnds first ends =>
          obtain rfl := same first
          exact absurd sign (ends _ (head_of_cons next)).1
      | productGoesOn first other _ second =>
          obtain rfl := same first
          obtain ⟨rfl, rfl⟩ := List.cons.inj (next.symm.trans other)
          rw [more second]
      | productChains first other factor _ =>
          obtain rfl := same first
          obtain ⟨rfl, rfl⟩ := List.cons.inj (next.symm.trans other)
          rw [sign] at factor
          cases factor
  | productChains _ next factor _ same more =>
      cases right with
      | productEnds first ends =>
          obtain rfl := same first
          exact absurd factor (Bool.eq_false_iff.mp (ends _ (head_of_cons next)).2)
      | productGoesOn first other sign _ =>
          obtain rfl := same first
          obtain ⟨rfl, rfl⟩ := List.cons.inj (next.symm.trans other)
          rw [sign] at factor
          cases factor
      | productChains first _ _ second =>
          obtain rfl := same first
          exact more second
  | negationPasses ends _ same =>
      cases right with
      | negationPasses _ first => exact same first
      | negationGoesOn sign _ => exact absurd sign (ends _ rfl)
  | negationGoesOn sign _ same =>
      cases right with
      | negationPasses ends _ => exact absurd sign (ends _ rfl)
      | negationGoesOn _ first => rw [same first]
  | powerEnds _ ends same =>
      cases right with
      | powerEnds first _ => exact same first
      | powerGoesOn first next sign _ =>
          obtain rfl := same first
          exact absurd sign (ends _ (head_of_cons next))
  | powerGoesOn _ next sign _ same more =>
      cases right with
      | powerEnds first ends =>
          obtain rfl := same first
          exact absurd sign (ends _ (head_of_cons next))
      | powerGoesOn first other _ second =>
          obtain rfl := same first
          obtain ⟨rfl, rfl⟩ := List.cons.inj (next.symm.trans other)
          rw [more second]
  | quotientPasses ends _ same =>
      cases right with
      | quotientPasses _ first => exact same first
      | quotientGoesOn sign _ _ => exact absurd sign (ends _ rfl)
  | quotientGoesOn sign _ _ same more =>
      cases right with
      | quotientPasses ends _ => exact absurd sign (ends _ rfl)
      | quotientGoesOn _ first second =>
          obtain rfl := same first
          rw [more second]
  | callPasses ends _ same =>
      cases right with
      | callPasses _ first => exact same first
      | callGoesOn function _ => exact absurd function (Bool.eq_false_iff.mp (ends _ rfl))
  | callGoesOn function _ same =>
      cases right with
      | callPasses ends _ => exact absurd function (Bool.eq_false_iff.mp (ends _ rfl))
      | callGoesOn _ first => rw [same first]
  | literal literal =>
      cases right with
      | literal _ => rfl
      | symbol named => grind [Kind.is_literal_iff, Kind.is_name_iff]
      | group opens _ => grind [Kind.is_literal_iff]
      | misplaced ends => grind [Level.starts_operand_iff]
  | symbol named =>
      cases right with
      | literal literal => grind [Kind.is_literal_iff, Kind.is_name_iff]
      | symbol _ => rfl
      | group opens _ => grind [Kind.is_name_iff]
      | misplaced ends => grind [Level.starts_operand_iff]
  | group opens _ same =>
      cases right with
      | literal literal => grind [Kind.is_literal_iff]
      | symbol named => grind [Kind.is_name_iff]
      | group _ first => rw [same first]
      | misplaced ends => grind [Level.starts_operand_iff]
  | missing =>
      cases right
      rfl
  | misplaced ends =>
      cases right with
      | literal literal => grind [Level.starts_operand_iff]
      | symbol named => grind [Level.starts_operand_iff]
      | group opens _ => grind [Level.starts_operand_iff]
      | misplaced _ => rfl
  | chainEnds ends =>
      cases right with
      | chainEnds _ => rfl
      | chainFactor next factor _ _ =>
          exact absurd factor (Bool.eq_false_iff.mp (ends _ (head_of_cons next)).1)
      | chainGoesOn next exponent sign _ =>
          exact absurd ⟨exponent, sign⟩ (ends _ (head_of_cons next)).2
  | chainFactor next factor _ _ same more =>
      cases right with
      | chainEnds ends => exact absurd factor (Bool.eq_false_iff.mp (ends _ (head_of_cons next)).1)
      | chainFactor other _ first second =>
          obtain ⟨rfl, rfl⟩ := List.cons.inj (next.symm.trans other)
          obtain rfl := same first
          exact more second
      | chainGoesOn other _ sign _ =>
          obtain ⟨rfl, rfl⟩ := List.cons.inj (next.symm.trans other)
          rw [sign] at factor
          cases factor
  | chainGoesOn next exponent sign _ more =>
      cases right with
      | chainEnds ends => exact absurd ⟨exponent, sign⟩ (ends _ (head_of_cons next)).2
      | chainFactor other factor _ _ =>
          obtain ⟨rfl, rfl⟩ := List.cons.inj (next.symm.trans other)
          rw [sign] at factor
          cases factor
      | chainGoesOn other _ _ second =>
          obtain ⟨rfl, rfl⟩ := List.cons.inj (next.symm.trans other)
          rw [more second]

theorem read_of_descent {mode : ReadMode} {total : Nat} {level : Level} {tokens : List Token}
    {reading : Reading} (descent : Descent mode total (.level level tokens) reading) :
    (read mode total level tokens).val = reading :=
  (read_descent mode total level tokens).unique descent

end Formula

end EscapeTime
