import EscapeTime.Proofs.Formula.Descent
import EscapeTime.Proofs.Formula.Grammar

set_option autoImplicit false

namespace EscapeTime

namespace Level

def goesOn : Level → Kind → Bool
  | operand, _ => false
  | call, _ => false
  | quotient, _ => false
  | power, kind => kind = .caret
  | negation, kind => kind = .caret
  | product, kind => kind = .caret || kind = .dot || kind.startsFactor
  | sum, kind => kind = .caret || kind = .dot || kind.startsFactor || kind = .plus || kind = .minus

def Stops (level : Level) (rest : List Token) : Prop :=
  ∀ token ∈ rest.head?, level.goesOn token.kind = false

theorem stops_nil (level : Level) : level.Stops [] := by
  simp [Stops]

theorem stops_cons {level : Level} {token : Token} {rest : List Token} :
    level.Stops (token :: rest) ↔ level.goesOn token.kind = false := by
  simp [Stops]

theorem Stops.product_of_sum {rest : List Token} (stops : sum.Stops rest) : product.Stops rest := by
  intro token first
  have last := stops token first
  simp_all [goesOn]

theorem Stops.negation_of_product {rest : List Token} (stops : product.Stops rest) :
    negation.Stops rest := by
  intro token first
  have last := stops token first
  simp_all [goesOn]

theorem starts_mono {a b : Level} {kind : Kind} (tighter : a.rank ≤ b.rank) (starts : a.starts kind = true) :
    b.starts kind = true := by
  cases kind <;> simp_all [Level.starts] <;> omega

theorem starts_call {kind : Kind} (function : kind.isFunction = true) : call.starts kind = true := by
  cases kind <;> simp_all [Kind.isFunction, starts, rank]

end Level

namespace Grammar

open Formula (Descent Task)

variable {implicit : ImplicitFactor} {total : Nat}

def Symbol.starts : Symbol → Kind → Bool
  | .level tier => tier.starts
  | .factor => Kind.startsFactor
  | .chain => Kind.startsFactor

theorem Derivation.first {symbol : Symbol} {ts : List Token} (derivation : Derivation implicit symbol ts) :
    ∃ first tail, ts = first :: tail ∧ symbol.starts first.kind = true := by
  induction derivation with
  | product _ ih | negation _ ih | power _ ih | quotient _ ih | call _ ih | operand _ ih =>
      obtain ⟨first, tail, rfl, starts⟩ := ih
      exact ⟨first, tail, rfl, Level.starts_mono (by decide) starts⟩
  | sum _ _ _ ih | times _ _ _ ih | raise _ _ _ ih | beside _ _ ih =>
      obtain ⟨first, tail, rfl, starts⟩ := ih
      exact ⟨first, _, rfl, Level.starts_mono (by decide) starts⟩
  | negate sign _ _ | divide sign _ _ _ _ => exact ⟨_, _, rfl, by rw [sign]; rfl⟩
  | apply function _ _ => exact ⟨_, _, rfl, Level.starts_call function⟩
  | literal kind => exact ⟨_, _, rfl, by rcases kind with kind | kind <;> rw [kind] <;> rfl⟩
  | name kind => exact ⟨_, _, rfl, by rcases kind with kind | kind <;> rw [kind] <;> rfl⟩
  | group opens _ _ _ => exact ⟨_, _, rfl, by rw [opens]; rfl⟩
  | operandFactor _ starts _ _ => exact ⟨_, _, rfl, (Kind.starts_factor_iff _).mpr (by grind)⟩
  | callFactor _ function _ _ => exact ⟨_, _, rfl, Kind.starts_factor_of_is_function function⟩
  | powerFactor _ starts _ _ => exact ⟨_, _, rfl, (Kind.starts_factor_iff _).mpr starts⟩
  | last _ ih | next _ _ ih _ | lastTimes _ _ _ _ ih _ =>
      obtain ⟨first, tail, same, starts⟩ := ih
      obtain ⟨rfl, rfl⟩ := List.cons.inj same
      exact ⟨_, _, rfl, starts⟩

theorem Derivation.ne_nil {symbol : Symbol} {ts : List Token} (derivation : Derivation implicit symbol ts) :
    ts ≠ [] := by
  obtain ⟨first, tail, rfl, -⟩ := derivation.first
  exact List.cons_ne_nil first tail

-- What reading the tokens of a derivation gives. A chain is read onto the formula to its left.
def Accepted (implicit : ImplicitFactor) (total : Nat) :
    (symbol : Symbol) → List Token → symbol.Meaning → Prop
  | .level tier, ts, tree => ∀ rest, tier.Stops rest →
      Descent ⟨.strict, implicit⟩ total (.level tier (ts ++ rest)) ⟨tree, none, rest⟩
  | .factor, ts, tree => ∀ first tail rest, ts = first :: tail → Level.power.Stops rest →
      Descent ⟨.strict, implicit⟩ total (.level (implicit.level first.kind) (ts ++ rest))
        ⟨tree, none, rest⟩
  | .chain, ts, extend => ∀ left rest, Level.product.Stops rest →
      Descent ⟨.strict, implicit⟩ total (.chain ⟨left, none, ts ++ rest⟩) ⟨extend left, none, rest⟩

theorem goes_on_factor {kind : Kind} (starts : kind.startsFactor = true) :
    Level.negation.goesOn kind = false := by
  cases kind <;> simp_all [Kind.startsFactor, Level.goesOn]

theorem goes_on_sign {op : Token} (sign : op.kind = .plus ∨ op.kind = .minus) :
    Level.product.goesOn op.kind = false := by
  rcases sign with sign | sign <;> rw [sign] <;> rfl

theorem Derivation.stops_before {ts : List Token} (factors : Derivation implicit .chain ts)
    (rest : List Token) : Level.negation.Stops (ts ++ rest) := by
  obtain ⟨first, tail, rfl, starts⟩ := factors.first
  exact Level.stops_cons.mpr (goes_on_factor starts)

theorem Derivation.stops_at {ts : List Token} (factors : Derivation implicit .chain ts) :
    Level.negation.Stops ts := by
  simpa using factors.stops_before []

theorem chain_ends {rest : List Token} (stops : Level.product.Stops rest) :
    ∀ op ∈ rest.head?, op.kind.startsFactor = false ∧ ¬ (implicit = .exponent ∧ op.kind = .dot) := by
  intro op first
  have last := stops op first
  simp_all [Level.goesOn]

theorem close_strict (tree : Formula) (rest : List Token) {closing : Token}
    (closes : closing.kind = .rightParen) :
    Reading.close .strict total ⟨tree, none, closing :: rest⟩ = ⟨tree, none, rest⟩ := by
  simp [Reading.close, closes]

theorem Derivation.accepted {symbol : Symbol} {ts : List Token} (derivation : Derivation implicit symbol ts) :
    Accepted implicit total symbol ts derivation.tree := by
  induction derivation with
  | product _ ih =>
      intro rest stops
      refine .sumEnds (ih rest stops.product_of_sum) ?_
      intro op first
      have last := stops op first
      simp_all [Level.goesOn]
  | sum left sign right first second =>
      intro rest stops
      rw [List.append_assoc]
      exact .sumGoesOn (first _ (Level.stops_cons.mpr (goes_on_sign sign))) rfl sign (second rest stops)
  | negation _ ih =>
      intro rest stops
      refine .productEnds (ih rest stops.negation_of_product) ?_
      intro op first
      have last := stops op first
      simp_all [Level.goesOn]
  | times left sign right first second =>
      intro rest stops
      rw [List.append_assoc]
      refine .productGoesOn (first _ (Level.stops_cons.mpr ?_)) rfl sign (second rest stops)
      rw [sign]
      rfl
  | @beside ts us left factors first second =>
      intro rest stops
      obtain ⟨token, tail, split, starts⟩ := factors.first
      have next : us ++ rest = token :: (tail ++ rest) := by rw [split, List.cons_append]
      rw [List.append_assoc]
      exact .productChains (first _ (factors.stops_before rest)) next starts (second _ rest stops)
  | power inner ih =>
      intro rest stops
      obtain ⟨token, tail, rfl, starts⟩ := inner.first
      refine .negationPasses (Formula.ahead_of_cons rfl ?_) (ih rest stops)
      rintro sign
      rw [sign] at starts
      cases starts
  | negate sign _ ih =>
      intro rest stops
      exact .negationGoesOn sign (ih rest stops)
  | quotient _ ih =>
      intro rest stops
      refine .powerEnds (ih rest (by simp [Level.Stops, Level.goesOn])) ?_
      intro op first
      have last := stops op first
      simp_all [Level.goesOn]
  | raise base sign exponent first second =>
      intro rest stops
      rw [List.append_assoc]
      exact .powerGoesOn (first _ (Level.stops_cons.mpr rfl)) rfl sign (second rest stops)
  | call inner ih =>
      intro rest stops
      obtain ⟨token, tail, rfl, starts⟩ := inner.first
      refine .quotientPasses (Formula.ahead_of_cons rfl ?_) (ih rest stops)
      rintro sign
      rw [sign] at starts
      cases starts
  | divide sign _ _ first second =>
      intro rest stops
      rw [List.cons_append, List.append_assoc]
      exact .quotientGoesOn sign (first _ (by simp [Level.Stops, Level.goesOn])) (second rest stops)
  | operand inner ih =>
      intro rest stops
      obtain ⟨token, tail, rfl, starts⟩ := inner.first
      refine .callPasses (Formula.ahead_of_cons rfl ?_) (ih rest stops)
      cases kind : token.kind <;> simp_all [Symbol.starts, Level.starts, Level.rank, Kind.isFunction]
  | apply function _ ih =>
      intro rest stops
      exact .callGoesOn function (ih rest stops)
  | literal kind =>
      intro rest _
      exact .literal ((Kind.is_literal_iff _).mpr kind)
  | name kind =>
      intro rest _
      exact .symbol ((Kind.is_name_iff _).mpr kind)
  | group opens inner closes ih =>
      intro rest _
      rw [List.cons_append, List.append_assoc]
      have read := ih (_ :: rest) (Level.stops_cons.mpr (by rw [closes]; rfl))
      exact close_strict inner.tree rest closes ▸ .group opens read
  | @operandFactor ts first mode starts inner ih =>
      rintro _ _ rest ⟨⟩ stops
      have level : implicit.level first.kind = .operand := by
        rcases starts with kind | kind | kind <;> simp [mode, kind, ImplicitFactor.level, Kind.isFunction]
      rw [level]
      exact ih rest (by simp [Level.Stops, Level.goesOn])
  | @callFactor ts op mode function inner ih =>
      rintro _ _ rest ⟨⟩ stops
      have level : implicit.level op.kind = .call := by simp [mode, ImplicitFactor.level, function]
      rw [level]
      exact .callGoesOn function (ih rest (by simp [Level.Stops, Level.goesOn]))
  | powerFactor mode starts inner ih =>
      intro first tail rest split stops
      have level : implicit.level first.kind = .power := by simp [mode, ImplicitFactor.level]
      rw [level]
      exact ih rest stops
  | last factor ih =>
      intro left rest stops
      obtain ⟨_, _, ⟨⟩, starts⟩ := factor.first
      exact .chainFactor rfl starts (ih _ _ rest rfl stops.negation_of_product)
        (.chainEnds (chain_ends stops))
  | next factor factors first second =>
      intro left rest stops
      obtain ⟨_, _, ⟨⟩, starts⟩ := factor.first
      rw [List.cons_append, List.append_assoc]
      exact .chainFactor rfl starts (first _ _ _ rfl (factors.stops_before rest)) (second _ rest stops)
  | lastTimes mode factor sign right first second =>
      intro left rest stops
      obtain ⟨_, _, ⟨⟩, starts⟩ := factor.first
      rw [List.cons_append, List.append_assoc]
      refine .chainFactor rfl starts (first _ _ _ rfl (Level.stops_cons.mpr ?_))
        (.chainGoesOn rfl mode sign (second rest stops))
      rw [sign]
      rfl

theorem factor_of_level {first : Token} {ts : List Token} {tier : Level}
    (starts : first.kind.startsFactor = true) (level : implicit.level first.kind = tier)
    (inner : Derivation implicit (.level tier) (first :: ts)) :
    ∃ factor : Derivation implicit .factor (first :: ts), factor.tree = inner.tree := by
  have kinds := (Kind.starts_factor_iff _).mp starts
  cases implicit with
  | exponent =>
      obtain rfl : tier = .power := level.symm
      exact ⟨.powerFactor rfl kinds inner, rfl⟩
  | primary =>
      by_cases function : first.kind.isFunction = true
      · obtain rfl : tier = .call := by simpa [ImplicitFactor.level, function] using level.symm
        cases inner with
        | operand inner =>
            obtain ⟨_, _, ⟨⟩, starts⟩ := inner.first
            cases kind : first.kind <;> simp_all [Symbol.starts, Level.starts, Level.rank, Kind.isFunction]
        | apply _ inner => exact ⟨.callFactor rfl function inner, rfl⟩
      · obtain rfl : tier = .operand := by simpa [ImplicitFactor.level, function] using level.symm
        have named : first.kind = .identifier ∨ first.kind = .parameter ∨ first.kind = .leftParen := by
          grind
        exact ⟨.operandFactor rfl named inner, rfl⟩

-- Where a reading without fault comes from. A chain that has read no factor yet may end at once, or
-- go on with a product sign.
def Sourced (implicit : ImplicitFactor) : Task → Reading → Prop
  | .level tier tokens, reading => ∃ ts, ∃ derivation : Derivation implicit (.level tier) ts,
      tokens = ts ++ reading.rest ∧ derivation.tree = reading.tree
  | .chain left, reading => left.fault = none ∧
      ((reading = left ∧ ∀ op ∈ left.rest.head?, op.kind.startsFactor = false) ∨
      (∃ ts, ∃ derivation : Derivation implicit .chain ts,
        left.rest = ts ++ reading.rest ∧ derivation.tree left.tree = reading.tree) ∨
      (∃ op ts, ∃ derivation : Derivation implicit (.level .product) ts,
        implicit = .exponent ∧ op.kind = .dot ∧ left.rest = op :: (ts ++ reading.rest) ∧
          .binary left.tree op derivation.tree = reading.tree))

theorem close_fault_none {inner : Reading} (fine : (inner.close .strict total).fault = none) :
    ∃ closing rest, inner.rest = closing :: rest ∧ closing.kind = .rightParen ∧
      inner.fault = none ∧ inner.close .strict total = ⟨inner.tree, none, rest⟩ := by
  obtain ⟨tree, fault, rest⟩ := inner
  cases rest with
  | nil => simp [Reading.close, Reading.fail] at fine
  | cons closing rest =>
      by_cases closes : closing.kind = .rightParen
      · simp only [Reading.close, closes, if_true] at fine ⊢
        exact ⟨closing, rest, rfl, closes, fine, by rw [fine]⟩
      · simp [Reading.close, Reading.fail, closes] at fine

theorem sourced_of_descent {task : Task} {reading : Reading}
    (descent : Descent ⟨.strict, implicit⟩ total task reading) (fine : reading.fault = none) :
    Sourced implicit task reading := by
  induction descent with
  | sumEnds _ _ ih =>
      obtain ⟨ts, inner, split, same⟩ := ih fine
      exact ⟨ts, .product inner, split, same⟩
  | sumGoesOn _ next sign _ first second =>
      obtain ⟨leftFine, rightFine⟩ := Option.or_eq_none_iff.mp fine
      obtain ⟨ts, left, split, same⟩ := first leftFine
      obtain ⟨us, right, rest, equal⟩ := second rightFine
      refine ⟨ts ++ _ :: us, .sum left sign right, ?_, ?_⟩
      · rw [split, next, rest, List.append_assoc]
        rfl
      · rw [Derivation.tree, same, equal]
        rfl
  | productEnds _ _ ih =>
      obtain ⟨ts, inner, split, same⟩ := ih fine
      exact ⟨ts, .negation inner, split, same⟩
  | productGoesOn _ next sign _ first second =>
      obtain ⟨leftFine, rightFine⟩ := Option.or_eq_none_iff.mp fine
      obtain ⟨ts, left, split, same⟩ := first leftFine
      obtain ⟨us, right, rest, equal⟩ := second rightFine
      refine ⟨ts ++ _ :: us, .times left sign right, ?_, ?_⟩
      · rw [split, next, rest, List.append_assoc]
        rfl
      · rw [Derivation.tree, same, equal]
        rfl
  | productChains _ next factor _ first second =>
      obtain ⟨leftFine, ended | ⟨us, factors, rest, equal⟩ | ⟨op, us, _, _, sign, rest, _⟩⟩ := second fine
      · exact absurd factor (Bool.eq_false_iff.mp (ended.2 _ (Formula.head_of_cons next)))
      · obtain ⟨ts, left, split, same⟩ := first leftFine
        refine ⟨ts ++ us, .beside left factors, ?_, ?_⟩
        · rw [split, rest, List.append_assoc]
        · rw [Derivation.tree, same, equal]
      · obtain ⟨rfl, -⟩ := List.cons.inj (next.symm.trans rest)
        rw [sign] at factor
        cases factor
  | negationPasses _ _ ih =>
      obtain ⟨ts, inner, split, same⟩ := ih fine
      exact ⟨ts, .power inner, split, same⟩
  | negationGoesOn sign _ ih =>
      obtain ⟨ts, inner, rfl, same⟩ := ih fine
      exact ⟨_ :: ts, .negate sign inner, rfl, by rw [Derivation.tree, same]; rfl⟩
  | powerEnds _ _ ih =>
      obtain ⟨ts, inner, split, same⟩ := ih fine
      exact ⟨ts, .quotient inner, split, same⟩
  | powerGoesOn _ next sign _ first second =>
      obtain ⟨leftFine, rightFine⟩ := Option.or_eq_none_iff.mp fine
      obtain ⟨ts, left, split, same⟩ := first leftFine
      obtain ⟨us, right, rest, equal⟩ := second rightFine
      refine ⟨ts ++ _ :: us, .raise left sign right, ?_, ?_⟩
      · rw [split, next, rest, List.append_assoc]
        rfl
      · rw [Derivation.tree, same, equal]
        rfl
  | quotientPasses _ _ ih =>
      obtain ⟨ts, inner, split, same⟩ := ih fine
      exact ⟨ts, .call inner, split, same⟩
  | quotientGoesOn sign _ _ first second =>
      obtain ⟨leftFine, rightFine⟩ := Option.or_eq_none_iff.mp fine
      obtain ⟨ts, left, split, same⟩ := first leftFine
      obtain ⟨us, right, rest, equal⟩ := second rightFine
      refine ⟨_ :: (ts ++ us), .divide sign left right, ?_, ?_⟩
      · rw [split, rest, List.cons_append, List.append_assoc]
        rfl
      · rw [Derivation.tree, same, equal]
        rfl
  | callPasses _ _ ih =>
      obtain ⟨ts, inner, split, same⟩ := ih fine
      exact ⟨ts, .operand inner, split, same⟩
  | callGoesOn function _ ih =>
      obtain ⟨ts, inner, rfl, same⟩ := ih fine
      exact ⟨_ :: ts, .apply function inner, rfl, by rw [Derivation.tree, same]; rfl⟩
  | literal literal => exact ⟨_, .literal ((Kind.is_literal_iff _).mp literal), rfl, rfl⟩
  | symbol named => exact ⟨_, .name ((Kind.is_name_iff _).mp named), rfl, rfl⟩
  | group opens _ ih =>
      obtain ⟨closing, rest, next, closes, innerFine, closed⟩ := close_fault_none fine
      obtain ⟨ts, inner, split, same⟩ := ih innerFine
      refine ⟨_ :: (ts ++ [closing]), .group opens inner closes, ?_, ?_⟩
      · rw [split, next, closed, List.cons_append, List.append_assoc]
        rfl
      · rw [Derivation.tree, same, closed]
  | missing => cases fine
  | misplaced _ => cases fine
  | chainEnds ends => exact ⟨fine, .inl ⟨rfl, fun op first => (ends op first).1⟩⟩
  | @chainFactor left right whole token rest next factor _ _ first second =>
      obtain ⟨joinedFine, outcome⟩ := second fine
      obtain ⟨leftFine, rightFine⟩ := Option.or_eq_none_iff.mp joinedFine
      obtain ⟨ts, inner, split, same⟩ := first rightFine
      obtain ⟨_, tail, rfl, _⟩ := inner.first
      obtain ⟨rfl, rfl⟩ := List.cons.inj split
      obtain ⟨joined, equal⟩ := factor_of_level factor rfl inner
      refine ⟨leftFine, .inr (.inl ?_)⟩
      rcases outcome with ⟨rfl, _⟩ | ⟨us, factors, more, chained⟩ | ⟨op, us, product, mode, sign, more, times⟩
      · refine ⟨_, .last joined, next, ?_⟩
        rw [Derivation.tree, equal, same]
        rfl
      · refine ⟨_, .next joined factors, ?_, ?_⟩
        · rw [next, List.cons_append, List.append_assoc, ← more]
          rfl
        · rw [Derivation.tree, equal, same]
          exact chained
      · refine ⟨_, .lastTimes mode joined sign product, ?_, ?_⟩
        · rw [next, List.cons_append, List.append_assoc, List.cons_append, ← more]
          rfl
        · rw [Derivation.tree, equal, same]
          exact times
  | chainGoesOn next exponent sign _ ih =>
      obtain ⟨leftFine, rightFine⟩ := Option.or_eq_none_iff.mp fine
      obtain ⟨ts, right, split, same⟩ := ih rightFine
      refine ⟨leftFine, .inr (.inr ⟨_, ts, right, exponent, sign, ?_, ?_⟩)⟩
      · rw [next, split]
        rfl
      · rw [same]
        rfl

end Grammar

end EscapeTime
