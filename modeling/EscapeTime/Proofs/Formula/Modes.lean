import EscapeTime.Markup
import EscapeTime.Proofs.Formula.Unambiguous

set_option autoImplicit false

namespace EscapeTime

namespace Grammar

def Derivation.alone {implicit : ImplicitFactor} {ts : List Token} (inner : Derivation implicit (.level .operand) ts) :
    Derivation implicit (.level .power) ts :=
  .quotient (.call (.operand inner))

-- The same derivation where factors are powers: an operand or a call is a power that stops at once.
def Derivation.powers {symbol : Symbol} {ts : List Token} :
    Derivation .primary symbol ts → Derivation .exponent symbol ts
  | product inner => .product inner.powers
  | sum left sign right => .sum left.powers sign right.powers
  | negation inner => .negation inner.powers
  | times left sign right => .times left.powers sign right.powers
  | beside left factors => .beside left.powers factors.powers
  | power inner => .power inner.powers
  | negate sign inner => .negate sign inner.powers
  | quotient inner => .quotient inner.powers
  | raise base sign exponent => .raise base.powers sign exponent.powers
  | call inner => .call inner.powers
  | divide sign numerator denominator => .divide sign numerator.powers denominator.powers
  | operand inner => .operand inner.powers
  | apply function inner => .apply function inner.powers
  | literal kind => .literal kind
  | name kind => .name kind
  | group opens inner closes => .group opens inner.powers closes
  | operandFactor _ starts inner => .powerFactor rfl (by grind) inner.powers.alone
  | callFactor _ function inner =>
      .powerFactor rfl (.inr (.inr (.inr function))) (.quotient (.call (.apply function inner.powers)))
  | powerFactor mode _ _ => nomatch mode
  | last factor => .last factor.powers
  | next factor factors => .next factor.powers factors.powers
  | lastTimes mode _ _ _ => nomatch mode

theorem Derivation.tree_powers {symbol : Symbol} {ts : List Token} (derivation : Derivation .primary symbol ts) :
    derivation.powers.tree = derivation.tree := by
  induction derivation with
  | powerFactor mode _ _ | lastTimes mode _ _ _ => cases mode
  | literal _ | name _ => rfl
  | _ => simp_all only [powers, alone, tree]

end Grammar

namespace Formula

open Grammar

theorem close_lenient {total : Nat} {inner : Reading} (fine : (inner.close .strict total).fault = none) :
    inner.close .lenient total = inner.close .strict total := by
  obtain ⟨closing, rest, next, -, whole, closed⟩ := close_fault_none fine
  rw [closed, Reading.close, next, whole]
  rfl

-- Each step of a strict reading without fault is a lenient step: a group ends with its delimiter, and that
-- is the token which lenient grouping passes over.
theorem Descent.lenient {implicit : ImplicitFactor} {total : Nat} {task : Task} {reading : Reading}
    (descent : Descent ⟨.strict, implicit⟩ total task reading) (fine : reading.fault = none) :
    Descent ⟨.lenient, implicit⟩ total task reading := by
  induction descent with
  | sumEnds _ ends first => exact .sumEnds (first fine) ends
  | sumGoesOn _ next sign _ first second =>
      obtain ⟨leftFine, rightFine⟩ := Option.or_eq_none_iff.mp fine
      exact .sumGoesOn (first leftFine) next sign (second rightFine)
  | productEnds _ ends first => exact .productEnds (first fine) ends
  | productGoesOn _ next sign _ first second =>
      obtain ⟨leftFine, rightFine⟩ := Option.or_eq_none_iff.mp fine
      exact .productGoesOn (first leftFine) next sign (second rightFine)
  | productChains _ next factor chained first second =>
      have leftFine := (sourced_of_descent chained fine).1
      exact .productChains (first leftFine) next factor (second fine)
  | negationPasses ends _ first => exact .negationPasses ends (first fine)
  | negationGoesOn sign _ first => exact .negationGoesOn sign (first fine)
  | powerEnds _ ends first => exact .powerEnds (first fine) ends
  | powerGoesOn _ next sign _ first second =>
      obtain ⟨baseFine, exponentFine⟩ := Option.or_eq_none_iff.mp fine
      exact .powerGoesOn (first baseFine) next sign (second exponentFine)
  | quotientPasses ends _ first => exact .quotientPasses ends (first fine)
  | quotientGoesOn sign _ _ first second =>
      obtain ⟨numeratorFine, denominatorFine⟩ := Option.or_eq_none_iff.mp fine
      exact .quotientGoesOn sign (first numeratorFine) (second denominatorFine)
  | callPasses ends _ first => exact .callPasses ends (first fine)
  | callGoesOn function _ first => exact .callGoesOn function (first fine)
  | literal literal => exact .literal literal
  | symbol named => exact .symbol named
  | group opens _ first =>
      obtain ⟨_, _, _, _, innerFine, _⟩ := close_fault_none fine
      exact close_lenient fine ▸ .group opens (first innerFine)
  | missing => cases fine
  | misplaced _ => cases fine
  | chainEnds ends => exact .chainEnds ends
  | chainFactor next factor _ chained first second =>
      have joinedFine := (sourced_of_descent chained fine).1
      exact .chainFactor next factor (first (Option.or_eq_none_iff.mp joinedFine).2) (second fine)
  | chainGoesOn next exponent sign _ second =>
      exact .chainGoesOn next exponent sign (second (Option.or_eq_none_iff.mp fine).2)

theorem parse_of_derivation {implicit : ImplicitFactor} {tokens : List Token} (grouping : Grouping)
    (derivation : Derivation implicit (.level .sum) tokens) :
    parse ⟨grouping, implicit⟩ tokens = ⟨derivation.tree, true, none⟩ := by
  have accepted : Accepted implicit tokens.length _ tokens derivation.tree := derivation.accepted
  have strict := accepted [] (Level.stops_nil _)
  rw [List.append_nil] at strict
  cases grouping with
  | strict => simp [parse, readAll, read_of_descent strict]
  | lenient => simp [parse, readAll, read_of_descent (strict.lenient rfl)]

theorem derivation_of_valid {implicit : ImplicitFactor} {tokens : List Token}
    (valid : (parse ⟨.strict, implicit⟩ tokens).valid = true) :
    Nonempty (Derivation implicit (.level .sum) tokens) := by
  obtain ⟨fine, ended⟩ := read_all_fine (Option.isNone_iff_eq_none.mp valid)
  obtain ⟨ts, derivation, split, -⟩ := sourced_of_descent (read_descent _ tokens.length .sum tokens) fine
  rw [ended, List.append_nil] at split
  exact ⟨split ▸ derivation⟩

theorem parse_modes_agree (tokens : List Token) :
    ((parse ⟨.strict, .primary⟩ tokens).valid = true →
      ∀ mode, parse mode tokens = ⟨(parse ⟨.strict, .primary⟩ tokens).tree, true, none⟩) ∧
    ∀ implicit, (parse ⟨.strict, implicit⟩ tokens).valid = true →
      parse ⟨.lenient, implicit⟩ tokens = parse ⟨.strict, implicit⟩ tokens := by
  refine ⟨fun valid mode => ?_, fun implicit valid => ?_⟩
  · obtain ⟨derivation⟩ := derivation_of_valid valid
    obtain ⟨grouping, implicit⟩ := mode
    rw [parse_of_derivation .strict derivation]
    cases implicit with
    | primary => exact parse_of_derivation grouping derivation
    | exponent => rw [parse_of_derivation grouping derivation.powers, derivation.tree_powers]
  · obtain ⟨derivation⟩ := derivation_of_valid valid
    rw [parse_of_derivation .lenient derivation, parse_of_derivation .strict derivation]

-- The second list is a product of powers, which only one kind of factor admits.
theorem parse_modes_agree_nested :
    let tokens := (Markup.scan .standard "-2a\\sin{b^x(c-1)}+\\frac 3i z").tokens
    let powers := (Markup.scan .standard "2z^2").tokens
    ((parse ⟨.strict, .primary⟩ tokens).valid = true ∧
      ∀ mode, parse mode tokens = ⟨(parse ⟨.strict, .primary⟩ tokens).tree, true, none⟩) ∧
    (parse ⟨.strict, .primary⟩ powers).valid = false ∧ (parse ⟨.strict, .exponent⟩ powers).valid = true ∧
      parse ⟨.lenient, .exponent⟩ powers = parse ⟨.strict, .exponent⟩ powers := by
  intro tokens powers
  have narrow : (parse ⟨.strict, .primary⟩ tokens).valid = true := by decide +kernel
  have wide : (parse ⟨.strict, .exponent⟩ powers).valid = true := by decide +kernel
  exact ⟨⟨narrow, (parse_modes_agree tokens).1 narrow⟩, by decide +kernel, wide,
    (parse_modes_agree powers).2 .exponent wide⟩

end Formula

end EscapeTime
