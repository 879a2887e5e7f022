import EscapeTime.Proofs.Formula.Modes
import EscapeTime.Proofs.Formula.Written

set_option autoImplicit false

namespace EscapeTime

namespace Grammar

variable {implicit : ImplicitFactor}

theorem alike_append {us ts more : List Token} (same : us.map Token.kind = (ts ++ more).map Token.kind) :
    ∃ front back, us = front ++ back ∧ front.map Token.kind = ts.map Token.kind ∧
      back.map Token.kind = more.map Token.kind := by
  rw [List.map_append] at same
  exact List.map_eq_append_iff.mp same

theorem alike_cons {us ts : List Token} {token : Token} (same : us.map Token.kind = (token :: ts).map Token.kind) :
    ∃ first back, us = first :: back ∧ first.kind = token.kind ∧ back.map Token.kind = ts.map Token.kind := by
  rw [List.map_cons] at same
  exact List.map_eq_cons_iff.mp same

-- The grammar speaks of kinds only.
theorem Derivation.alike {symbol : Symbol} {ts us : List Token} (derivation : Derivation implicit symbol ts)
    (same : us.map Token.kind = ts.map Token.kind) : Nonempty (Derivation implicit symbol us) := by
  induction derivation generalizing us with
  | product _ ih =>
      obtain ⟨inner⟩ := ih same
      exact ⟨.product inner⟩
  | sum _ sign _ first second =>
      obtain ⟨front, back, rfl, before, behind⟩ := alike_append same
      obtain ⟨op, back, rfl, kind, behind⟩ := alike_cons behind
      obtain ⟨left⟩ := first before
      obtain ⟨right⟩ := second behind
      exact ⟨.sum left (kind ▸ sign) right⟩
  | negation _ ih =>
      obtain ⟨inner⟩ := ih same
      exact ⟨.negation inner⟩
  | times _ sign _ first second =>
      obtain ⟨front, back, rfl, before, behind⟩ := alike_append same
      obtain ⟨op, back, rfl, kind, behind⟩ := alike_cons behind
      obtain ⟨left⟩ := first before
      obtain ⟨right⟩ := second behind
      exact ⟨.times left (kind ▸ sign) right⟩
  | beside _ _ first second =>
      obtain ⟨front, back, rfl, before, behind⟩ := alike_append same
      obtain ⟨left⟩ := first before
      obtain ⟨factors⟩ := second behind
      exact ⟨.beside left factors⟩
  | power _ ih =>
      obtain ⟨inner⟩ := ih same
      exact ⟨.power inner⟩
  | negate sign _ ih =>
      obtain ⟨op, back, rfl, kind, behind⟩ := alike_cons same
      obtain ⟨inner⟩ := ih behind
      exact ⟨.negate (kind ▸ sign) inner⟩
  | quotient _ ih =>
      obtain ⟨inner⟩ := ih same
      exact ⟨.quotient inner⟩
  | raise _ sign _ first second =>
      obtain ⟨front, back, rfl, before, behind⟩ := alike_append same
      obtain ⟨op, back, rfl, kind, behind⟩ := alike_cons behind
      obtain ⟨base⟩ := first before
      obtain ⟨exponent⟩ := second behind
      exact ⟨.raise base (kind ▸ sign) exponent⟩
  | call _ ih =>
      obtain ⟨inner⟩ := ih same
      exact ⟨.call inner⟩
  | divide sign _ _ first second =>
      obtain ⟨op, tail, rfl, kind, behind⟩ := alike_cons same
      obtain ⟨front, back, rfl, before, behind⟩ := alike_append behind
      obtain ⟨numerator⟩ := first before
      obtain ⟨denominator⟩ := second behind
      exact ⟨.divide (kind ▸ sign) numerator denominator⟩
  | operand _ ih =>
      obtain ⟨inner⟩ := ih same
      exact ⟨.operand inner⟩
  | apply function _ ih =>
      obtain ⟨op, back, rfl, kind, behind⟩ := alike_cons same
      obtain ⟨inner⟩ := ih behind
      exact ⟨.apply (kind ▸ function) inner⟩
  | literal literal =>
      obtain ⟨token, back, rfl, kind, behind⟩ := alike_cons same
      obtain rfl := List.map_eq_nil_iff.mp behind
      exact ⟨.literal (kind ▸ literal)⟩
  | name named =>
      obtain ⟨token, back, rfl, kind, behind⟩ := alike_cons same
      obtain rfl := List.map_eq_nil_iff.mp behind
      exact ⟨.name (kind ▸ named)⟩
  | group opens _ closes ih =>
      obtain ⟨opening, tail, rfl, opened, behind⟩ := alike_cons same
      obtain ⟨front, back, rfl, before, behind⟩ := alike_append behind
      obtain ⟨closing, back, rfl, closed, behind⟩ := alike_cons behind
      obtain rfl := List.map_eq_nil_iff.mp behind
      obtain ⟨inner⟩ := ih before
      exact ⟨.group (opened ▸ opens) inner (closed ▸ closes)⟩
  | operandFactor mode starts _ ih =>
      obtain ⟨first, back, rfl, kind, behind⟩ := alike_cons same
      obtain ⟨inner⟩ := ih same
      exact ⟨.operandFactor mode (kind ▸ starts) inner⟩
  | callFactor mode function _ ih =>
      obtain ⟨op, back, rfl, kind, behind⟩ := alike_cons same
      obtain ⟨inner⟩ := ih behind
      exact ⟨.callFactor mode (kind ▸ function) inner⟩
  | powerFactor mode starts _ ih =>
      obtain ⟨first, back, rfl, kind, behind⟩ := alike_cons same
      obtain ⟨inner⟩ := ih same
      exact ⟨.powerFactor mode (kind ▸ starts) inner⟩
  | last _ ih =>
      obtain ⟨first, back, rfl, kind, behind⟩ := alike_cons same
      obtain ⟨factor⟩ := ih same
      exact ⟨.last factor⟩
  | next _ _ first second =>
      rw [← List.cons_append] at same
      obtain ⟨front, back, rfl, before, behind⟩ := alike_append same
      obtain ⟨factor⟩ := first before
      obtain ⟨factors⟩ := second behind
      obtain ⟨token, front, rfl, -, -⟩ := alike_cons before
      exact ⟨.next factor factors⟩
  | lastTimes mode _ sign _ first second =>
      rw [← List.cons_append] at same
      obtain ⟨front, back, rfl, before, behind⟩ := alike_append same
      obtain ⟨op, back, rfl, kind, behind⟩ := alike_cons behind
      obtain ⟨factor⟩ := first before
      obtain ⟨right⟩ := second behind
      obtain ⟨token, front, rfl, -, -⟩ := alike_cons before
      exact ⟨.lastTimes mode factor (kind ▸ sign) right⟩

end Grammar

namespace Formula

open Grammar

variable {implicit : ImplicitFactor} {total : Nat}

def Task.on (tokens : List Token) : Task → Task
  | .level tier _ => .level tier tokens
  | .chain left => .chain ⟨left.tree, none, tokens⟩

-- Whatever stands behind the first token of the rest, the task is done in the same way and stops there.
def Settled (implicit : ImplicitFactor) (task : Task) (reading : Reading) : Prop :=
  ∃ read, task.tokens = read ++ reading.rest ∧
    ∀ token tail, reading.rest = token :: tail → ∀ total more,
      Descent ⟨.strict, implicit⟩ total (task.on (read ++ token :: more)) ⟨reading.tree, none, token :: more⟩

theorem first_again (read : List Token) (token : Token) (tail more : List Token) :
    ∃ first rest others, read ++ token :: tail = first :: rest ∧ read ++ token :: more = first :: others := by
  cases read with
  | nil => exact ⟨token, tail, more, rfl, rfl⟩
  | cons first read => exact ⟨first, _, _, rfl, rfl⟩

theorem Settled.within {task outer : Task} {reading whole : Reading} (front : List Token)
    (settled : Settled implicit task reading) (tokens : outer.tokens = front ++ task.tokens)
    (rest : whole.rest = reading.rest)
    (builds : ∀ total token tail more first rest others, reading.rest = token :: tail → task.tokens = first :: rest →
      Descent ⟨.strict, implicit⟩ total (task.on (first :: others)) ⟨reading.tree, none, token :: more⟩ →
      Descent ⟨.strict, implicit⟩ total (outer.on (front ++ first :: others)) ⟨whole.tree, none, token :: more⟩) :
    Settled implicit outer whole := by
  obtain ⟨read, split, again⟩ := settled
  refine ⟨front ++ read, by rw [tokens, split, rest, List.append_assoc], fun token tail last total more => ?_⟩
  rw [rest] at last
  rw [last] at split
  obtain ⟨first, behind, others, same, other⟩ := first_again read token tail more
  have step := again token tail last total more
  rw [other] at step
  rw [List.append_assoc, other]
  exact builds total token tail more first behind others last (split.trans same) step

def Joins (implicit : ImplicitFactor) (inner outer : Level) (op : Token) : Prop :=
  ∀ {total : Nat} {tokens rest : List Token} {left right : Reading},
    Descent ⟨.strict, implicit⟩ total (.level inner tokens) left → left.rest = op :: rest →
    Descent ⟨.strict, implicit⟩ total (.level outer rest) right →
    Descent ⟨.strict, implicit⟩ total (.level outer tokens) (left.binary op right)

theorem Settled.beyond {inner outer : Level} {tokens rest : List Token} {left right : Reading} {op : Token}
    (second : Settled implicit (.level outer rest) right) (first : Settled implicit (.level inner tokens) left)
    (next : left.rest = op :: rest) (joins : Joins implicit inner outer op) :
    Settled implicit (.level outer tokens) (left.binary op right) := by
  obtain ⟨before, split, again⟩ := first
  refine second.within (before ++ [op]) (by simpa [Task.tokens, next] using split) rfl
    fun total _ _ _ _ _ _ _ _ step => ?_
  rw [List.append_assoc]
  exact joins (again op rest next total _) rfl step

theorem settled_of_descent {task : Task} {reading : Reading}
    (descent : Descent ⟨.strict, implicit⟩ total task reading) (fine : reading.fault = none) :
    Settled implicit task reading := by
  induction descent with
  | sumEnds _ ends first =>
      refine (first fine).within [] rfl rfl fun total token _ _ _ _ _ last _ step => ?_
      exact .sumEnds step (ahead_of_cons rfl (ends token (head_of_cons last)))
  | sumGoesOn _ next sign _ first second =>
      obtain ⟨leftFine, rightFine⟩ := Option.or_eq_none_iff.mp fine
      exact (second rightFine).beyond (first leftFine) next fun left next right => .sumGoesOn left next sign right
  | productEnds _ ends first =>
      refine (first fine).within [] rfl rfl fun total token _ _ _ _ _ last _ step => ?_
      exact .productEnds step (ahead_of_cons rfl (ends token (head_of_cons last)))
  | productGoesOn _ next sign _ first second =>
      obtain ⟨leftFine, rightFine⟩ := Option.or_eq_none_iff.mp fine
      exact (second rightFine).beyond (first leftFine) next fun left next right => .productGoesOn left next sign right
  | @productChains tokens rest left whole op _ next factor chained first second =>
      obtain ⟨before, split, again⟩ := first (sourced_of_descent chained fine).1
      refine (second fine).within before split rfl fun total _ _ _ head _ others _ same step => ?_
      obtain ⟨rfl, -⟩ := List.cons.inj (next.symm.trans same)
      exact .productChains (again op rest next total others) rfl factor step
  | negationPasses ends _ first =>
      refine (first fine).within [] rfl rfl fun total _ _ _ head _ _ _ same step => ?_
      exact .negationPasses (ahead_of_cons rfl (ends head (head_of_cons same))) step
  | @negationGoesOn rest inner op sign _ first =>
      exact (first fine).within [op] rfl rfl fun total _ _ _ _ _ _ _ _ step => .negationGoesOn sign step
  | powerEnds _ ends first =>
      refine (first fine).within [] rfl rfl fun total token _ _ _ _ _ last _ step => ?_
      exact .powerEnds step (ahead_of_cons rfl (ends token (head_of_cons last)))
  | powerGoesOn _ next sign _ first second =>
      obtain ⟨leftFine, rightFine⟩ := Option.or_eq_none_iff.mp fine
      exact (second rightFine).beyond (first leftFine) next fun left next right => .powerGoesOn left next sign right
  | quotientPasses ends _ first =>
      refine (first fine).within [] rfl rfl fun total _ _ _ head _ _ _ same step => ?_
      exact .quotientPasses (ahead_of_cons rfl (ends head (head_of_cons same))) step
  | @quotientGoesOn rest numerator denominator op sign _ _ first second =>
      obtain ⟨leftFine, rightFine⟩ := Option.or_eq_none_iff.mp fine
      obtain ⟨before, split, again⟩ := first leftFine
      refine (second rightFine).within (op :: before) (congrArg (op :: ·) split) rfl
        fun total _ _ _ head behind others _ same step => ?_
      exact .quotientGoesOn sign (again head behind same total others) step
  | callPasses ends _ first =>
      refine (first fine).within [] rfl rfl fun total _ _ _ head _ _ _ same step => ?_
      exact .callPasses (ahead_of_cons rfl (ends head (head_of_cons same))) step
  | @callGoesOn rest inner op function _ first =>
      exact (first fine).within [op] rfl rfl fun total _ _ _ _ _ _ _ _ step => .callGoesOn function step
  | @literal rest token literal => exact ⟨[token], rfl, fun _ _ _ _ _ => .literal literal⟩
  | @symbol rest token named => exact ⟨[token], rfl, fun _ _ _ _ _ => .symbol named⟩
  | @group rest inner token opens _ first =>
      obtain ⟨closing, behind, next, closes, innerFine, closed⟩ := close_fault_none fine
      obtain ⟨read, split, again⟩ := first innerFine
      rw [closed]
      refine ⟨token :: (read ++ [closing]), ?_, fun last tail ends total more => ?_⟩
      · simpa [Task.tokens, next] using split
      · have step := again closing behind next total (last :: more)
        rw [List.cons_append, List.append_assoc]
        exact close_strict inner.tree (last :: more) closes ▸ .group opens step
  | missing => cases fine
  | misplaced _ => cases fine
  | chainEnds ends =>
      exact ⟨[], rfl, fun token _ last _ _ => .chainEnds (ahead_of_cons rfl (ends token (head_of_cons last)))⟩
  | @chainFactor left right whole token rest next factor _ chained first second =>
      obtain ⟨-, rightFine⟩ := Option.or_eq_none_iff.mp (sourced_of_descent chained fine).1
      obtain ⟨before, split, again⟩ := first rightFine
      refine (second fine).within before (next.trans split) rfl fun total _ _ _ head behind others _ same step => ?_
      have moved := again head behind same total others
      obtain ⟨start, behind, others, here, there⟩ := first_again before head behind others
      obtain rfl : token = start := (List.cons.inj ((split.trans (congrArg _ same)).trans here)).1
      rw [there] at moved ⊢
      exact .chainFactor rfl factor moved step
  | @chainGoesOn left right op rest next exponent sign _ second =>
      obtain ⟨-, rightFine⟩ := Option.or_eq_none_iff.mp fine
      refine (second rightFine).within [op] next rfl fun total _ _ _ _ _ _ _ _ step => ?_
      exact .chainGoesOn rfl exponent sign step

end Formula

end EscapeTime
