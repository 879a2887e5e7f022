import EscapeTime.Proofs.Formula.Acceptance

set_option autoImplicit false

namespace EscapeTime.Grammar

open Formula

variable {implicit : ImplicitFactor} {total : Nat}

-- Reading is a function, so tokens split in one way into those of a derivation and a rest at which its
-- level stops.
theorem level_split {tier : Level} {ts us rest more : List Token}
    (left : Derivation implicit (.level tier) ts) (right : Derivation implicit (.level tier) us)
    (same : ts ++ rest = us ++ more) (stops : tier.Stops rest) (others : tier.Stops more) :
    ts = us ∧ rest = more := by
  have first : Accepted implicit 0 _ ts left.tree := left.accepted
  have second : Accepted implicit 0 _ us right.tree := right.accepted
  have readings := (same ▸ first rest stops).unique (second more others)
  obtain rfl : rest = more := congrArg Reading.rest readings
  exact ⟨List.append_cancel_right same, rfl⟩

theorem factor_split {first other : Token} {ts us rest more : List Token}
    (left : Derivation implicit .factor (first :: ts)) (right : Derivation implicit .factor (other :: us))
    (same : first :: (ts ++ rest) = other :: (us ++ more)) (stops : Level.power.Stops rest)
    (others : Level.power.Stops more) : first = other ∧ ts = us ∧ rest = more := by
  obtain ⟨rfl, tails⟩ := List.cons.inj same
  have read : Accepted implicit 0 .factor (first :: ts) left.tree := left.accepted
  have again : Accepted implicit 0 .factor (first :: us) right.tree := right.accepted
  have left := read first ts rest rfl stops
  rw [List.cons_append, tails] at left
  have readings := left.unique (again first us more rfl others)
  obtain rfl : rest = more := congrArg Reading.rest readings
  exact ⟨rfl, List.append_cancel_right tails, rfl⟩

theorem operator_split {tier : Level} {ts us rest more : List Token} {op other : Token}
    (left : Derivation implicit (.level tier) ts) (right : Derivation implicit (.level tier) us)
    (same : ts ++ op :: rest = us ++ other :: more) (stops : tier.goesOn op.kind = false)
    (others : tier.goesOn other.kind = false) : ts = us ∧ op = other ∧ rest = more := by
  obtain ⟨tokens, rests⟩ := level_split left right same (Level.stops_cons.mpr stops)
    (Level.stops_cons.mpr others)
  exact ⟨tokens, List.cons.inj rests⟩

theorem no_operator {tier : Level} {ts us rest : List Token} {op : Token}
    (left : Derivation implicit (.level tier) ts) (right : Derivation implicit (.level tier) us)
    (same : ts = us ++ op :: rest) (stops : tier.goesOn op.kind = false) : False := by
  obtain ⟨-, rests⟩ := level_split left right ((List.append_nil ts).trans same) (Level.stops_nil tier)
    (Level.stops_cons.mpr stops)
  cases rests

theorem no_factor {first other : Token} {ts us rest : List Token}
    (left : Derivation implicit .factor (first :: ts)) (right : Derivation implicit .factor (other :: us))
    (same : first :: ts = other :: (us ++ rest)) (present : rest ≠ []) (stops : Level.power.Stops rest) :
    False := by
  have padded : first :: (ts ++ []) = other :: (us ++ rest) := by rw [List.append_nil, same]
  obtain ⟨-, -, rests⟩ := factor_split left right padded (Level.stops_nil _) stops
  exact present rests.symm

theorem Derivation.first_starts {symbol : Symbol} {token : Token} {ts us : List Token}
    (derivation : Derivation implicit symbol us) (same : us = token :: ts) : symbol.starts token.kind = true := by
  obtain ⟨_, _, split, starts⟩ := derivation.first
  obtain ⟨rfl, -⟩ := List.cons.inj (split.symm.trans same)
  exact starts

theorem dot_starts_factor {op : Token} (sign : op.kind = .dot) (starts : op.kind.startsFactor = true) : False := by
  rw [sign] at starts
  cases starts

theorem operand_function {kind : Kind} (starts : Level.operand.starts kind = true)
    (function : kind.isFunction = true) : False := by
  cases kind <;> simp_all [Level.starts, Level.rank, Kind.isFunction]

theorem Derivation.unique {symbol : Symbol} {ts us : List Token} (left : Derivation implicit symbol ts)
    (right : Derivation implicit symbol us) (same : ts = us) : HEq left right := by
  induction left generalizing us with
  | product inner ih =>
      cases right with
      | product other =>
          obtain rfl := same
          rw [eq_of_heq (ih other rfl)]
      | sum left sign _ => exact (no_operator inner left same (goes_on_sign sign)).elim
  | sum left sign _ first second =>
      cases right with
      | product other => exact (no_operator other left same.symm (goes_on_sign sign)).elim
      | sum other also more =>
          obtain ⟨rfl, rfl, rfl⟩ := operator_split left other same (goes_on_sign sign) (goes_on_sign also)
          rw [eq_of_heq (first other rfl), eq_of_heq (second more rfl)]
  | negation inner ih =>
      cases right with
      | negation other =>
          obtain rfl := same
          rw [eq_of_heq (ih other rfl)]
      | times left sign _ => exact (no_operator inner left same (by rw [sign]; rfl)).elim
      | beside left factors =>
          obtain ⟨_, _, rfl, starts⟩ := factors.first
          exact (no_operator inner left same (goes_on_factor starts)).elim
  | times left sign _ first second =>
      cases right with
      | negation other => exact (no_operator other left same.symm (by rw [sign]; rfl)).elim
      | times other also more =>
          obtain ⟨rfl, rfl, rfl⟩ := operator_split left other same (by rw [sign]; rfl) (by rw [also]; rfl)
          rw [eq_of_heq (first other rfl), eq_of_heq (second more rfl)]
      | beside other factors =>
          obtain ⟨_, _, rfl, starts⟩ := factors.first
          obtain ⟨-, rfl, -⟩ := operator_split left other same (by rw [sign]; rfl) (goes_on_factor starts)
          exact (dot_starts_factor sign starts).elim
  | beside left factors first second =>
      cases right with
      | negation other =>
          obtain ⟨_, _, rfl, starts⟩ := factors.first
          exact (no_operator other left same.symm (goes_on_factor starts)).elim
      | times other sign _ =>
          obtain ⟨_, _, rfl, starts⟩ := factors.first
          obtain ⟨-, rfl, -⟩ := operator_split left other same (goes_on_factor starts) (by rw [sign]; rfl)
          exact (dot_starts_factor sign starts).elim
      | beside other more =>
          obtain ⟨rfl, rfl⟩ := level_split left other same factors.stops_at more.stops_at
          rw [eq_of_heq (first other rfl), eq_of_heq (second more rfl)]
  | power inner ih =>
      cases right with
      | power other =>
          obtain rfl := same
          rw [eq_of_heq (ih other rfl)]
      | negate sign _ =>
          have starts := inner.first_starts same
          rw [sign] at starts
          cases starts
  | negate sign _ ih =>
      cases right with
      | power other =>
          have starts := other.first_starts same.symm
          rw [sign] at starts
          cases starts
      | negate _ other =>
          obtain ⟨rfl, rfl⟩ := List.cons.inj same
          rw [eq_of_heq (ih other rfl)]
  | quotient inner ih =>
      cases right with
      | quotient other =>
          obtain rfl := same
          rw [eq_of_heq (ih other rfl)]
      | raise base _ _ => exact (no_operator inner base same rfl).elim
  | raise base _ _ first second =>
      cases right with
      | quotient other => exact (no_operator other base same.symm rfl).elim
      | raise other _ more =>
          obtain ⟨rfl, rfl, rfl⟩ := operator_split base other same rfl rfl
          rw [eq_of_heq (first other rfl), eq_of_heq (second more rfl)]
  | call inner ih =>
      cases right with
      | call other =>
          obtain rfl := same
          rw [eq_of_heq (ih other rfl)]
      | divide sign _ _ =>
          have starts := inner.first_starts same
          rw [sign] at starts
          cases starts
  | divide sign numerator _ first second =>
      cases right with
      | call other =>
          have starts := other.first_starts same.symm
          rw [sign] at starts
          cases starts
      | divide _ other more =>
          obtain ⟨rfl, tails⟩ := List.cons.inj same
          obtain ⟨rfl, rfl⟩ := level_split numerator other tails (by simp [Level.Stops, Level.goesOn])
            (by simp [Level.Stops, Level.goesOn])
          rw [eq_of_heq (first other rfl), eq_of_heq (second more rfl)]
  | operand inner ih =>
      cases right with
      | operand other =>
          obtain rfl := same
          rw [eq_of_heq (ih other rfl)]
      | apply function _ => exact (operand_function (inner.first_starts same) function).elim
  | apply function _ ih =>
      cases right with
      | operand other => exact (operand_function (other.first_starts same.symm) function).elim
      | apply _ other =>
          obtain ⟨rfl, rfl⟩ := List.cons.inj same
          rw [eq_of_heq (ih other rfl)]
  | literal kind =>
      cases right with
      | literal _ =>
          obtain ⟨rfl, -⟩ := List.cons.inj same
          rfl
      | name other =>
          obtain ⟨rfl, -⟩ := List.cons.inj same
          rcases kind with kind | kind <;> rw [kind] at other <;> simp at other
      | group opens _ _ =>
          obtain ⟨rfl, -⟩ := List.cons.inj same
          rcases kind with kind | kind <;> rw [kind] at opens <;> cases opens
  | name kind =>
      cases right with
      | literal other =>
          obtain ⟨rfl, -⟩ := List.cons.inj same
          rcases kind with kind | kind <;> rw [kind] at other <;> simp at other
      | name _ =>
          obtain ⟨rfl, -⟩ := List.cons.inj same
          rfl
      | group opens _ _ =>
          obtain ⟨rfl, -⟩ := List.cons.inj same
          rcases kind with kind | kind <;> rw [kind] at opens <;> cases opens
  | group opens inner closes ih =>
      cases right with
      | literal other =>
          obtain ⟨rfl, -⟩ := List.cons.inj same
          rcases other with other | other <;> rw [other] at opens <;> cases opens
      | name other =>
          obtain ⟨rfl, -⟩ := List.cons.inj same
          rcases other with other | other <;> rw [other] at opens <;> cases opens
      | group _ other also =>
          obtain ⟨rfl, tails⟩ := List.cons.inj same
          obtain ⟨rfl, rfl, -⟩ := operator_split inner other tails (by rw [closes]; rfl) (by rw [also]; rfl)
          rw [eq_of_heq (ih other rfl)]
  | operandFactor mode starts _ ih =>
      cases right with
      | operandFactor _ _ other =>
          obtain ⟨rfl, rfl⟩ := List.cons.inj same
          rw [eq_of_heq (ih other rfl)]
      | callFactor _ function _ =>
          obtain ⟨rfl, -⟩ := List.cons.inj same
          rcases starts with kind | kind | kind <;> rw [kind] at function <;> cases function
      | powerFactor other _ _ => cases mode.symm.trans other
  | callFactor mode function _ ih =>
      cases right with
      | operandFactor _ starts _ =>
          obtain ⟨rfl, -⟩ := List.cons.inj same
          rcases starts with kind | kind | kind <;> rw [kind] at function <;> cases function
      | callFactor _ _ other =>
          obtain ⟨rfl, rfl⟩ := List.cons.inj same
          rw [eq_of_heq (ih other rfl)]
      | powerFactor other _ _ => cases mode.symm.trans other
  | powerFactor mode _ _ ih =>
      cases right with
      | operandFactor other _ _ => cases mode.symm.trans other
      | callFactor other _ _ => cases mode.symm.trans other
      | powerFactor _ _ other =>
          obtain ⟨rfl, rfl⟩ := List.cons.inj same
          rw [eq_of_heq (ih other rfl)]
  | last factor ih =>
      cases right with
      | last other =>
          obtain ⟨rfl, rfl⟩ := List.cons.inj same
          rw [eq_of_heq (ih other rfl)]
      | next other more => exact (no_factor factor other same more.ne_nil more.stops_at).elim
      | lastTimes _ other sign _ =>
          exact (no_factor factor other same (List.cons_ne_nil _ _) (Level.stops_cons.mpr (by rw [sign]; rfl))).elim
  | next factor factors first second =>
      cases right with
      | last other => exact (no_factor other factor same.symm factors.ne_nil factors.stops_at).elim
      | next other more =>
          obtain ⟨rfl, rfl, rfl⟩ := factor_split factor other same factors.stops_at more.stops_at
          rw [eq_of_heq (first other rfl), eq_of_heq (second more rfl)]
      | lastTimes _ other sign _ =>
          obtain ⟨-, -, rests⟩ := factor_split factor other same factors.stops_at
            (Level.stops_cons.mpr (by rw [sign]; rfl))
          exact (dot_starts_factor sign (factors.first_starts rests)).elim
  | lastTimes _ factor sign _ first second =>
      cases right with
      | last other =>
          exact (no_factor other factor same.symm (List.cons_ne_nil _ _) (Level.stops_cons.mpr (by rw [sign]; rfl))).elim
      | next other more =>
          obtain ⟨-, -, rests⟩ := factor_split factor other same
            (Level.stops_cons.mpr (by rw [sign]; rfl)) more.stops_at
          exact (dot_starts_factor sign (more.first_starts rests.symm)).elim
      | lastTimes _ other also more =>
          obtain ⟨rfl, rfl, rests⟩ := factor_split factor other same
            (Level.stops_cons.mpr (by rw [sign]; rfl)) (Level.stops_cons.mpr (by rw [also]; rfl))
          obtain ⟨rfl, rfl⟩ := List.cons.inj rests
          rw [eq_of_heq (first other rfl), eq_of_heq (second more rfl)]

instance (symbol : Symbol) (ts : List Token) : Subsingleton (Derivation implicit symbol ts) :=
  ⟨fun left right => eq_of_heq (left.unique right rfl)⟩

theorem read_all_fine {tokens : List Token}
    (fine : (Formula.readAll ⟨.strict, implicit⟩ tokens).fault = none) :
    (Formula.read ⟨.strict, implicit⟩ tokens.length .sum tokens).val.fault = none ∧
      (Formula.read ⟨.strict, implicit⟩ tokens.length .sum tokens).val.rest = [] := by
  rw [Formula.readAll] at fine
  generalize (Formula.read ⟨.strict, implicit⟩ tokens.length .sum tokens).val = whole at fine ⊢
  obtain ⟨tree, fault, rest⟩ := whole
  cases rest with
  | nil => exact ⟨fine, rfl⟩
  | cons token rest => simp [Reading.fail] at fine

-- The recursive descent, the grammar and its formulas fit together: strict parsing accepts the tokens
-- that have a derivation, there is only one, and the parse is its formula.
theorem parse_strict_iff_derivation (implicit : ImplicitFactor) (tokens : List Token) :
    ((Formula.parse ⟨.strict, implicit⟩ tokens).valid = true ↔
      Nonempty (Derivation implicit (.level .sum) tokens)) ∧
    Subsingleton (Derivation implicit (.level .sum) tokens) ∧
    ∀ derivation : Derivation implicit (.level .sum) tokens,
      Formula.parse ⟨.strict, implicit⟩ tokens = ⟨derivation.tree, true, none⟩ := by
  have parsed : ∀ derivation : Derivation implicit (.level .sum) tokens,
      Formula.parse ⟨.strict, implicit⟩ tokens = ⟨derivation.tree, true, none⟩ := by
    intro derivation
    have accepted : Accepted implicit tokens.length _ tokens derivation.tree := derivation.accepted
    have read := Formula.read_of_descent (accepted [] (Level.stops_nil _))
    rw [List.append_nil] at read
    simp [Formula.parse, Formula.readAll, read]
  refine ⟨⟨?_, ?_⟩, inferInstance, parsed⟩
  · intro valid
    obtain ⟨fine, ended⟩ := read_all_fine (Option.isNone_iff_eq_none.mp valid)
    obtain ⟨ts, derivation, split, -⟩ :=
      sourced_of_descent (Formula.read_descent _ tokens.length .sum tokens) fine
    rw [ended, List.append_nil] at split
    exact ⟨split ▸ derivation⟩
  · rintro ⟨derivation⟩
    rw [parsed derivation]

end EscapeTime.Grammar
