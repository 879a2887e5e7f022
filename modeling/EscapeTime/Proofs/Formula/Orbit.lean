import EscapeTime.Proofs.Formula.Environment

set_option autoImplicit false

namespace EscapeTime.Formula

-- Two evaluations that stop at the same fault, or that both come to a value.
inductive Agree : Except EvalFault Complex → Except EvalFault Complex → Prop where
  | fault (fault : EvalFault) : Agree (.error fault) (.error fault)
  | value (first second : Complex) : Agree (.ok first) (.ok second)

theorem Agree.bind {first second : Except EvalFault Complex} (agree : Agree first second)
    {next other : Complex → Except EvalFault Complex} (goesOn : ∀ a b, Agree (next a) (other b)) :
    Agree (first >>= next) (second >>= other) := by
  cases agree with
  | fault fault => exact .fault fault
  | value a b => exact goesOn a b

theorem unary_value_agree (kind : Kind) (first second : Complex) :
    Agree (unaryValue kind first) (unaryValue kind second) := by
  unfold unaryValue
  cases kind <;> constructor

theorem binary_value_agree (kind : Kind) (left right otherLeft otherRight : Complex) :
    Agree (binaryValue left kind right) (binaryValue otherLeft kind otherRight) := by
  unfold binaryValue
  cases kind <;> constructor

theorem symbol_value_agree {first second : Environment} (table : first.table = second.table)
    (bound : ∀ text, (first.parameter? text).isSome = (second.parameter? text).isSome) (name : Token) :
    Agree (symbolValue first name) (symbolValue second name) := by
  rw [symbolValue, symbolValue, table]
  by_cases parameter : name.kind = .parameter
  · rw [if_pos parameter, if_pos parameter]
    have same := bound name.text
    generalize first.parameter? name.text = value at same ⊢
    generalize second.parameter? name.text = other at same ⊢
    match value, other, same with
    | none, none, _ => exact .fault _
    | some value, some other, _ => exact .value value other
  · rw [if_neg parameter, if_neg parameter]
    cases second.table.get? name.text with
    | none => exact .fault _
    | some slot => exact .value _ _

theorem value_agree {first second : Environment} (table : first.table = second.table)
    (bound : ∀ text, (first.parameter? text).isSome = (second.parameter? text).isSome) (formula : Formula) :
    Agree (formula.value first) (formula.value second) := by
  induction formula with
  | unary op inner ih => exact ih.bind (unary_value_agree op.kind)
  | binary left op right leftAgree rightAgree =>
      exact leftAgree.bind fun a b => rightAgree.bind fun c d => binary_value_agree op.kind a c b d
  | literal value =>
      rw [Formula.value, Formula.value]
      cases literalValue value with
      | error fault => exact .fault fault
      | ok number => exact .value number number
  | symbol name => exact symbol_value_agree table bound name
  | invalid message => exact .fault _

namespace Orbit

theorem value_at_agree (orbit : Orbit) (formula : Formula) (x z other : Complex) :
    Agree (orbit.valueAt formula x z) (orbit.valueAt formula x other) := by
  refine value_agree ?_ (fun text => ?_) formula
  · rw [Environment.of_point_table, Environment.of_point_table]
  · rw [Bool.eq_iff_iff, Environment.of_point_is_some, Environment.of_point_is_some]

def iterate (orbit : Orbit) (x : Complex) : Nat → Except EvalFault Complex
  | 0 => orbit.valueAt orbit.initial x .zero
  | n + 1 => orbit.iterate x n >>= orbit.valueAt orbit.step x

def exceeds (orbit : Orbit) (x : Complex) (radius : Float) (n : Nat) : Bool :=
  match orbit.iterate x n with
  | .ok z => radius * radius < z.normSq
  | .error _ => false

def firstEscape (orbit : Orbit) (x : Complex) (limit : Nat) (radius : Float) : Option Nat :=
  (List.range limit).find? fun n => orbit.exceeds x radius (n + 1)

theorem first_escape_eq_some (orbit : Orbit) (x : Complex) (limit : Nat) (radius : Float) (n : Nat) :
    orbit.firstEscape x limit radius = some n ↔
      n < limit ∧ orbit.exceeds x radius (n + 1) = true ∧ ∀ k < n, orbit.exceeds x radius (k + 1) = false := by
  simp only [firstEscape, List.find?_range_eq_some, List.mem_range, Bool.not_eq_true', and_left_comm]

theorem first_escape_eq_none (orbit : Orbit) (x : Complex) (limit : Nat) (radius : Float) :
    orbit.firstEscape x limit radius = none ↔ ∀ k < limit, orbit.exceeds x radius (k + 1) = false := by
  simp only [firstEscape, List.find?_range_eq_none, Bool.not_eq_true']

theorem first_escape_stable {orbit : Orbit} {x : Complex} {limit n : Nat} {radius : Float}
    (escaped : orbit.firstEscape x limit radius = some n) :
    (∀ more, n < more → orbit.firstEscape x more radius = some n) ∧
      ∀ fewer ≤ n, orbit.firstEscape x fewer radius = none := by
  obtain ⟨-, large, earlier⟩ := (first_escape_eq_some ..).mp escaped
  refine ⟨fun more within => (first_escape_eq_some ..).mpr ⟨within, large, earlier⟩, fun fewer le => ?_⟩
  exact (first_escape_eq_none ..).mpr fun k less => earlier k (Nat.lt_of_lt_of_le less le)

theorem iterate_succ {orbit : Orbit} {x z : Complex} {n : Nat} (reached : orbit.iterate x n = .ok z) :
    orbit.iterate x (n + 1) = orbit.valueAt orbit.step x z := by
  rw [iterate, reached]
  rfl

section Steady

variable {orbit : Orbit} {x : Complex} (steady : ∀ z, ∃ next, orbit.valueAt orbit.step x z = .ok next)
include steady

theorem iterate_ok {start : Complex} (starts : orbit.iterate x 0 = .ok start) (n : Nat) :
    ∃ z, orbit.iterate x n = .ok z := by
  induction n with
  | zero => exact ⟨start, starts⟩
  | succ n ih =>
      obtain ⟨z, reached⟩ := ih
      rw [iterate_succ reached]
      exact steady z

-- The loop goes through the iterates in turn and stops at the first that is too large.
theorem escape_from_eq (radius : Float) (steps : Nat) {taken : Nat} {z : Complex}
    (reached : orbit.iterate x taken = .ok z) :
    orbit.escapeFrom x (radius * radius) steps taken z =
      .ok ((List.range' taken steps).find? fun n => orbit.exceeds x radius (n + 1)) := by
  induction steps generalizing taken z with
  | zero => rfl
  | succ steps ih =>
      obtain ⟨next, made⟩ := steady z
      have stepped : orbit.iterate x (taken + 1) = .ok next := (iterate_succ reached).trans made
      have tested : orbit.exceeds x radius (taken + 1) = decide (radius * radius < next.normSq) := by
        rw [exceeds, stepped]
      rw [escapeFrom, made, List.range'_succ, List.find?_cons, tested]
      by_cases large : radius * radius < next.normSq
      · simp [large, bind, Except.bind]
      · simp [large, bind, Except.bind, ih stepped]

end Steady

theorem steady_of_ok {orbit : Orbit} {x z next : Complex} (made : orbit.valueAt orbit.step x z = .ok next)
    (other : Complex) : ∃ next, orbit.valueAt orbit.step x other = .ok next := by
  have agree := orbit.value_at_agree orbit.step x z other
  rw [made] at agree
  generalize orbit.valueAt orbit.step x other = outcome at agree ⊢
  cases agree with
  | value _ second => exact ⟨second, rfl⟩

theorem escape_time_outcome (orbit : Orbit) (x : Complex) (radius : Float) :
    (∃ fault, orbit.valueAt orbit.initial x .zero = .error fault ∧
      ∀ limit, orbit.escapeTime x limit radius = .error fault) ∨
    ∃ start, orbit.valueAt orbit.initial x .zero = .ok start ∧
      ((∃ fault, orbit.valueAt orbit.step x start = .error fault ∧
          orbit.escapeTime x 0 radius = .ok none ∧
          ∀ limit, 0 < limit → orbit.escapeTime x limit radius = .error fault) ∨
        ∃ next, orbit.valueAt orbit.step x start = .ok next ∧ (∀ n, ∃ z, orbit.iterate x n = .ok z) ∧
          ∀ limit, orbit.escapeTime x limit radius = .ok (orbit.firstEscape x limit radius)) := by
  cases starts : orbit.valueAt orbit.initial x .zero with
  | error fault =>
      refine .inl ⟨fault, rfl, fun limit => ?_⟩
      rw [escapeTime, starts]
      rfl
  | ok start =>
      have begun : ∀ limit, orbit.escapeTime x limit radius =
          orbit.escapeFrom x (radius * radius) limit 0 start := by
        intro limit
        rw [escapeTime, starts]
        rfl
      refine .inr ⟨start, rfl, ?_⟩
      cases made : orbit.valueAt orbit.step x start with
      | error fault =>
          refine .inl ⟨fault, rfl, begun 0, fun limit positive => ?_⟩
          obtain ⟨steps, rfl⟩ := Nat.exists_eq_add_one.mpr positive
          rw [begun, escapeFrom, made]
          rfl
      | ok next =>
          have steady := steady_of_ok made
          have first : orbit.iterate x 0 = .ok start := starts
          refine .inr ⟨next, rfl, iterate_ok steady first, fun limit => ?_⟩
          rw [begun, escape_from_eq steady radius limit first, firstEscape, List.range_eq_range']

-- The value where the orbit starts is not tested: the first iterate that can escape is the one behind it.
theorem escape_time_finds_first_escape (orbit : Orbit) (x : Complex) (limit : Nat) (radius : Float) :
    (∀ fault, orbit.escapeTime x limit radius = .error fault ↔
      orbit.valueAt orbit.initial x .zero = .error fault ∨
        0 < limit ∧ ∃ start, orbit.valueAt orbit.initial x .zero = .ok start ∧
          orbit.valueAt orbit.step x start = .error fault) ∧
    ((∀ fault, orbit.escapeTime x limit radius ≠ .error fault) →
      (∀ n ≤ limit, ∃ z, orbit.iterate x n = .ok z) ∧
      (∀ n, orbit.escapeTime x limit radius = .ok (some n) ↔
        n < limit ∧ orbit.exceeds x radius (n + 1) = true ∧ ∀ k < n, orbit.exceeds x radius (k + 1) = false) ∧
      (orbit.escapeTime x limit radius = .ok none ↔ ∀ k < limit, orbit.exceeds x radius (k + 1) = false)) ∧
    ∀ n, orbit.escapeTime x limit radius = .ok (some n) →
      (∀ more, n < more → orbit.escapeTime x more radius = .ok (some n)) ∧
      ∀ fewer ≤ n, orbit.escapeTime x fewer radius = .ok none := by
  rcases orbit.escape_time_outcome x radius with
    ⟨fault, starts, failed⟩ | ⟨start, starts, ⟨fault, made, idle, failed⟩ | ⟨next, made, reached, found⟩⟩
  · rw [starts, failed limit]
    simp
  · rw [starts]
    rcases Nat.eq_zero_or_pos limit with rfl | positive
    · rw [idle]
      simpa using ⟨start, starts⟩
    · rw [failed limit positive]
      simp [positive, made]
  · rw [starts, found limit]
    refine ⟨by simp [made], fun _ => ⟨fun n _ => reached n, fun n => ?_, ?_⟩, fun n escaped => ?_⟩
    · rw [Except.ok.injEq, first_escape_eq_some]
    · rw [Except.ok.injEq, first_escape_eq_none]
    · simp only [found, Except.ok.injEq]
      exact first_escape_stable (Except.ok.inj escaped)

end Orbit

end EscapeTime.Formula
