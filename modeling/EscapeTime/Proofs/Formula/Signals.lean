import EscapeTime.Proofs.Formula.Cursor
import EscapeTime.Proofs.Renewal

set_option autoImplicit false

namespace EscapeTime

-- The first fault met is the leftmost one left in the tree.
def Reading.Reports (reading : Reading) : Prop :=
  reading.fault.map Fault.message = reading.tree.firstFault

theorem Reading.Reports.binary {left right : Reading} (first : left.Reports) (second : right.Reports) (op : Token) :
    (left.binary op right).Reports := by
  rw [Reports, Reading.binary, Option.map_or, first, second]
  rfl

namespace Formula

theorem Descent.reports {implicit : ImplicitFactor} {total : Nat} {task : Task} {reading : Reading}
    (descent : Descent ⟨.lenient, implicit⟩ total task reading) (starts : task.Starts Reading.Reports) :
    reading.Reports := by
  induction descent with
  | sumEnds _ _ ih | productEnds _ _ ih | powerEnds _ _ ih => exact ih trivial
  | sumGoesOn _ _ _ _ left right | productGoesOn _ _ _ _ left right | powerGoesOn _ _ _ _ left right =>
      exact (left trivial).binary (right trivial) _
  | productChains _ _ _ _ left whole => exact whole (left trivial)
  | negationPasses _ _ ih | quotientPasses _ _ ih | callPasses _ _ ih => exact ih trivial
  | negationGoesOn _ _ ih | callGoesOn _ _ ih => exact ih trivial
  | quotientGoesOn _ _ _ numerator denominator => exact (numerator trivial).binary (denominator trivial) _
  | literal _ | symbol _ | missing | misplaced _ => rfl
  | group _ _ ih => exact ih trivial
  | chainEnds _ => exact starts
  | chainFactor _ _ _ _ right whole => exact whole (starts.binary (right trivial) _)
  | chainGoesOn _ _ _ _ right => exact starts.binary (right trivial) _

theorem parse_reports (implicit : ImplicitFactor) (tokens : List Token) :
    (parse ⟨.lenient, implicit⟩ tokens).message = (parse ⟨.lenient, implicit⟩ tokens).tree.firstFault :=
  (read_descent ⟨.lenient, implicit⟩ tokens.length .sum tokens).reports trivial

-- The walk keeps the flag and the message apart, and ends with those of the parse.
theorem parse_walked (mode : ReadMode) (tokens : List Token) :
    ∃ final : Cursor, final.valid = (parse mode tokens).valid ∧ final.message = (parse mode tokens).message ∧
      ∀ depth, 8 * (tokens.length + 1) ≤ depth →
        (Walk.parse mode tokens depth).Gives .start (parse mode tokens) final := by
  refine ⟨_, ?_, ?_, fun depth deep => Walk.parse_gives mode tokens deep⟩
  · rfl
  · rfl

theorem parse_signals_agree (mode : ReadMode) (tokens : List Token) :
    let result := parse mode tokens
    (result.valid = true ↔ result.message = none) ∧ (result.message = none ↔ result.tree.isValid = true) ∧
    (mode.grouping = .lenient → result.valid = false →
      ∃ message, result.message = some message ∧ result.tree.firstFault = some message) ∧
    ∃ final : Cursor, (final.valid = true ↔ final.message = none) ∧ final.valid = result.valid ∧
      final.message = result.message ∧ ∀ depth, 8 * (tokens.length + 1) ≤ depth →
        (Walk.parse mode tokens depth).Gives .start result final := by
  intro result
  have flag : result.valid = true ↔ result.message = none := by
    simp [result, parse]
  have tree : result.valid = result.tree.isValid := parse_valid_eq mode tokens
  obtain ⟨final, valid, message, walked⟩ := parse_walked mode tokens
  refine ⟨flag, flag.symm.trans (by rw [tree]), fun lenient invalid => ?_,
    final, by rw [valid, message]; exact flag, valid, message, walked⟩
  obtain ⟨grouping, implicit⟩ := mode
  obtain rfl : grouping = .lenient := lenient
  have told : result.message ≠ none := fun silent => by
    rw [flag.mpr silent] at invalid
    cases invalid
  obtain ⟨message, found⟩ := Option.ne_none_iff_exists'.mp told
  exact ⟨message, found, (parse_reports implicit tokens).symm.trans found⟩

-- Strict grouping throws away what an unclosed group holds: the message is the sign's, the tree has the group's.
example :
    let result := parse ⟨.strict, .primary⟩ [⟨.leftParen, none, 0⟩, ⟨.plus, none, 1⟩]
    result.message = some "invalid syntax at token 1 (character 1)" ∧
      result.tree.firstFault = some "expected closing delimiter at end of input" := by
  decide +kernel

end Formula

end EscapeTime
