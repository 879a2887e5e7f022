import EscapeTime.Proofs.Formula.Order

set_option autoImplicit false

namespace EscapeTime.Formula

open scoped List

def leaves : Formula → List Token
  | unary _ inner => inner.leaves
  | binary left _ right => left.leaves ++ right.leaves
  | literal value => [value]
  | symbol name => [name]
  | invalid _ => []

theorem leaves_ne_nil {formula : Formula} (valid : formula.isValid = true) : formula.leaves ≠ [] := by
  induction formula with
  | unary op inner ih => exact ih valid
  | binary left op right first second =>
      have leftValid := (Bool.and_eq_true_iff.mp valid).1
      exact List.append_ne_nil_of_left_ne_nil (first leftValid) _
  | literal value => exact List.cons_ne_nil _ _
  | symbol name => exact List.cons_ne_nil _ _
  | invalid message => cases valid

theorem leaves_counted {tokens : List Token} {formula : Formula} (written : Written tokens formula) :
    formula.leaves <+ formula.counted := by
  induction written with
  | @unary op _ kind _ ih =>
      have other : op.kind ≠ .dot := fun sign => by
        rw [sign] at kind
        cases kind
      rw [counted_unary other]
      exact ih.cons op
  | @binary left right op _ _ _ first second =>
      by_cases product : op.kind = .dot
      · rw [counted_product product]
        exact first.append second
      · by_cases fraction : op.kind = .fraction
        · rw [counted_fraction fraction]
          exact (first.append second).cons op
        · rw [counted_between product fraction]
          exact first.append (second.cons op)
  | @literal token kind _ | @symbol token kind _ =>
      have other : token.kind ≠ .dot := fun sign => by
        rw [sign] at kind
        cases kind
      simp [leaves, counted, Formula.tokens, other]
  | invalid _ => exact List.nil_sublist _

theorem parse_leaves (mode : ReadMode) (tokens : List Token) : (parse mode tokens).tree.leaves <+ tokens :=
  (leaves_counted (parse_written mode tokens)).trans (read_all_counted mode tokens)

def Plain : Formula → Prop
  | unary op inner => op.value = none ∧ inner.Plain
  | binary left op right => op.value = none ∧ left.Plain ∧ right.Plain
  | literal _ | symbol _ | invalid _ => True

theorem close_plain {inner : Reading} (grouping : Grouping) (total : Nat) (plain : inner.tree.Plain) :
    (inner.close grouping total).tree.Plain := by
  obtain ⟨tree, fault, rest⟩ := inner
  cases grouping with
  | lenient => exact plain
  | strict =>
      cases rest with
      | nil => trivial
      | cons token rest =>
          by_cases closes : token.kind = .rightParen
          · simpa [Reading.close, closes] using plain
          · simp [Reading.close, Reading.fail, closes, Plain]

-- The list stays fixed; an operator is one of its tokens, or the sign of a product that is not written.
theorem descent_plain {mode : ReadMode} {total : Nat} {task : Task} {reading : Reading} {tokens : List Token}
    (descent : Descent mode total task reading) (within : task.tokens ⊆ tokens)
    (bare : ∀ token ∈ tokens, token.kind.isLiteral = false → token.kind.isName = false → token.value = none)
    (starts : task.Starts fun left => left.tree.Plain) : reading.tree.Plain := by
  induction descent with
  | sumEnds _ _ ih | productEnds _ _ ih | powerEnds _ _ ih => exact ih within trivial
  | @sumGoesOn _ _ _ _ op first next sign _ left right =>
      have behind := List.Subset.trans (rest_suffix first).subset within
      rw [next] at behind
      have operator : op.value = none := by
        apply bare op (behind (List.mem_cons_self ..)) <;> rcases sign with sign | sign <;> rw [sign] <;> rfl
      exact ⟨operator, left within trivial, right (List.subset_of_cons_subset behind) trivial⟩
  | @productGoesOn _ _ _ _ op first next sign _ left right | @powerGoesOn _ _ _ _ op first next sign _ left right =>
      have behind := List.Subset.trans (rest_suffix first).subset within
      rw [next] at behind
      have operator : op.value = none := by
        apply bare op (behind (List.mem_cons_self ..)) <;> rw [sign] <;> rfl
      exact ⟨operator, left within trivial, right (List.subset_of_cons_subset behind) trivial⟩
  | productChains first _ _ _ left whole =>
      exact whole (List.Subset.trans (rest_suffix first).subset within) (left within trivial)
  | negationPasses _ _ ih | quotientPasses _ _ ih | callPasses _ _ ih => exact ih within trivial
  | @negationGoesOn _ _ op sign _ ih =>
      have operator : op.value = none := by
        apply bare op (within (List.mem_cons_self ..)) <;> rw [sign] <;> rfl
      exact ⟨operator, ih (List.subset_of_cons_subset within) trivial⟩
  | @callGoesOn _ _ op function _ ih =>
      have operator : op.value = none := by
        apply bare op (within (List.mem_cons_self ..)) <;>
          cases kind : op.kind <;> simp_all [Kind.isFunction, Kind.isLiteral, Kind.isName]
      exact ⟨operator, ih (List.subset_of_cons_subset within) trivial⟩
  | @quotientGoesOn _ _ _ op sign first _ numerator denominator =>
      have behind := List.subset_of_cons_subset within
      have operator : op.value = none := by
        apply bare op (within (List.mem_cons_self ..)) <;> rw [sign] <;> rfl
      exact ⟨operator, numerator behind trivial,
        denominator (List.Subset.trans (rest_suffix first).subset behind) trivial⟩
  | literal _ | symbol _ => trivial
  | group _ _ ih => exact close_plain _ _ (ih (List.subset_of_cons_subset within) trivial)
  | missing | misplaced _ => trivial
  | chainEnds _ => exact starts
  | chainFactor next _ first _ right whole =>
      have ahead := within
      simp only [Task.tokens, next] at ahead
      exact whole (List.Subset.trans (rest_suffix first).subset ahead) ⟨rfl, starts, right ahead trivial⟩
  | @chainGoesOn _ _ op _ next _ sign _ right =>
      have ahead := within
      simp only [Task.tokens, next] at ahead
      have operator : op.value = none := by
        apply bare op (ahead (List.mem_cons_self ..)) <;> rw [sign] <;> rfl
      exact ⟨operator, starts, right (List.subset_of_cons_subset ahead) trivial⟩

theorem parse_plain (mode : ReadMode) {tokens : List Token}
    (bare : ∀ token ∈ tokens, token.kind.isLiteral = false → token.kind.isName = false → token.value = none) :
    (parse mode tokens).tree.Plain := by
  have plain := descent_plain (read_descent mode tokens.length .sum tokens) (List.Subset.refl tokens) bare trivial
  simp only [parse, readAll]
  split
  · trivial
  · exact plain

end EscapeTime.Formula
