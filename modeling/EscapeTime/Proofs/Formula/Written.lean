import EscapeTime.Proofs.Formula.Descent

set_option autoImplicit false

namespace EscapeTime

def Kind.isUnary (kind : Kind) : Bool :=
  kind = .minus || kind.isFunction

def Kind.isBinary : Kind → Bool
  | plus | minus | dot | fraction | caret => true
  | _ => false

namespace Formula

inductive Written (tokens : List Token) : Formula → Prop where
  | unary {op : Token} {inner : Formula} (kind : op.kind.isUnary = true) (written : Written tokens inner) :
      Written tokens (.unary op inner)
  | binary {left right : Formula} {op : Token} (kind : op.kind.isBinary = true)
      (first : Written tokens left) (second : Written tokens right) :
      Written tokens (.binary left op right)
  | literal {value : Token} (kind : value.kind.isLiteral = true) (member : value ∈ tokens) :
      Written tokens (.literal value)
  | symbol {name : Token} (kind : name.kind.isName = true) (member : name ∈ tokens) :
      Written tokens (.symbol name)
  | invalid (message : String) : Written tokens (.invalid message)

def Task.tokens : Task → List Token
  | .level _ tokens => tokens
  | .chain left => left.rest

theorem close_rest (grouping : Grouping) (total : Nat) (inner : Reading) :
    (inner.close grouping total).rest <:+ inner.rest := by
  obtain ⟨tree, fault, rest⟩ := inner
  cases grouping with
  | lenient => exact List.drop_suffix 1 rest
  | strict =>
      cases rest with
      | nil => exact List.suffix_refl []
      | cons token rest =>
          by_cases closes : token.kind = .rightParen
          · simp [Reading.close, closes]
          · simp [Reading.close, Reading.fail, closes]

theorem rest_suffix {mode : ReadMode} {total : Nat} {task : Task} {reading : Reading}
    (descent : Descent mode total task reading) : reading.rest <:+ task.tokens := by
  induction descent with
  | sumEnds _ _ ih | productEnds _ _ ih | powerEnds _ _ ih => exact ih
  | sumGoesOn _ next _ _ first second | productGoesOn _ next _ _ first second
  | powerGoesOn _ next _ _ first second =>
      rw [next] at first
      exact second.trans ((List.suffix_cons _ _).trans first)
  | productChains _ _ _ _ first second => exact second.trans first
  | negationPasses _ _ ih | quotientPasses _ _ ih | callPasses _ _ ih => exact ih
  | negationGoesOn _ _ ih | callGoesOn _ _ ih => exact ih.trans (List.suffix_cons _ _)
  | quotientGoesOn _ _ _ first second => exact second.trans (first.trans (List.suffix_cons _ _))
  | literal _ | symbol _ => exact List.suffix_cons _ _
  | group _ _ ih => exact (close_rest _ _ _).trans (ih.trans (List.suffix_cons _ _))
  | missing | misplaced _ | chainEnds _ => exact List.suffix_refl _
  | chainFactor next _ _ _ first second =>
      rw [← next] at first
      exact second.trans first
  | chainGoesOn next _ _ _ ih =>
      simp only [Task.tokens, next]
      exact ih.trans (List.suffix_cons _ _)

theorem close_written {tokens : List Token} {inner : Reading} (grouping : Grouping) (total : Nat)
    (written : Written tokens inner.tree) : Written tokens (inner.close grouping total).tree := by
  obtain ⟨tree, fault, rest⟩ := inner
  cases grouping with
  | lenient => exact written
  | strict =>
      cases rest with
      | nil => exact .invalid _
      | cons token rest =>
          by_cases closes : token.kind = .rightParen
          · simpa [Reading.close, closes] using written
          · simpa [Reading.close, Reading.fail, closes] using Written.invalid _

-- What a task takes over: the formula to the left of a chain.
def Task.Starts (property : Reading → Prop) : Task → Prop
  | .level _ _ => True
  | .chain left => property left

-- The tokens stay fixed while tasks work on shorter and shorter ends of them.
theorem descent_written {mode : ReadMode} {total : Nat} {task : Task} {reading : Reading}
    {tokens : List Token} (descent : Descent mode total task reading) (within : task.tokens ⊆ tokens)
    (starts : task.Starts fun left => Written tokens left.tree) : Written tokens reading.tree := by
  induction descent with
  | sumEnds _ _ ih | productEnds _ _ ih | powerEnds _ _ ih => exact ih within trivial
  | sumGoesOn first next sign _ left right =>
      have behind := List.Subset.trans (rest_suffix first).subset within
      rw [next] at behind
      refine .binary ?_ (left within trivial) (right (List.subset_of_cons_subset behind) trivial)
      rcases sign with sign | sign <;> rw [sign] <;> rfl
  | productGoesOn first next sign _ left right | powerGoesOn first next sign _ left right =>
      have behind := List.Subset.trans (rest_suffix first).subset within
      rw [next] at behind
      exact .binary (by rw [sign]; rfl) (left within trivial)
        (right (List.subset_of_cons_subset behind) trivial)
  | productChains first _ _ _ left whole =>
      exact whole (List.Subset.trans (rest_suffix first).subset within) (left within trivial)
  | negationPasses _ _ ih | quotientPasses _ _ ih | callPasses _ _ ih => exact ih within trivial
  | negationGoesOn sign _ ih =>
      exact .unary (by rw [sign]; rfl) (ih (List.subset_of_cons_subset within) trivial)
  | callGoesOn function _ ih =>
      exact .unary (by simp [Kind.isUnary, function]) (ih (List.subset_of_cons_subset within) trivial)
  | quotientGoesOn sign first _ numerator denominator =>
      have behind := List.subset_of_cons_subset within
      exact .binary (by rw [sign]; rfl) (numerator behind trivial)
        (denominator (List.Subset.trans (rest_suffix first).subset behind) trivial)
  | literal literal => exact .literal literal (within (List.mem_cons_self ..))
  | symbol named => exact .symbol named (within (List.mem_cons_self ..))
  | group _ _ ih => exact close_written _ _ (ih (List.subset_of_cons_subset within) trivial)
  | missing | misplaced _ => exact .invalid _
  | chainEnds _ => exact starts
  | chainFactor next factor first _ right whole =>
      have ahead := within
      simp only [Task.tokens, next] at ahead
      exact whole (List.Subset.trans (rest_suffix first).subset ahead) (.binary rfl starts (right ahead trivial))
  | chainGoesOn next _ sign _ right =>
      have ahead := within
      simp only [Task.tokens, next] at ahead
      exact .binary (by rw [sign]; rfl) starts (right (List.subset_of_cons_subset ahead) trivial)

theorem parse_written (mode : ReadMode) (tokens : List Token) :
    Written tokens (parse mode tokens).tree := by
  have written := descent_written (read_descent mode tokens.length .sum tokens)
    (List.Subset.refl tokens) trivial
  simp only [parse, readAll]
  split
  · exact .invalid _
  · exact written

theorem close_fault_iff {inner : Reading} (grouping : Grouping) (total : Nat)
    (agrees : inner.fault = none ↔ inner.tree.isValid = true) :
    (inner.close grouping total).fault = none ↔ (inner.close grouping total).tree.isValid = true := by
  obtain ⟨tree, fault, rest⟩ := inner
  cases grouping with
  | lenient => exact agrees
  | strict =>
      cases rest with
      | nil => simp [Reading.close, Reading.fail, isValid]
      | cons token rest =>
          by_cases closes : token.kind = .rightParen
          · simpa [Reading.close, closes] using agrees
          · simp [Reading.close, Reading.fail, isValid, closes]

theorem binary_fault_iff {left right : Reading} (op : Token)
    (first : left.fault = none ↔ left.tree.isValid = true)
    (second : right.fault = none ↔ right.tree.isValid = true) :
    (left.binary op right).fault = none ↔ (left.binary op right).tree.isValid = true := by
  simp only [Reading.binary, isValid, Option.or_eq_none_iff, Bool.and_eq_true, first, second]

theorem descent_fault_iff {mode : ReadMode} {total : Nat} {task : Task} {reading : Reading}
    (descent : Descent mode total task reading)
    (starts : task.Starts fun left => left.fault = none ↔ left.tree.isValid = true) :
    reading.fault = none ↔ reading.tree.isValid = true := by
  induction descent with
  | sumEnds _ _ ih | productEnds _ _ ih | powerEnds _ _ ih => exact ih trivial
  | sumGoesOn _ _ _ _ left right | productGoesOn _ _ _ _ left right | powerGoesOn _ _ _ _ left right =>
      exact binary_fault_iff _ (left trivial) (right trivial)
  | productChains _ _ _ _ left whole => exact whole (left trivial)
  | negationPasses _ _ ih | quotientPasses _ _ ih | callPasses _ _ ih => exact ih trivial
  | negationGoesOn _ _ ih | callGoesOn _ _ ih => exact ih trivial
  | quotientGoesOn _ _ _ numerator denominator =>
      exact binary_fault_iff _ (numerator trivial) (denominator trivial)
  | literal _ | symbol _ => simp [isValid]
  | group _ _ ih => exact close_fault_iff _ _ (ih trivial)
  | missing | misplaced _ => simp [Reading.invalid, isValid]
  | chainEnds _ => exact starts
  | chainFactor _ _ _ _ right whole => exact whole (binary_fault_iff _ starts (right trivial))
  | chainGoesOn _ _ _ _ right => exact binary_fault_iff _ starts (right trivial)

theorem parse_valid_eq (mode : ReadMode) (tokens : List Token) :
    (parse mode tokens).valid = (parse mode tokens).tree.isValid := by
  have agrees := descent_fault_iff (read_descent mode tokens.length .sum tokens) trivial
  rw [Bool.eq_iff_iff]
  simp only [parse, readAll, Option.isNone_iff_eq_none]
  split
  · simp [Reading.fail, isValid]
  · exact agrees

end Formula

end EscapeTime
