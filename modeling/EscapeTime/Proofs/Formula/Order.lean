import EscapeTime.Proofs.Formula.Modes
import EscapeTime.Proofs.Formula.Written

set_option autoImplicit false

namespace EscapeTime

open scoped List

namespace Formula

-- A fraction stands before its parts, the other signs between them.
def tokens : Formula → List Token
  | unary op inner => op :: inner.tokens
  | binary left op right =>
      if op.kind = .fraction then op :: (left.tokens ++ right.tokens) else left.tokens ++ op :: right.tokens
  | literal value => [value]
  | symbol name => [name]
  | invalid _ => []

-- The sign of a product need not be written, so it is not counted.
def counted (formula : Formula) : List Token :=
  formula.tokens.filter fun token => token.kind ≠ .dot

theorem counted_unary {op : Token} (other : op.kind ≠ .dot) (inner : Formula) :
    (unary op inner).counted = op :: inner.counted := by
  simp [counted, tokens, other]

theorem counted_fraction {op : Token} (sign : op.kind = .fraction) (left right : Formula) :
    (binary left op right).counted = op :: (left.counted ++ right.counted) := by
  simp [counted, tokens, sign]

theorem counted_product {op : Token} (sign : op.kind = .dot) (left right : Formula) :
    (binary left op right).counted = left.counted ++ right.counted := by
  simp [counted, tokens, sign]

theorem counted_between {op : Token} (other : op.kind ≠ .dot) (whole : op.kind ≠ .fraction) (left right : Formula) :
    (binary left op right).counted = left.counted ++ op :: right.counted := by
  simp [counted, tokens, other, whole]

def Task.counted : Task → List Token
  | .level _ tokens => tokens
  | .chain left => left.tree.counted ++ left.rest

theorem close_counted (grouping : Grouping) (total : Nat) (inner : Reading) :
    (inner.close grouping total).tree.counted ++ (inner.close grouping total).rest <+
      inner.tree.counted ++ inner.rest := by
  obtain ⟨tree, fault, rest⟩ := inner
  cases grouping with
  | lenient => exact List.Sublist.append_left (List.drop_sublist 1 rest) _
  | strict =>
      cases rest with
      | nil => exact List.sublist_append_right _ _
      | cons token rest =>
          by_cases closes : token.kind = .rightParen
          · simp [Reading.close, closes]
          · simp [Reading.close, Reading.fail, closes, counted, tokens]

theorem append_counted {left right rest whole after : List Token} (first : left ++ rest <+ whole)
    (second : right ++ after <+ rest) : (left ++ right) ++ after <+ whole := by
  rw [List.append_assoc]
  exact (second.append_left left).trans first

theorem unary_counted {inner : Formula} {rest after : List Token} (op : Token)
    (first : inner.counted ++ after <+ rest) : (unary op inner).counted ++ after <+ op :: rest := by
  by_cases sign : op.kind = .dot
  · have same : (unary op inner).counted = inner.counted := by simp [counted, tokens, sign]
    rw [same]
    exact first.trans (List.sublist_cons_self op rest)
  · rw [counted_unary sign]
    exact first.cons_cons op

theorem binary_counted {left right : Formula} {op : Token} {rest whole after : List Token}
    (kind : op.kind ≠ .fraction) (first : left.counted ++ op :: rest <+ whole)
    (second : right.counted ++ after <+ rest) : (binary left op right).counted ++ after <+ whole := by
  by_cases sign : op.kind = .dot
  · rw [counted_product sign]
    exact append_counted first (second.trans (List.sublist_cons_self _ _))
  · rw [counted_between sign kind]
    exact append_counted first (second.cons_cons op)

-- What is left stands behind what was read: so the order holds between the parts of a tree as well as in each.
theorem descent_counted {mode : ReadMode} {total : Nat} {task : Task} {reading : Reading}
    (descent : Descent mode total task reading) : reading.tree.counted ++ reading.rest <+ task.counted := by
  induction descent with
  | sumEnds _ _ ih | productEnds _ _ ih | powerEnds _ _ ih => exact ih
  | sumGoesOn _ next sign _ first second =>
      rw [next] at first
      exact binary_counted (by rcases sign with sign | sign <;> simp [sign]) first second
  | productGoesOn _ next sign _ first second | powerGoesOn _ next sign _ first second =>
      rw [next] at first
      exact binary_counted (by simp [sign]) first second
  | productChains _ _ _ _ first second => exact second.trans first
  | negationPasses _ _ ih | quotientPasses _ _ ih | callPasses _ _ ih => exact ih
  | negationGoesOn _ _ ih | callGoesOn _ _ ih => exact unary_counted _ ih
  | quotientGoesOn sign _ _ first second =>
      simp only [Reading.binary, counted_fraction sign]
      exact (append_counted first second).cons_cons _
  | literal _ | symbol _ => exact List.filter_sublist.append_right _
  | group _ _ ih => exact (close_counted _ _ _).trans (ih.trans (List.sublist_cons_self _ _))
  | missing | misplaced _ | chainEnds _ => exact List.Sublist.refl _
  | chainFactor next _ _ _ first second =>
      refine second.trans ?_
      simp only [Task.counted, next, Reading.factor, Reading.binary, counted_product]
      exact append_counted (List.Sublist.refl _) first
  | chainGoesOn next _ sign _ ih =>
      simp only [Task.counted, next]
      exact binary_counted (by simp [sign]) (List.Sublist.refl _) ih

theorem read_all_counted (mode : ReadMode) (tokens : List Token) : (readAll mode tokens).tree.counted <+ tokens := by
  have ordered := (List.sublist_append_left _ _).trans (descent_counted (read_descent mode tokens.length .sum tokens))
  simp only [readAll]
  split
  · exact List.nil_sublist tokens
  · exact ordered

end Formula

namespace Grammar

def kept (ts : List Token) : List Token :=
  ts.filter fun token => token.kind ≠ .dot ∧ token.kind ≠ .leftParen ∧ token.kind ≠ .rightParen

-- A chain adds to what the formula on its left has kept.
def Keeps : (symbol : Symbol) → List Token → symbol.Meaning → Prop
  | .level _, ts, tree | .factor, ts, tree => tree.counted = kept ts
  | .chain, ts, extend => ∀ left, (extend left).counted = left.counted ++ kept ts

theorem kept_append (ts us : List Token) : kept (ts ++ us) = kept ts ++ kept us :=
  List.filter_append ts us

theorem kept_cons {token : Token} (ts : List Token)
    (spoken : token.kind ≠ .dot ∧ token.kind ≠ .leftParen ∧ token.kind ≠ .rightParen) :
    kept (token :: ts) = token :: kept ts :=
  List.filter_cons_of_pos (decide_eq_true spoken)

theorem kept_cons_tacit {token : Token} (ts : List Token)
    (tacit : token.kind = .dot ∨ token.kind = .leftParen ∨ token.kind = .rightParen) :
    kept (token :: ts) = kept ts :=
  List.filter_cons_of_neg (by rcases tacit with kind | kind | kind <;> simp [kind])

theorem keeps_unary {inner : Formula} {op : Token} {ts : List Token} (kind : op.kind.isUnary = true)
    (first : inner.counted = kept ts) : (Formula.unary op inner).counted = kept (op :: ts) := by
  have spoken : op.kind ≠ .dot ∧ op.kind ≠ .leftParen ∧ op.kind ≠ .rightParen := by
    cases same : op.kind <;> simp_all [Kind.isUnary, Kind.isFunction]
  rw [Formula.counted_unary spoken.1, kept_cons ts spoken, first]

theorem keeps_between {left right : Formula} {op : Token} {ts us : List Token}
    (kind : op.kind = .plus ∨ op.kind = .minus ∨ op.kind = .caret) (first : left.counted = kept ts)
    (second : right.counted = kept us) : (Formula.binary left op right).counted = kept (ts ++ op :: us) := by
  have spoken : op.kind ≠ .dot ∧ op.kind ≠ .leftParen ∧ op.kind ≠ .rightParen := by
    rcases kind with kind | kind | kind <;> simp [kind]
  have whole : op.kind ≠ .fraction := by
    rcases kind with kind | kind | kind <;> simp [kind]
  rw [Formula.counted_between spoken.1 whole, kept_append, kept_cons us spoken, first, second]

theorem keeps_product {right : Formula} {op : Token} {us : List Token} (left : Formula) (sign : op.kind = .dot)
    (second : right.counted = kept us) :
    (Formula.binary left op right).counted = left.counted ++ kept (op :: us) := by
  rw [Formula.counted_product sign, kept_cons_tacit us (.inl sign), second]

theorem keeps_factor {factor : Formula} {first : Token} {ts : List Token} (left : Formula)
    (spelled : factor.counted = kept (first :: ts)) :
    (Formula.binary left (unwritten first) factor).counted = left.counted ++ kept (first :: ts) := by
  rw [← spelled]
  exact Formula.counted_product rfl left factor

theorem Derivation.keeps {implicit : ImplicitFactor} {symbol : Symbol} {ts : List Token}
    (derivation : Derivation implicit symbol ts) : Keeps symbol ts derivation.tree := by
  induction derivation with
  | product _ ih | negation _ ih | power _ ih | quotient _ ih | call _ ih | operand _ ih => exact ih
  | sum _ sign _ first second => exact keeps_between (by grind) first second
  | times _ sign _ first second =>
      rw [Keeps, kept_append, ← first]
      exact keeps_product _ sign second
  | beside _ _ first second =>
      rw [Keeps, kept_append, ← first]
      exact second _
  | negate sign _ ih => exact keeps_unary (by rw [sign]; rfl) ih
  | raise _ sign _ first second => exact keeps_between (.inr (.inr sign)) first second
  | divide sign _ _ first second =>
      rw [Keeps, kept_cons _ (by simp [sign]), kept_append, ← first, ← second]
      exact Formula.counted_fraction sign _ _
  | apply function _ ih | callFactor _ function _ ih => exact keeps_unary (by simp [Kind.isUnary, function]) ih
  | literal kind | name kind =>
      rw [Keeps, kept_cons _ (by rcases kind with kind | kind <;> simp [kind])]
      rcases kind with kind | kind <;> simp [Derivation.tree, Formula.counted, Formula.tokens, kind, kept]
  | group opens _ closes ih =>
      rw [Keeps, kept_cons_tacit _ (.inr (.inl opens)), kept_append, kept_cons_tacit _ (.inr (.inr closes)),
        ← ih]
      exact (List.append_nil _).symm
  | operandFactor _ _ _ ih | powerFactor _ _ _ ih => exact ih
  | last _ ih => exact fun left => keeps_factor left ih
  | next _ _ ih more =>
      intro left
      refine (more _).trans ?_
      rw [keeps_factor left ih, List.append_assoc, ← kept_append]
      rfl
  | lastTimes _ _ sign _ ih more =>
      intro left
      refine (keeps_product _ sign more).trans ?_
      rw [keeps_factor left ih, List.append_assoc, ← kept_append]
      rfl

end Grammar

namespace Formula

theorem parse_keeps_order (mode : ReadMode) (tokens : List Token) :
    ((parse mode tokens).tree.tokens.filter fun token => token.kind ≠ .dot) <+ tokens ∧
    (mode.grouping = .strict → (parse mode tokens).valid = true →
      ((parse mode tokens).tree.tokens.filter fun token => token.kind ≠ .dot) =
        tokens.filter fun token => token.kind ≠ .dot ∧ token.kind ≠ .leftParen ∧ token.kind ≠ .rightParen) := by
  refine ⟨read_all_counted mode tokens, fun strict valid => ?_⟩
  obtain ⟨grouping, implicit⟩ := mode
  obtain rfl : grouping = .strict := strict
  obtain ⟨derivation⟩ := derivation_of_valid valid
  rw [parse_of_derivation .strict derivation]
  exact derivation.keeps

theorem parse_keeps_order_nested :
    let tokens := (Markup.scan .standard "-2a\\left(b-1\\right)+\\frac 3z\\cdot\\sin c").tokens
    let result := parse ⟨.strict, .primary⟩ tokens
    (result.tree.tokens.filter fun token => token.kind ≠ .dot) <+ tokens ∧ result.valid = true ∧
      (result.tree.tokens.filter fun token => token.kind ≠ .dot) =
        tokens.filter fun token => token.kind ≠ .dot ∧ token.kind ≠ .leftParen ∧ token.kind ≠ .rightParen := by
  intro tokens result
  have valid : result.valid = true := by decide +kernel
  obtain ⟨ordered, whole⟩ := parse_keeps_order ⟨.strict, .primary⟩ tokens
  exact ⟨ordered, valid, whole rfl valid⟩

end Formula

end EscapeTime
