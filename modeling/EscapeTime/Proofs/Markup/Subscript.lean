import EscapeTime.Markup

set_option autoImplicit false

namespace EscapeTime.Markup

-- Text inside `depth + 1` braces that does not close the outermost of them.
def Nested (depth : Nat) (inner : List Char) : Prop :=
  ∀ before, before <+: inner → before.count '}' ≤ before.count '{' + depth

-- After such text the next closing brace closes the outermost one.
def Balanced (depth : Nat) (inner : List Char) : Prop :=
  Nested depth inner ∧ inner.count '}' = inner.count '{' + depth

def Leads (c : Char) (depth next : Nat) : Prop :=
  next + [c].count '}' = depth + [c].count '{'

-- A character leads from one depth to another, unless it closes the outermost brace.
theorem leads_or_closes (c : Char) (depth : Nat) : (∃ next, Leads c depth next) ∨ c = '}' ∧ depth = 0 := by
  by_cases closes : c = '}'
  · subst closes
    cases depth with
    | zero => exact .inr ⟨rfl, rfl⟩
    | succ depth => exact .inl ⟨depth, by simp [Leads]⟩
  · exact .inl ⟨depth + [c].count '{', by simp [Leads, closes]⟩

theorem nested_nil (depth : Nat) : Nested depth [] := by
  intro before start
  rw [List.prefix_nil.mp start]
  simp

theorem nested_cons {depth next : Nat} {c : Char} {tail : List Char} (leads : Leads c depth next) :
    Nested depth (c :: tail) ↔ Nested next tail := by
  rw [Leads] at leads
  constructor
  · intro nested before start
    have bound := nested (c :: before) (List.cons_prefix_cons.mpr ⟨rfl, start⟩)
    rw [← List.singleton_append, List.count_append, List.count_append] at bound
    omega
  · intro nested before start
    rcases List.prefix_cons_iff.mp start with rfl | ⟨rest, rfl, within⟩
    · simp
    · have bound := nested rest within
      rw [← List.singleton_append, List.count_append, List.count_append]
      omega

theorem balanced_cons {depth next : Nat} {c : Char} {tail : List Char} (leads : Leads c depth next) :
    Balanced depth (c :: tail) ↔ Balanced next tail := by
  rw [Balanced, Balanced, nested_cons leads, ← List.singleton_append, List.count_append, List.count_append]
  rw [Leads] at leads
  exact and_congr_right fun _ => by omega

theorem not_nested_closing (tail : List Char) : ¬ Nested 0 ('}' :: tail) := by
  intro nested
  have bound := nested ['}'] (List.cons_prefix_cons.mpr ⟨rfl, List.nil_prefix⟩)
  simp at bound

theorem balanced_or_nested (depth : Nat) (source : List Char) :
    (∃ inner rest, source = inner ++ '}' :: rest ∧ Balanced depth inner) ∨ Nested depth source := by
  induction source generalizing depth with
  | nil => exact .inr (nested_nil depth)
  | cons c tail ih =>
      rcases leads_or_closes c depth with ⟨next, leads⟩ | ⟨rfl, rfl⟩
      · rcases ih next with ⟨inner, rest, rfl, balanced⟩ | nested
        · exact .inl ⟨c :: inner, rest, rfl, (balanced_cons leads).mpr balanced⟩
        · exact .inr ((nested_cons leads).mpr nested)
      · exact .inl ⟨[], tail, rfl, nested_nil 0, rfl⟩

theorem brace_width_cons {depth next : Nat} {c : Char} (leads : Leads c depth next) (tail : List Char) :
    braceWidth depth (c :: tail) = braceWidth next tail + 1 := by
  by_cases opens : c = '{'
  · obtain rfl : next = depth + 1 := by simpa [Leads, opens] using leads
    rw [opens, braceWidth]
  · by_cases closes : c = '}'
    · obtain rfl : next + 1 = depth := by simpa [Leads, closes] using leads
      rw [closes, braceWidth]
    · obtain rfl : next = depth := by simpa [Leads, opens, closes] using leads
      exact braceWidth.eq_5 next c tail opens (fun _ same => closes same) fun _ _ same => closes same

theorem brace_width_balanced {depth : Nat} {inner : List Char} (balanced : Balanced depth inner) (rest : List Char) :
    braceWidth depth (inner ++ '}' :: rest) = inner.length + 1 := by
  induction inner generalizing depth with
  | nil =>
      obtain rfl : depth = 0 := by simpa using balanced.2.symm
      rfl
  | cons c tail ih =>
      rcases leads_or_closes c depth with ⟨next, leads⟩ | ⟨rfl, rfl⟩
      · rw [List.cons_append, brace_width_cons leads, ih ((balanced_cons leads).mp balanced), List.length_cons]
      · exact absurd balanced.1 (not_nested_closing tail)

theorem brace_width_nested {depth : Nat} {inner : List Char} (nested : Nested depth inner) :
    braceWidth depth inner = inner.length := by
  induction inner generalizing depth with
  | nil => rfl
  | cons c tail ih =>
      rcases leads_or_closes c depth with ⟨next, leads⟩ | ⟨rfl, rfl⟩
      · rw [brace_width_cons leads, ih ((nested_cons leads).mp nested), List.length_cons]
      · exact absurd nested (not_nested_closing tail)

-- A subscript that nothing behind it can lengthen.
inductive Complete : List Char → Prop where
  | single {c : Char} (plain : c ≠ '{') : Complete ['_', c]
  | braced {inner : List Char} (balanced : Balanced 0 inner) : Complete ('_' :: '{' :: (inner ++ ['}']))

-- A subscript that lacks its character, or the brace that closes its group.
inductive CutShort : List Char → Prop where
  | bare : CutShort ['_']
  | unclosed {inner : List Char} (nested : Nested 0 inner) : CutShort ('_' :: '{' :: inner)

inductive Subscript : List Char → List Char → Prop where
  | absent {after : List Char} (plain : after.head? ≠ some '_') : Subscript [] after
  | complete {written after : List Char} (complete : Complete written) : Subscript written after
  | bare : Subscript ['_'] []
  | unclosed {inner : List Char} (nested : Nested 0 inner) : Subscript ('_' :: '{' :: inner) []

theorem subscript_width_absent {source : List Char} (plain : source.head? ≠ some '_') : subscriptWidth source = 0 := by
  refine subscriptWidth.eq_4 source ?_ ?_ ?_
  · rintro tail rfl
    exact plain rfl
  · rintro c tail rfl
    exact plain rfl
  · rintro rfl
    exact plain rfl

theorem Complete.width {written : List Char} (complete : Complete written) (after : List Char) :
    subscriptWidth (written ++ after) = written.length := by
  cases complete with
  | @single c plain => exact subscriptWidth.eq_2 c after plain
  | @braced inner balanced =>
      rw [List.cons_append, List.cons_append, List.append_assoc, subscriptWidth, List.singleton_append,
        brace_width_balanced balanced, List.length_cons, List.length_cons, List.length_append, List.length_singleton]

theorem Subscript.width {written after : List Char} (subscript : Subscript written after) :
    subscriptWidth (written ++ after) = written.length := by
  cases subscript with
  | absent plain => exact subscript_width_absent plain
  | complete complete => exact complete.width after
  | bare => rfl
  | unclosed nested =>
      rw [List.append_nil, subscriptWidth, brace_width_nested nested, List.length_cons, List.length_cons]

theorem subscript_exists (source : List Char) :
    ∃ written after, source = written ++ after ∧ Subscript written after := by
  by_cases marked : source.head? = some '_'
  · obtain ⟨tail, rfl⟩ := List.head?_eq_some_iff.mp marked
    cases tail with
    | nil => exact ⟨['_'], [], rfl, .bare⟩
    | cons c tail =>
        by_cases opens : c = '{'
        · subst opens
          rcases balanced_or_nested 0 tail with ⟨inner, rest, rfl, balanced⟩ | nested
          · exact ⟨_, rest, by simp, .complete (.braced balanced)⟩
          · exact ⟨_, [], (List.append_nil _).symm, .unclosed nested⟩
        · exact ⟨['_', c], tail, rfl, .complete (.single opens)⟩
  · exact ⟨[], source, rfl, .absent marked⟩

end EscapeTime.Markup
