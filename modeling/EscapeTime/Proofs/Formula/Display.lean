import EscapeTime.Proofs.Formula.Leaves
import EscapeTime.Proofs.Formula.Spelling

set_option autoImplicit false

namespace EscapeTime

open Markup
open scoped List

theorem run_unique {test : Char → Bool} {run other rest behind : List Char} (all : ∀ c ∈ run, test c = true)
    (ends : ∀ c ∈ rest.head?, test c = false) (also : ∀ c ∈ other, test c = true)
    (stops : ∀ c ∈ behind.head?, test c = false) (same : run ++ rest = other ++ behind) :
    run = other ∧ rest = behind := by
  obtain ⟨taken, dropped⟩ := Decimal.take_while_run rest all ends
  obtain ⟨otherTaken, otherDropped⟩ := Decimal.take_while_run behind also stops
  rw [same] at taken dropped
  exact ⟨taken.symm.trans otherTaken, dropped.symm.trans otherDropped⟩

section Subscripts

def brackets (count : Nat) : List Char :=
  List.replicate count ']'

theorem brackets_ne_brace (count : Nat) (rest : List Char) : '}' :: rest ≠ brackets count := by
  intro same
  have bracket := List.eq_of_mem_replicate (same ▸ List.mem_cons_self .. : '}' ∈ brackets count)
  exact absurd bracket (by decide)

theorem brackets_nested (depth count : Nat) : Nested depth (brackets count) := by
  intro before start
  have none : '}' ∉ before := by
    intro member
    exact absurd (List.eq_of_mem_replicate (start.subset member)) (by decide)
  rw [List.count_eq_zero_of_not_mem none]
  exact Nat.zero_le _

-- A subscript, or none, and what follows the brace behind it.
inductive Ends : List Char → List Char → Prop where
  | settled {written rest : List Char} (subscript : written = [] ∨ Complete written) : Ends written rest
  | cut {written : List Char} {count : Nat} (cut : CutShort written) : Ends written (brackets count)

theorem settled_width {written : List Char} (subscript : written = [] ∨ Complete written) (rest : List Char) :
    subscriptWidth (written ++ '}' :: rest) = written.length := by
  rcases subscript with rfl | complete
  · exact subscript_width_absent (by simp)
  · exact complete.width _

-- The brace behind a group that was cut closes it, or closes a group inside it and nothing closes it any more.
theorem brace_width_cut {depth : Nat} {inner : List Char} (nested : Nested depth inner) (count : Nat) :
    (inner ++ '}' :: brackets count).drop (braceWidth depth (inner ++ '}' :: brackets count)) = brackets count ∨
      (inner ++ '}' :: brackets count).drop (braceWidth depth (inner ++ '}' :: brackets count)) = [] := by
  induction inner generalizing depth with
  | nil =>
      cases depth with
      | zero => exact .inl rfl
      | succ depth =>
          have leads : Leads '}' (depth + 1) depth := by simp [Leads]
          rw [List.nil_append, brace_width_cons leads, brace_width_nested (brackets_nested depth count)]
          exact .inr List.drop_length
  | cons c tail ih =>
      rcases leads_or_closes c depth with ⟨next, leads⟩ | ⟨rfl, rfl⟩
      · rw [List.cons_append, brace_width_cons leads, List.drop_succ_cons]
        exact ih ((nested_cons leads).mp nested)
      · exact absurd nested (not_nested_closing tail)

theorem cut_rest {written : List Char} (cut : CutShort written) (count : Nat) :
    (written ++ '}' :: brackets count).drop (subscriptWidth (written ++ '}' :: brackets count)) =
        brackets count ∨
      (written ++ '}' :: brackets count).drop (subscriptWidth (written ++ '}' :: brackets count)) = [] := by
  cases cut with
  | bare =>
      have width : subscriptWidth ('_' :: '}' :: brackets count) = 2 := subscriptWidth.eq_2 _ _ (by decide)
      rw [List.singleton_append, width]
      exact .inl rfl
  | unclosed nested =>
      rw [List.cons_append, List.cons_append, subscriptWidth, List.drop_succ_cons, List.drop_succ_cons]
      exact brace_width_cut nested count

theorem settled_not_cut {written other rest : List Char} {count : Nat} (subscript : written = [] ∨ Complete written)
    (cut : CutShort other) : written ++ '}' :: rest ≠ other ++ '}' :: brackets count := by
  intro same
  have behind := cut_rest cut count
  rw [← same, settled_width subscript, List.drop_left] at behind
  rcases behind with behind | behind
  · exact brackets_ne_brace count rest behind
  · cases behind

-- Read from the end, the first brace is the one behind the leaf.
theorem cut_unique {written other : List Char} {count more : Nat}
    (same : written ++ '}' :: brackets count = other ++ '}' :: brackets more) :
    written = other ∧ brackets count = brackets more := by
  have turned := congrArg List.reverse same
  simp only [List.reverse_append, List.reverse_cons, List.append_assoc, List.singleton_append] at turned
  have bracket : ∀ count, ∀ c ∈ (brackets count).reverse, (c == ']') = true := by
    intro count c member
    rw [List.eq_of_mem_replicate (List.mem_reverse.mp member)]
    rfl
  obtain ⟨behind, before⟩ := run_unique (bracket count) (by simp) (bracket more) (by simp) turned
  exact ⟨List.reverse_inj.mp (List.cons.inj before).2, List.reverse_inj.mp behind⟩

theorem Ends.unique {written other rest behind : List Char} (first : Ends written rest) (second : Ends other behind)
    (same : written ++ '}' :: rest = other ++ '}' :: behind) : written = other ∧ rest = behind := by
  cases first with
  | settled subscript =>
      cases second with
      | settled also =>
          have width := settled_width subscript rest
          rw [same, settled_width also] at width
          obtain ⟨written, braced⟩ := List.append_inj same width.symm
          exact ⟨written, (List.cons.inj braced).2⟩
      | cut cut => exact absurd same (settled_not_cut subscript cut)
  | cut cut =>
      cases second with
      | settled also => exact absurd same.symm (settled_not_cut also cut)
      | cut _ => exact cut_unique same

theorem Ends.head {written rest : List Char} (ends : Ends written rest) :
    ∀ c ∈ (written ++ '}' :: rest).head?, c = '_' ∨ c = '}' := by
  intro c first
  cases ends with
  | settled subscript =>
      rcases subscript with rfl | complete
      · exact .inr (Option.some.inj first).symm
      · cases complete <;> exact .inl (Option.some.inj first).symm
  | cut cut => cases cut <;> exact .inl (Option.some.inj first).symm

end Subscripts

section Leaves

def inStem (c : Char) : Bool :=
  c != '_' && c != '}'

-- A text and what follows the brace behind it: a stem, which ends at the underscore or the brace, and the subscript.
inductive Labels : List Char → List Char → Prop where
  | intro {stem written rest : List Char} (plain : ∀ c ∈ stem, inStem c = true) (ends : Ends written rest) :
      Labels (stem ++ written) rest

theorem Labels.unique {text other rest behind : List Char} (first : Labels text rest) (second : Labels other behind)
    (same : text ++ '}' :: rest = other ++ '}' :: behind) : text = other ∧ rest = behind := by
  have outside : ∀ {written rest : List Char}, Ends written rest →
      ∀ c ∈ (written ++ '}' :: rest).head?, inStem c = false := by
    intro written rest ends c first
    rcases ends.head c first with rfl | rfl <;> rfl
  obtain ⟨plain, ends⟩ := first
  obtain ⟨also, stops⟩ := second
  rw [List.append_assoc, List.append_assoc] at same
  obtain ⟨rfl, subscripts⟩ := run_unique plain (outside ends) also (outside stops) same
  obtain ⟨rfl, rfl⟩ := ends.unique stops subscripts
  exact ⟨rfl, rfl⟩

def inKind (c : Char) : Bool :=
  c.isUpper || c == '_'

theorem Kind.name_chars (kind : Kind) : ∀ c ∈ kind.name.toList, inKind c = true := by
  cases kind <;> exact List.all_eq_true.mp rfl

theorem Kind.name_ne_nil (kind : Kind) : kind.name.toList ≠ [] := by
  cases kind <;> decide

theorem Kind.name_injective {kind other : Kind} (same : kind.name = other.name) : kind = other := by
  cases kind <;> cases other <;> first | rfl | exact absurd same (by decide)

theorem kinds_unique {kind other : Kind} {rest behind : List Char} (ends : ∀ c ∈ rest.head?, inKind c = false)
    (stops : ∀ c ∈ behind.head?, inKind c = false)
    (same : kind.name.toList ++ rest = other.name.toList ++ behind) : kind = other ∧ rest = behind := by
  obtain ⟨names, rests⟩ := run_unique kind.name_chars ends other.name_chars stops same
  exact ⟨Kind.name_injective (String.toList_injective names), rests⟩

def Token.Labels (token : Token) (rest : List Char) : Prop :=
  ∃ text, token.value = some text ∧ EscapeTime.Labels text.toList rest

theorem Token.display_labels {token : Token} {text : String} (carries : token.value = some text) (rest : List Char) :
    token.display.toList ++ rest =
      '{' :: (token.kind.name.toList ++ ':' :: ' ' :: (text.toList ++ '}' :: rest)) := by
  simp [Token.display, carries]

theorem Token.display_bare {token : Token} (bare : token.value = none) : token.display = token.kind.name := by
  simp [Token.display, bare]

theorem Token.unplaced_eq {token other : Token} (kind : token.kind = other.kind) (value : token.value = other.value) :
    token.unplaced = other.unplaced := by
  rw [Token.unplaced, Token.unplaced, kind, value]

theorem Token.Labels.unique {token other : Token} {rest behind : List Char} (first : token.Labels rest)
    (second : other.Labels behind) (same : token.display.toList ++ rest = other.display.toList ++ behind) :
    token.kind = other.kind ∧ token.unplaced = other.unplaced ∧ rest = behind := by
  obtain ⟨text, carries, labels⟩ := first
  obtain ⟨otherText, also, stops⟩ := second
  rw [Token.display_labels carries, Token.display_labels also] at same
  obtain ⟨kinds, texts⟩ := kinds_unique (by simp [inKind]) (by simp [inKind]) (List.cons.inj same).2
  obtain ⟨chars, rests⟩ := labels.unique stops (List.cons.inj (List.cons.inj texts).2).2
  refine ⟨kinds, Token.unplaced_eq kinds ?_, rests⟩
  rw [carries, also, String.toList_injective chars]

theorem operator_not_leaf {op token : Token} (bare : op.value = none) {rest behind : List Char}
    (labels : token.Labels behind) : op.display.toList ++ rest ≠ token.display.toList ++ behind := by
  obtain ⟨text, carries, -⟩ := labels
  rw [Token.display_bare bare, Token.display_labels carries]
  obtain ⟨c, name, chars⟩ := List.exists_cons_of_ne_nil op.kind.name_ne_nil
  have letter := op.kind.name_chars c (by simp [chars])
  rw [chars]
  intro same
  rw [(List.cons.inj same).1] at letter
  cases letter

theorem operators_unique {op other : Token} (bare : op.value = none) (also : other.value = none)
    {rest behind : List Char} (same : op.display.toList ++ '[' :: rest = other.display.toList ++ '[' :: behind) :
    op.unplaced = other.unplaced ∧ rest = behind := by
  rw [Token.display_bare bare, Token.display_bare also] at same
  obtain ⟨kinds, rests⟩ := kinds_unique (by simp [inKind]) (by simp [inKind]) same
  exact ⟨Token.unplaced_eq kinds (bare.trans also.symm), (List.cons.inj rests).2⟩

end Leaves

namespace Formula

def Fits : Formula → List Char → Prop
  | unary op inner, rest => op.value = none ∧ inner.Fits (']' :: rest)
  | binary left op right, rest =>
      op.value = none ∧ left.Fits (',' :: ' ' :: (right.display.toList ++ ']' :: rest)) ∧ right.Fits (']' :: rest)
  | literal value, rest => value.kind.isLiteral = true ∧ value.Labels rest
  | symbol name, rest => name.kind.isName = true ∧ name.Labels rest
  | invalid _, _ => False

theorem display_unary (op : Token) (inner : Formula) (rest : List Char) :
    (unary op inner).display.toList ++ rest = op.display.toList ++ '[' :: (inner.display.toList ++ ']' :: rest) := by
  simp [display]

theorem display_binary (left : Formula) (op : Token) (right : Formula) (rest : List Char) :
    (binary left op right).display.toList ++ rest =
      op.display.toList ++
        '[' :: (left.display.toList ++ ',' :: ' ' :: (right.display.toList ++ ']' :: rest)) := by
  simp [display]

theorem literal_not_symbol {kind : Kind} (literal : kind.isLiteral = true) (named : kind.isName = true) : False := by
  rcases (Kind.is_literal_iff _).mp literal with rfl | rfl <;> cases named

-- A shown formula and what follows it can be told apart: no shown formula starts another. Negation and
-- subtraction look alike up to the end of the first operand, where a bracket or a comma decides.
theorem Fits.unique {formula other : Formula} {rest behind : List Char} (first : formula.Fits rest)
    (second : other.Fits behind) (same : formula.display.toList ++ rest = other.display.toList ++ behind) :
    formula.unplaced = other.unplaced ∧ rest = behind := by
  induction formula generalizing other rest behind with
  | unary op inner ih =>
      rw [display_unary] at same
      cases other with
      | unary op' inner' =>
          rw [display_unary] at same
          obtain ⟨ops, inners⟩ := operators_unique first.1 second.1 same
          obtain ⟨trees, rests⟩ := ih first.2 second.2 inners
          exact ⟨by rw [unplaced, unplaced, ops, trees], (List.cons.inj rests).2⟩
      | binary left' op' right' =>
          rw [display_binary] at same
          obtain ⟨-, operands⟩ := operators_unique first.1 second.1 same
          obtain ⟨-, rests⟩ := ih first.2 second.2.1 operands
          exact absurd (List.cons.inj rests).1 (by decide)
      | literal value => exact absurd same (operator_not_leaf first.1 second.2)
      | symbol name => exact absurd same (operator_not_leaf first.1 second.2)
      | invalid message => cases second
  | binary left op right leftUnique rightUnique =>
      rw [display_binary] at same
      cases other with
      | unary op' inner' =>
          rw [display_unary] at same
          obtain ⟨-, operands⟩ := operators_unique first.1 second.1 same
          obtain ⟨-, rests⟩ := leftUnique first.2.1 second.2 operands
          exact absurd (List.cons.inj rests).1 (by decide)
      | binary left' op' right' =>
          rw [display_binary] at same
          obtain ⟨ops, operands⟩ := operators_unique first.1 second.1 same
          obtain ⟨lefts, rests⟩ := leftUnique first.2.1 second.2.1 operands
          obtain ⟨rights, rests⟩ := rightUnique first.2.2 second.2.2 (List.cons.inj (List.cons.inj rests).2).2
          exact ⟨by rw [unplaced, unplaced, ops, lefts, rights], (List.cons.inj rests).2⟩
      | literal value => exact absurd same (operator_not_leaf first.1 second.2)
      | symbol name => exact absurd same (operator_not_leaf first.1 second.2)
      | invalid message => cases second
  | literal value =>
      cases other with
      | unary op' inner' => exact absurd ((display_unary ..).symm.trans same.symm) (operator_not_leaf second.1 first.2)
      | binary left' op' right' =>
          exact absurd ((display_binary ..).symm.trans same.symm) (operator_not_leaf second.1 first.2)
      | literal value' =>
          obtain ⟨-, tokens, rests⟩ := first.2.unique second.2 same
          exact ⟨by rw [unplaced, unplaced, tokens], rests⟩
      | symbol name' =>
          obtain ⟨kinds, -, -⟩ := first.2.unique second.2 same
          exact (literal_not_symbol first.1 (kinds ▸ second.1)).elim
      | invalid message => cases second
  | symbol name =>
      cases other with
      | unary op' inner' => exact absurd ((display_unary ..).symm.trans same.symm) (operator_not_leaf second.1 first.2)
      | binary left' op' right' =>
          exact absurd ((display_binary ..).symm.trans same.symm) (operator_not_leaf second.1 first.2)
      | literal value' =>
          obtain ⟨kinds, -, -⟩ := first.2.unique second.2 same
          exact (literal_not_symbol second.1 (kinds ▸ first.1)).elim
      | symbol name' =>
          obtain ⟨-, tokens, rests⟩ := first.2.unique second.2 same
          exact ⟨by rw [unplaced, unplaced, tokens], rests⟩
      | invalid message => cases second
  | invalid message => cases first

end Formula

section Scans

-- Every leaf tells where it ends, except that after the last one only brackets may follow.
def Tidy : List Token → Prop
  | [] => True
  | token :: more =>
      (token.kind.isLiteral = true ∨ token.kind.isName = true →
        ∀ rest, (more = [] → ∃ count, rest = brackets count) → token.Labels rest) ∧ Tidy more

theorem Tidy.sublist {tokens others : List Token} (tidy : Tidy tokens) (among : others <+ tokens) : Tidy others := by
  induction among with
  | slnil => trivial
  | cons _ _ ih => exact ih tidy.2
  | cons_cons token among ih =>
      refine ⟨fun leaf rest last => tidy.1 leaf rest fun none => last ?_, ih tidy.2⟩
      exact List.sublist_nil.mp (none ▸ among)

theorem Formula.fits_of_tidy {tokens more : List Token} {formula : Formula} {rest : List Char}
    (written : Written tokens formula) (plain : formula.Plain) (valid : formula.isValid = true)
    (tidy : Tidy (formula.leaves ++ more)) (last : more = [] → ∃ count, rest = brackets count) : formula.Fits rest := by
  induction written generalizing more rest with
  | unary _ _ ih =>
      refine ⟨plain.1, ih plain.2 valid tidy fun none => ?_⟩
      obtain ⟨count, rfl⟩ := last none
      exact ⟨count + 1, rfl⟩
  | @binary left right op _ _ _ first second =>
      obtain ⟨leftValid, rightValid⟩ := Bool.and_eq_true_iff.mp valid
      rw [leaves, List.append_assoc] at tidy
      have behind : Tidy (right.leaves ++ more) := tidy.sublist (List.sublist_append_right _ _)
      refine ⟨plain.1, first plain.2.1 leftValid tidy fun none => ?_, second plain.2.2 rightValid behind fun none => ?_⟩
      · exact absurd (List.append_eq_nil_iff.mp none).1 (leaves_ne_nil rightValid)
      · obtain ⟨count, rfl⟩ := last none
        exact ⟨count + 1, rfl⟩
  | literal kind _ => exact ⟨kind, tidy.1 (.inl kind) rest last⟩
  | symbol kind _ => exact ⟨kind, tidy.1 (.inr kind) rest last⟩
  | invalid message => cases valid

theorem labels_plain {text : List Char} (plain : ∀ c ∈ text, inStem c = true) (rest : List Char) :
    Labels text rest := by
  rw [← List.append_nil text]
  exact .intro plain (.settled (.inl rfl))

theorem labels_numeral {text : List Char} (numeral : Numeral text) (rest : List Char) : Labels text rest := by
  refine labels_plain (fun c member => ?_) rest
  rcases numeral.chars c member with digit | rfl
  · simp only [inStem, Bool.and_eq_true, bne_iff_ne]
    exact ⟨Decimal.digit_ne digit rfl, Decimal.digit_ne digit rfl⟩
  · rfl

theorem labels_subscript {stem written after rest : List Char} (plain : ∀ c ∈ stem, inStem c = true)
    (subscript : Subscript written after) (last : after = [] → ∃ count, rest = brackets count) :
    Labels (stem ++ written) rest := by
  cases subscript with
  | absent _ => exact .intro plain (.settled (.inl rfl))
  | complete complete => exact .intro plain (.settled (.inr complete))
  | bare =>
      obtain ⟨count, rfl⟩ := last rfl
      exact .intro plain (.cut .bare)
  | unclosed nested =>
      obtain ⟨count, rfl⟩ := last rfl
      exact .intro plain (.cut (.unclosed nested))

theorem greek_in_stem : ∀ letter ∈ greekLetters, ∀ c ∈ '\\' :: letter.toList, inStem c = true := by
  have all : ∀ letter ∈ greekLetters, ('\\' :: letter.toList).all inStem = true := by decide
  exact fun letter known => List.all_eq_true.mp (all letter known)

theorem letter_in_stem {letter : Char} (alpha : letter.isAlpha = true) : ∀ c ∈ [letter], inStem c = true := by
  intro c member
  rw [List.mem_singleton.mp member]
  have noScore : letter ≠ '_' := by rintro rfl; cases alpha
  have noBrace : letter ≠ '}' := by rintro rfl; cases alpha
  simp [inStem, noScore, noBrace]

-- Parameters are shown by their texts, so these have to be plain.
def PlainTexts (names : Dictionary) : Prop :=
  ∀ name text, names.get? name = some text → ∀ c ∈ text.toList, inStem c = true

-- Names can be cut short only where the source ends, and no token follows there.
theorem segment_labels {names : Dictionary} (texts : PlainTexts names) {written after : List Char} {kind : Kind}
    {value : Option String} (stands : IsSegment names written after (.token kind value))
    (leaf : kind.isLiteral = true ∨ kind.isName = true) {rest : List Char}
    (last : after = [] → ∃ count, rest = brackets count) : ∃ text, value = some text ∧ Labels text.toList rest := by
  cases stands with
  | sign known =>
      have operators : ∀ entry ∈ signs, ¬ (entry.2.isLiteral = true ∨ entry.2.isName = true) := by decide
      exact absurd leaf (operators _ known)
  | command known =>
      have operators : ∀ entry ∈ commands, ¬ (entry.2.isLiteral = true ∨ entry.2.isName = true) := by decide
      exact absurd leaf (operators _ known)
  | real numeral _ _ => exact ⟨_, rfl, String.toList_ofList ▸ labels_numeral numeral rest⟩
  | imaginary numeral _ => exact ⟨_, rfl, String.toList_ofList ▸ labels_numeral numeral rest⟩
  | @greek letter written after known subscript =>
      exact ⟨_, rfl, String.toList_ofList ▸ labels_subscript (greek_in_stem letter known) subscript last⟩
  | identifier alpha subscript _ =>
      exact ⟨_, rfl, String.toList_ofList ▸ labels_subscript (letter_in_stem alpha) subscript last⟩
  | parameter _ _ reserved => exact ⟨_, rfl, labels_plain (texts _ _ reserved) rest⟩

theorem Markup.Split.eq_nil {names : Dictionary} {source rest : List Char} {segments : List Segment}
    (split : Split names rest source segments) (empty : source = []) : segments = [] := by
  cases split with
  | nil => rfl
  | cons stands _ => exact absurd (List.append_eq_nil_iff.mp empty).1 stands.ne_nil

theorem Markup.Split.tidy {names : Dictionary} (texts : PlainTexts names) {source rest : List Char}
    {segments : List Segment} (split : Split names rest source segments) (offset : Nat) :
    Tidy ((placed offset segments).filterMap tokenOf?) := by
  induction split generalizing offset with
  | nil => trivial
  | @cons text after lexeme more stands split ih =>
      cases lexeme with
      | skipped | stray _ | unknown _ => exact ih _
      | token kind value =>
          refine ⟨fun leaf rest last => segment_labels texts stands leaf fun ended => last ?_, ih _⟩
          rw [split.eq_nil ended]
          rfl

theorem scan_tidy {names : Dictionary} (texts : PlainTexts names) (source : String) :
    Tidy (scan names source).tokens := by
  obtain ⟨segments, rest, split, ended⟩ := split_exists names source.toList
  rw [(scan_split split ended).2.1]
  exact split.tidy texts 0

theorem scan_bare {names : Dictionary} {source : String} {token : Token} (member : token ∈ (scan names source).tokens)
    (literal : token.kind.isLiteral = false) (named : token.kind.isName = false) : token.value = none := by
  have carries := scan_carries member
  cases kind : token.kind <;> simp_all [Carries, Kind.isLiteral, Kind.isName]

end Scans

namespace Formula

theorem parse_fits {names : Dictionary} (texts : PlainTexts names) (mode : ReadMode) (source : String)
    (valid : (parse mode (scan names source).tokens).valid = true) :
    (parse mode (scan names source).tokens).tree.Fits [] := by
  have plain := parse_plain mode fun token (member : token ∈ (scan names source).tokens) => scan_bare member
  have tidy := (scan_tidy texts source).sublist (parse_leaves mode _)
  rw [parse_valid_eq] at valid
  rw [← List.append_nil (leaves _)] at tidy
  exact fits_of_tidy (parse_written mode _) plain valid tidy fun _ => ⟨0, rfl⟩

theorem display_unplaced (formula : Formula) : formula.unplaced.display = formula.display := by
  induction formula with
  | unary op inner ih => rw [unplaced, display, display, ih]; rfl
  | binary left op right first second => rw [unplaced, display, display, first, second]; rfl
  | literal value => rfl
  | symbol name => rfl
  | invalid message => rfl

theorem standard_plain : PlainTexts .standard := by
  intro name text reserved
  have plain : ∀ entry ∈ Dictionary.standard.entries, entry.2.toList.all inStem = true := by decide +kernel
  exact List.all_eq_true.mp (plain (name, text) (Dictionary.standard.get?_eq_some_iff.mp reserved))

-- Two formulas that were read from markup are shown alike only if they are alike.
theorem display_unambiguous (mode other : ReadMode) (source second : String)
    (valid : (parse mode (scan .standard source).tokens).valid = true)
    (also : (parse other (scan .standard second).tokens).valid = true) :
    (parse mode (scan .standard source).tokens).tree.display =
        (parse other (scan .standard second).tokens).tree.display ↔
      (parse mode (scan .standard source).tokens).tree.unplaced =
        (parse other (scan .standard second).tokens).tree.unplaced := by
  constructor
  · intro same
    have first := parse_fits standard_plain mode source valid
    have fits := parse_fits standard_plain other second also
    exact (first.unique fits (by rw [same])).1
  · intro same
    rw [← display_unplaced, same, display_unplaced]

-- Subtraction against negation, a brace and a bracket as subscripts, and a group that nothing closes.
theorem display_unambiguous_cut :
    let tree := (parse .standard (scan .standard "-a_\x7d-\\sin b_\x7b], \x7b\x7d]").tokens).tree
    let spaced := (parse ⟨.strict, .exponent⟩ (scan .standard "- a_\x7d  -\\sin\\ b_\x7b], \x7b\x7d]").tokens).tree
    tree ≠ spaced ∧ tree.display = spaced.display ∧ tree.unplaced = spaced.unplaced := by
  refine ⟨by decide +kernel, by decide +kernel, ?_⟩
  exact (display_unambiguous .standard ⟨.strict, .exponent⟩ _ _ (by decide +kernel) (by decide +kernel)).mp
    (by decide +kernel)

end Formula

end EscapeTime
