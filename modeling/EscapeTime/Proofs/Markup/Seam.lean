import EscapeTime.Proofs.Markup.Segmentation

set_option autoImplicit false

namespace EscapeTime

def Token.shift (distance : Nat) (token : Token) : Token :=
  { token with offset := token.offset + distance }

namespace Markup

def Warning.shift (distance : Nat) (warning : Warning) : Warning :=
  { warning with offset := warning.offset + distance }

def UnknownCommand.shift (distance : Nat) (failure : UnknownCommand) : UnknownCommand :=
  { failure with offset := failure.offset + distance }

def Scan.shift (distance : Nat) (scan : Scan) : Scan :=
  ⟨scan.tokens.map (Token.shift distance), scan.warnings.map (Warning.shift distance),
    scan.failure.map (UnknownCommand.shift distance)⟩

def Scan.followedBy (first second : Scan) : Scan :=
  ⟨first.tokens ++ second.tokens, first.warnings ++ second.warnings, second.failure⟩

inductive BareName : List Char → Prop where
  | letter {c : Char} (alpha : c.isAlpha = true) : BareName [c]
  | greek {letter : String} (known : letter ∈ greekLetters) : BareName ('\\' :: letter.toList)

def EndsInSubscript (names : Dictionary) (source : List Char) : Prop :=
  ∃ segments name subscript, Split names (name ++ subscript) source segments ∧ BareName name ∧ CutShort subscript

variable {names : Dictionary}

section Blanks

variable {w : Char}

theorem blank_not_digit (blank : Text.isBlank w = true) : w.isDigit = false := by
  rw [Bool.eq_false_iff]
  intro digit
  obtain ⟨above, below⟩ := alphanum_range (c := w) (by simp [Char.isAlphanum, digit])
  rw [Text.is_blank_ascii w below] at blank
  simp only [Bool.or_eq_true, decide_eq_true_eq] at blank
  omega

theorem blank_ne {c : Char} (blank : Text.isBlank w = true) (solid : Text.isBlank c = false) : w ≠ c := by
  rintro rfl
  cases blank.symm.trans solid

theorem head_across {c : Char} {after : List Char} (blank : Text.isBlank w = true) (solid : Text.isBlank c = false)
    (plain : after.head? ≠ some c) (rest : List Char) : (after ++ w :: rest).head? ≠ some c := by
  cases after with
  | nil => simpa using blank_ne blank solid
  | cons head tail => exact plain

theorem Maximal.across {text after : List Char} (maximal : Maximal text after) (blank : Text.isBlank w = true)
    (rest : List Char) : Maximal text (after ++ w :: rest) := by
  intro more behind split longer
  rcases List.append_eq_append_iff.mp split with ⟨beyond, rfl, crossing⟩ | ⟨within, rfl, -⟩
  · cases beyond with
    | nil =>
        rw [List.append_nil] at longer ⊢
        exact maximal after [] (List.append_nil after).symm longer
    | cons head tail =>
        obtain ⟨rfl, -⟩ := List.cons.inj crossing
        rcases longer.chars w (by simp) with digit | point
        · cases digit.symm.trans (blank_not_digit blank)
        · exact absurd point (blank_ne blank (by decide))
  · exact maximal more within rfl longer

theorem Subscript.across {written after : List Char} (subscript : Subscript written after)
    (closed : after = [] → ¬ CutShort written) (blank : Text.isBlank w = true) (rest : List Char) :
    Subscript written (after ++ w :: rest) := by
  cases subscript with
  | absent plain => exact .absent (head_across blank (by decide) plain rest)
  | complete complete => exact .complete complete
  | bare => exact absurd .bare (closed rfl)
  | unclosed nested => exact absurd (.unclosed nested) (closed rfl)

-- No segment and no look ahead of one goes beyond the blank.
theorem IsSegment.across {text after : List Char} {lexeme : Lexeme} (stands : IsSegment names text after lexeme)
    (closed : after = [] → ∀ name subscript, text = name ++ subscript → BareName name → ¬ CutShort subscript)
    (blank : Text.isBlank w = true) (rest : List Char) : IsSegment names text (after ++ w :: rest) lexeme := by
  cases stands with
  | blank blank => exact .blank blank
  | parenthesis plain => exact .parenthesis plain
  | space => exact .space
  | sign known => exact .sign known
  | command known => exact .command known
  | real numeral maximal plain =>
      refine .real numeral (maximal.across blank rest) fun behind next => ?_
      cases after with
      | nil => exact absurd (List.cons.inj next).1 (blank_ne blank (by decide))
      | cons head tail =>
          rw [List.cons_append] at next
          obtain ⟨rfl, rfl⟩ := List.cons.inj next
          rw [List.head?_append, plain tail rfl, Option.some_or]
  | imaginary numeral plain => exact .imaginary numeral (head_across blank (by decide) plain rest)
  | greek known subscript =>
      exact .greek known (subscript.across (fun ended => closed ended _ _ rfl (.greek known)) blank rest)
  | identifier alpha subscript free =>
      exact .identifier alpha (subscript.across (fun ended => closed ended _ _ rfl (.letter alpha)) blank rest) free
  | parameter alpha subscript reserved =>
      exact .parameter alpha (subscript.across (fun ended => closed ended _ _ rfl (.letter alpha)) blank rest) reserved
  | stray foreign => exact .stray foreign

theorem Split.across {source : List Char} {segments : List Segment} (split : Split names [] source segments)
    (closed : ¬ EndsInSubscript names source) (blank : Text.isBlank w = true) (rest : List Char) :
    Split names (w :: rest) (source ++ w :: rest) segments := by
  induction split with
  | nil => exact .nil
  | cons stands _ ih =>
      rw [List.append_assoc]
      refine .cons (stands.across ?_ blank rest) (ih ?_)
      · rintro rfl name subscript rfl bare cut
        rw [List.append_nil] at closed
        exact closed ⟨[], name, subscript, .nil, bare, cut⟩
      · rintro ⟨more, name, subscript, split, bare, cut⟩
        exact closed ⟨_, name, subscript, .cons stands split, bare, cut⟩

end Blanks

theorem Scan.prepend_shift (lexeme : Lexeme) (offset distance : Nat) (rest : Scan) :
    Scan.prepend lexeme (offset + distance) (rest.shift distance) =
      (Scan.prepend lexeme offset rest).shift distance := by
  cases lexeme <;> rfl

theorem scan_from_shift (distance offset : Nat) (source : List Char) :
    scanFrom names (offset + distance) source = (scanFrom names offset source).shift distance := by
  induction offset, source using scanFrom.induct names with
  | case1 offset =>
      rw [scanFrom, scanFrom]
      rfl
  | case2 offset head tail lexeme width read ih =>
      rw [scanFrom, scanFrom, read]
      dsimp only
      rw [← Scan.prepend_shift, ← ih, Nat.add_right_comm]

theorem split_of_complete {source : String} (complete : (scan names source).failure = none) :
    ∃ segments, Split names [] source.toList segments := by
  obtain ⟨segments, rest, split, ended⟩ := split_exists names source.toList
  rcases ended with rfl | ⟨tail, rfl, unknown⟩
  · exact ⟨segments, split⟩
  · rw [scan, scan_from_split split, scan_from_unknown unknown] at complete
    cases complete

theorem Scan.behind_eq (row : List (Nat × Segment)) (rest : Scan) :
    Scan.behind row rest = (Scan.behind row ⟨[], [], none⟩).followedBy rest := by
  simp only [behind, followedBy, List.append_nil]

theorem scan_from_blank {w : Char} (blank : Text.isBlank w = true) (offset : Nat) (rest : List Char) :
    scanFrom names offset (w :: rest) = scanFrom names (offset + 1) rest :=
  scan_from_segment (.blank blank) offset

-- The blank itself gives nothing; it takes one place.
theorem scan_across_blank (names : Dictionary) (a b : String) (w : Char) (blank : Text.isBlank w = true)
    (complete : (scan names a).failure = none) (closed : ¬ EndsInSubscript names a.toList) :
    scan names (a ++ String.singleton w ++ b) =
      (scan names a).followedBy ((scan names b).shift (a.length + 1)) := by
  obtain ⟨segments, split⟩ := split_of_complete complete
  have source : (a ++ String.singleton w ++ b).toList = a.toList ++ w :: b.toList := by
    simp
  have width : (segments.flatMap Segment.text).length = a.length := by
    rw [← String.length_toList, split.source_eq, List.append_nil]
  have first : scan names a = Scan.behind (placed 0 segments) ⟨[], [], none⟩ := by
    rw [scan, scan_from_split split, scanFrom]
  calc scan names (a ++ String.singleton w ++ b)
    _ = scanFrom names 0 (a.toList ++ w :: b.toList) := by rw [scan, source]
    _ = Scan.behind (placed 0 segments) (scanFrom names (0 + a.length) (w :: b.toList)) := by
        rw [scan_from_split (split.across closed blank b.toList), width]
    _ = Scan.behind (placed 0 segments) (scanFrom names (0 + (a.length + 1)) b.toList) := by
        rw [scan_from_blank blank, Nat.add_assoc]
    _ = (scan names a).followedBy ((scan names b).shift (a.length + 1)) := by
        rw [Scan.behind_eq, ← first, scan_from_shift]
        rfl

theorem EndsInSubscript.last {source : List Char} (inside : EndsInSubscript names source) :
    source.getLast? = some '_' ∨ '{' ∈ source := by
  obtain ⟨segments, name, subscript, split, -, cut⟩ := inside
  rw [split.source_eq]
  cases cut with
  | bare => exact .inl (by simp)
  | unclosed _ => exact .inr (by simp)

-- The subscript before the blank is complete, and the text behind it would make the number imaginary.
theorem scan_across_blank_failing :
    let a := "x_1\\frac2"
    let b := "i?\\q"
    Text.isBlank '\u3000' = true ∧ (scan .standard a).failure = none ∧ ¬ EndsInSubscript .standard a.toList ∧
      scan .standard (a ++ String.singleton '\u3000' ++ b) =
        (scan .standard a).followedBy ((scan .standard b).shift (a.length + 1)) ∧
      (scan .standard (a ++ String.singleton '\u3000' ++ b)).failure = some ⟨"q", 12⟩ := by
  intro a b
  have blank : Text.isBlank '\u3000' = true := by decide
  have complete : (scan .standard a).failure = none := by decide +kernel
  have closed : ¬ EndsInSubscript .standard a.toList := by
    intro inside
    rcases inside.last with last | brace
    · exact absurd last (by decide)
    · exact absurd brace (by decide)
  have whole := scan_across_blank .standard a b '\u3000' blank complete closed
  exact ⟨blank, complete, closed, whole, by rw [whole]; decide +kernel⟩

end Markup

end EscapeTime
