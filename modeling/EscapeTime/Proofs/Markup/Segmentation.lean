import EscapeTime.Proofs.Markup.Segment

set_option autoImplicit false

namespace EscapeTime.Markup

structure Segment where
  text : List Char
  lexeme : Lexeme

-- The source is these segments, one behind the other, and then the rest.
inductive Split (names : Dictionary) (rest : List Char) : List Char → List Segment → Prop where
  | nil : Split names rest rest []
  | cons {text after : List Char} {lexeme : Lexeme} {more : List Segment}
      (stands : IsSegment names text after lexeme) (split : Split names rest after more) :
      Split names rest (text ++ after) (⟨text, lexeme⟩ :: more)

def placed : Nat → List Segment → List (Nat × Segment)
  | _, [] => []
  | offset, first :: more => (offset, first) :: placed (offset + first.text.length) more

def tokenOf? : Nat × Segment → Option Token
  | (offset, ⟨_, .token kind value⟩) => some ⟨kind, value, offset⟩
  | _ => none

def warningOf? : Nat × Segment → Option Warning
  | (offset, ⟨_, .stray character⟩) => some ⟨character, offset⟩
  | _ => none

def Scan.behind (row : List (Nat × Segment)) (rest : Scan) : Scan :=
  ⟨row.filterMap tokenOf? ++ rest.tokens, row.filterMap warningOf? ++ rest.warnings, rest.failure⟩

def Scan.stop (scan : Scan) (source : String) : Nat :=
  match scan.failure with
  | some failure => failure.offset
  | none => source.length

theorem Scan.behind_append (row more : List (Nat × Segment)) (rest : Scan) :
    Scan.behind (row ++ more) rest = Scan.behind row (Scan.behind more rest) := by
  simp only [behind, List.filterMap_append, List.append_assoc]

variable {names : Dictionary}

theorem IsSegment.ne_nil {text after : List Char} {lexeme : Lexeme} (stands : IsSegment names text after lexeme) :
    text ≠ [] := by
  obtain ⟨head, tail, rfl, -⟩ := stands.read
  exact List.cons_ne_nil head tail

theorem IsSegment.unique {text other after rest : List Char} {lexeme lexeme' : Lexeme}
    (first : IsSegment names text after lexeme) (second : IsSegment names other rest lexeme')
    (same : text ++ after = other ++ rest) : text = other ∧ after = rest ∧ lexeme = lexeme' := by
  obtain ⟨head, tail, rfl, read⟩ := first.read
  obtain ⟨head', tail', rfl, read'⟩ := second.read
  rw [List.cons_append, List.cons_append] at same
  obtain ⟨rfl, tails⟩ := List.cons.inj same
  rw [tails, read'] at read
  obtain ⟨rfl, width⟩ := Prod.mk.inj read
  obtain ⟨rfl, rfl⟩ := List.append_inj tails width.symm
  exact ⟨rfl, rfl, rfl⟩

theorem IsSegment.prepend {text after : List Char} {lexeme : Lexeme} (stands : IsSegment names text after lexeme)
    (offset : Nat) (rest : Scan) :
    Scan.prepend lexeme offset rest = Scan.behind [(offset, ⟨text, lexeme⟩)] rest := by
  cases stands <;> rfl

theorem scan_from_segment {text after : List Char} {lexeme : Lexeme} (stands : IsSegment names text after lexeme)
    (offset : Nat) :
    scanFrom names offset (text ++ after) =
      Scan.behind [(offset, ⟨text, lexeme⟩)] (scanFrom names (offset + text.length) after) := by
  rw [← stands.prepend]
  obtain ⟨head, tail, rfl, read⟩ := stands.read
  rw [List.cons_append, scanFrom, read]
  simp only [List.drop_left, List.length_cons]

theorem scan_from_split {source rest : List Char} {segments : List Segment} (split : Split names rest source segments)
    (offset : Nat) :
    scanFrom names offset source = Scan.behind (placed offset segments)
      (scanFrom names (offset + (segments.flatMap Segment.text).length) rest) := by
  induction split generalizing offset with
  | nil => rfl
  | @cons text after lexeme more stands _ ih =>
      rw [scan_from_segment stands, ih, ← Scan.behind_append, List.flatMap_cons, List.length_append, ← Nat.add_assoc]
      rfl

theorem Split.source_eq {source rest : List Char} {segments : List Segment} (split : Split names rest source segments) :
    source = segments.flatMap Segment.text ++ rest := by
  induction split with
  | nil => rfl
  | cons _ _ ih => rw [List.flatMap_cons, List.append_assoc, ← ih]

theorem Split.unique {source source' rest : List Char} {segments others : List Segment}
    (split : Split names rest source segments) (other : Split names rest source' others) (same : source = source') :
    others = segments := by
  induction split generalizing source' others with
  | nil =>
      cases other with
      | nil => rfl
      | cons stands more =>
          have longer := congrArg List.length (same.trans (congrArg _ more.source_eq))
          have present := List.length_pos_iff.mpr stands.ne_nil
          simp only [List.length_append] at longer
          omega
  | cons stands split ih =>
      cases other with
      | nil =>
          have longer := congrArg List.length ((congrArg _ split.source_eq).symm.trans same)
          have present := List.length_pos_iff.mpr stands.ne_nil
          simp only [List.length_append] at longer
          omega
      | cons stands' more =>
          obtain ⟨rfl, rfl, rfl⟩ := stands.unique stands' same
          rw [ih more rfl]

theorem split_exists (names : Dictionary) (source : List Char) :
    ∃ segments rest, Split names rest source segments ∧
      (rest = [] ∨ ∃ tail, rest = '\\' :: tail ∧ Unknown tail) := by
  cases source with
  | nil => exact ⟨[], [], .nil, .inl rfl⟩
  | cons head tail =>
      rcases segment_exists names head tail with ⟨text, after, lexeme, same, stands⟩ | ⟨rfl, unknown⟩
      · have shorter : after.length < (head :: tail).length := by
          have present := List.length_pos_iff.mpr stands.ne_nil
          rw [same, List.length_append]
          omega
        obtain ⟨segments, rest, split, ended⟩ := split_exists names after
        exact ⟨⟨text, lexeme⟩ :: segments, rest, same ▸ .cons stands split, ended⟩
      · exact ⟨[], _, .nil, .inr ⟨tail, rfl, unknown⟩⟩
termination_by source.length
decreasing_by exact shorter

theorem scan_from_unknown {tail : List Char} (unknown : Unknown tail) (offset : Nat) :
    scanFrom names offset ('\\' :: tail) = ⟨[], [], some ⟨String.ofList (unknownName tail), offset⟩⟩ := by
  rw [scanFrom, segment_backslash, command_unknown unknown]
  rfl

-- Where reading ends, a row of segments is complete or an unknown command stands.
theorem scan_split {source : String} {rest : List Char} {segments : List Segment}
    (split : Split names rest source.toList segments)
    (ended : rest = [] ∨ ∃ tail, rest = '\\' :: tail ∧ Unknown tail) :
    (scan names source).stop source = (segments.flatMap Segment.text).length ∧
      (scan names source).tokens = (placed 0 segments).filterMap tokenOf? ∧
      (scan names source).warnings = (placed 0 segments).filterMap warningOf? ∧
      ∀ failure, (scan names source).failure = some failure → ∃ tail, rest = '\\' :: tail ∧
        Unknown tail ∧ failure.command = String.ofList (unknownName tail) := by
  rw [scan, scan_from_split split, Nat.zero_add]
  rcases ended with rfl | ⟨tail, rfl, unknown⟩
  · have whole : source.length = (segments.flatMap Segment.text).length := by
      rw [← String.length_toList, split.source_eq, List.append_nil]
    simp [scanFrom, Scan.behind, Scan.stop, whole]
  · rw [scan_from_unknown unknown]
    refine ⟨rfl, List.append_nil _, List.append_nil _, ?_⟩
    rintro failure ⟨⟩
    exact ⟨tail, rfl, unknown, rfl⟩

-- The warnings and tokens are those of the segments, each at the place where its segment starts, and nothing
-- that was read lies outside the segments.
theorem scan_segments (names : Dictionary) (source : String) :
    let result := scan names source
    let stop := result.stop source
    ∃ segments, Split names (source.toList.drop stop) source.toList segments ∧
      (∀ others, Split names (source.toList.drop stop) source.toList others → others = segments) ∧
      segments.flatMap Segment.text = source.toList.take stop ∧
      result.tokens = (placed 0 segments).filterMap tokenOf? ∧
      result.warnings = (placed 0 segments).filterMap warningOf? ∧
      ∀ failure, result.failure = some failure → ∃ tail, source.toList.drop stop = '\\' :: tail ∧
        Unknown tail ∧ failure.command = String.ofList (unknownName tail) := by
  intro result stop
  obtain ⟨segments, rest, split, ended⟩ := split_exists names source.toList
  obtain ⟨stopped, tokens, warnings, failed⟩ := scan_split split ended
  have remaining : source.toList.drop stop = rest := by
    rw [split.source_eq, show stop = _ from stopped, List.drop_left]
  have taken : source.toList.take stop = segments.flatMap Segment.text := by
    rw [split.source_eq, show stop = _ from stopped, List.take_left]
  rw [remaining]
  exact ⟨segments, split, fun others other => split.unique other rfl, taken.symm, tokens, warnings, failed⟩

end EscapeTime.Markup
