import EscapeTime.Proofs.Formula.Modes
import EscapeTime.Proofs.Formula.Written
import EscapeTime.Proofs.Markup.Segmentation

set_option autoImplicit false

namespace EscapeTime

open Markup

inductive Leaf (names : Dictionary) : Kind → Option String → Prop where
  | real {text : List Char} (numeral : Numeral text) : Leaf names .real (some (String.ofList text))
  | imaginary {text : List Char} (numeral : Numeral text) : Leaf names .imaginary (some (String.ofList text))
  | greek {letter : String} {written : List Char} (known : letter ∈ greekLetters)
      (subscript : written = [] ∨ Complete written) :
      Leaf names .identifier (some (String.ofList ('\\' :: (letter.toList ++ written))))
  | letter {letter : Char} {written : List Char} (alpha : letter.isAlpha = true)
      (subscript : written = [] ∨ Complete written) (free : names.get? (String.ofList (letter :: written)) = none) :
      Leaf names .identifier (some (String.ofList (letter :: written)))
  | parameter {letter : Char} {written : List Char} {text : String} (alpha : letter.isAlpha = true)
      (subscript : written = [] ∨ Complete written)
      (reserved : names.get? (String.ofList (letter :: written)) = some text) : Leaf names .parameter (some text)

inductive Expressible (names : Dictionary) : Formula → Prop where
  | unary {op : Token} {inner : Formula} (kind : op.kind.isUnary = true) (plain : op.value = none)
      (operand : Expressible names inner) : Expressible names (.unary op inner)
  | binary {left right : Formula} {op : Token} (kind : op.kind.isBinary = true) (plain : op.value = none)
      (first : Expressible names left) (second : Expressible names right) :
      Expressible names (.binary left op right)
  | literal {value : Token} (kind : value.kind.isLiteral = true) (leaf : Leaf names value.kind value.value) :
      Expressible names (.literal value)
  | symbol {name : Token} (kind : name.kind.isName = true) (leaf : Leaf names name.kind name.value) :
      Expressible names (.symbol name)

def Token.unplaced (token : Token) : Token :=
  { token with offset := 0 }

def Formula.unplaced : Formula → Formula
  | unary op inner => unary op.unplaced inner.unplaced
  | binary left op right => binary left.unplaced op.unplaced right.unplaced
  | literal value => literal value.unplaced
  | symbol name => symbol name.unplaced
  | invalid message => invalid message

-- How an operator is written: by its command, or as the character that is a token by itself.
def Kind.sign (kind : Kind) : List Char :=
  match commands.find? fun entry => entry.2 = kind with
  | some entry => '\\' :: entry.1.toList
  | none =>
      match kind with
      | plus => ['+']
      | minus => ['-']
      | caret => ['^']
      | _ => []

-- The words for literals and names are given; the rest follows from the shape of the formula.
def Formula.markup (spell : Token → List Char) : Formula → List Char
  | unary op inner => '{' :: ((op.kind.sign ++ inner.markup spell) ++ ['}'])
  | binary left op right =>
      if op.kind = .fraction then '{' :: ((op.kind.sign ++ (left.markup spell ++ right.markup spell)) ++ ['}'])
      else '{' :: ((left.markup spell ++ (op.kind.sign ++ right.markup spell)) ++ ['}'])
  | literal value => spell value ++ [' ']
  | symbol name => spell name ++ [' ']
  | invalid _ => []

variable {names : Dictionary}

theorem sign_segment {kind : Kind} (operator : kind.isUnary = true ∨ kind.isBinary = true) (after : List Char) :
    IsSegment names kind.sign after (.token kind none) := by
  cases found : commands.find? fun entry => entry.2 = kind with
  | some entry =>
      have same : entry.2 = kind := by simpa using List.find?_some found
      simp only [Kind.sign, found]
      exact same ▸ .command (List.mem_of_find?_eq_some found)
  | none =>
      have single : kind = .plus ∨ kind = .minus ∨ kind = .caret := by
        cases kind <;> simp_all [commands, Kind.isUnary, Kind.isFunction, Kind.isBinary]
      rcases single with rfl | rfl | rfl <;> exact .sign (by decide)

theorem subscript_before_blank {written : List Char} (subscript : written = [] ∨ Complete written) (after : List Char) :
    Subscript written (' ' :: after) := by
  rcases subscript with rfl | complete
  · exact .absent (by simp)
  · exact .complete complete

theorem leaf_segment {kind : Kind} {value : Option String} (leaf : Leaf names kind value) :
    ∃ text, ∀ after, IsSegment names text (' ' :: after) (.token kind value) := by
  cases leaf with
  | real numeral => exact ⟨_, fun after => .real numeral (maximal_of_plain (by simp)) (by simp)⟩
  | imaginary numeral => exact ⟨_, fun after => .imaginary numeral (by simp)⟩
  | greek known subscript => exact ⟨_, fun after => .greek known (subscript_before_blank subscript after)⟩
  | letter alpha subscript free =>
      exact ⟨_, fun after => .identifier alpha (subscript_before_blank subscript after) free⟩
  | parameter alpha subscript reserved =>
      exact ⟨_, fun after => .parameter alpha (subscript_before_blank subscript after) reserved⟩

def Spells (names : Dictionary) (spell : Token → List Char) : Prop :=
  ∀ token, Leaf names token.kind token.value →
    ∀ after, IsSegment names (spell token) (' ' :: after) (.token token.kind token.value)

-- Several names of a dictionary may stand for the same text, so a spelling chooses one of them.
theorem spells_exists (names : Dictionary) : ∃ spell, Spells names spell := by
  have chosen : ∀ token : Token, ∃ text, Leaf names token.kind token.value →
      ∀ after, IsSegment names text (' ' :: after) (.token token.kind token.value) := by
    intro token
    by_cases leaf : Leaf names token.kind token.value
    · obtain ⟨text, stands⟩ := leaf_segment leaf
      exact ⟨text, fun _ => stands⟩
    · exact ⟨[], fun present => absurd present leaf⟩
  exact Classical.skolem.mp chosen

namespace Markup

-- Wherever the text stands, its tokens come first and the scan goes on behind it.
def Scans (names : Dictionary) (text : List Char) (tokens : Nat → List Token) : Prop :=
  ∀ offset rest, scanFrom names offset (text ++ rest) =
    let more := scanFrom names (offset + text.length) rest
    { more with tokens := tokens offset ++ more.tokens }

theorem Scans.append {text other : List Char} {tokens more : Nat → List Token} (first : Scans names text tokens)
    (second : Scans names other more) :
    Scans names (text ++ other) fun offset => tokens offset ++ more (offset + text.length) := by
  intro offset rest
  rw [List.append_assoc, first, second, List.length_append, ← Nat.add_assoc]
  simp only [List.append_assoc]

theorem scans_segment {text : List Char} {kind : Kind} {value : Option String}
    (stands : ∀ after, IsSegment names text after (.token kind value)) :
    Scans names text fun offset => [⟨kind, value, offset⟩] := by
  intro offset rest
  rw [scan_from_segment (stands rest)]
  rfl

theorem scans_leaf {text : List Char} {kind : Kind} {value : Option String}
    (stands : ∀ after, IsSegment names text (' ' :: after) (.token kind value)) :
    Scans names (text ++ [' ']) fun offset => [⟨kind, value, offset⟩] := by
  intro offset rest
  have blank : IsSegment names [' '] rest .skipped := .blank (by decide)
  have next : scanFrom names (offset + text.length) (' ' :: rest) = _ := scan_from_segment blank _
  rw [List.append_assoc, List.singleton_append, scan_from_segment (stands rest), next, List.length_append,
    ← Nat.add_assoc]
  rfl

theorem Scans.braced {text : List Char} {tokens : Nat → List Token} (inner : Scans names text tokens) :
    Scans names ('{' :: (text ++ ['}'])) fun offset =>
      ⟨.leftParen, none, offset⟩ :: (tokens (offset + 1) ++ [⟨.rightParen, none, offset + 1 + text.length⟩]) := by
  have opening : Scans names ['{'] fun offset => [⟨.leftParen, none, offset⟩] :=
    scans_segment fun _ => .sign (by decide)
  have closing : Scans names ['}'] fun offset => [⟨.rightParen, none, offset⟩] :=
    scans_segment fun _ => .sign (by decide)
  exact opening.append (inner.append closing)

end Markup

namespace Formula

open Grammar

-- Wherever the text stands, it scans to tokens that derive from the level, and their formula is the given
-- one up to places.
def Reads (names : Dictionary) (level : Level) (text : List Char) (formula : Formula) : Prop :=
  ∃ tokens, Scans names text tokens ∧ ∀ implicit offset,
    ∃ derivation : Derivation implicit (.level level) (tokens offset), derivation.tree.unplaced = formula.unplaced

theorem Reads.braced {text : List Char} {formula : Formula} (inner : Reads names .sum text formula) :
    Reads names .operand ('{' :: (text ++ ['}'])) formula := by
  obtain ⟨tokens, scans, derived⟩ := inner
  refine ⟨_, scans.braced, fun implicit offset => ?_⟩
  obtain ⟨derivation, same⟩ := derived implicit (offset + 1)
  exact ⟨.group rfl derivation rfl, same⟩

theorem unplaced_op {op : Token} (plain : op.value = none) (offset : Nat) :
    Token.unplaced ⟨op.kind, none, offset⟩ = op.unplaced := by
  rw [Token.unplaced, Token.unplaced, plain]

theorem Reads.unary {op : Token} {text : List Char} {inner : Formula} (operand : Reads names .operand text inner)
    (kind : op.kind.isUnary = true) (plain : op.value = none) :
    Reads names .sum (op.kind.sign ++ text) (.unary op inner) := by
  obtain ⟨tokens, scans, derived⟩ := operand
  refine ⟨_, (scans_segment (sign_segment (.inl kind))).append scans, fun implicit offset => ?_⟩
  obtain ⟨derivation, same⟩ := derived implicit (offset + op.kind.sign.length)
  have tree : (Formula.unary ⟨op.kind, none, offset⟩ derivation.tree).unplaced =
      (Formula.unary op inner).unplaced := by
    rw [unplaced, same, unplaced_op plain, unplaced]
  by_cases function : op.kind.isFunction = true
  · exact ⟨.product (.negation (.power (.quotient (.call (.apply function (.operand derivation)))))), tree⟩
  · have sign : op.kind = .minus := by simpa [Kind.isUnary, function] using kind
    exact ⟨.product (.negation (.negate sign (.power derivation.alone))), tree⟩

theorem unplaced_binary {left right first second : Formula} {op : Token} (plain : op.value = none) (offset : Nat)
    (same : first.unplaced = left.unplaced) (also : second.unplaced = right.unplaced) :
    (Formula.binary first ⟨op.kind, none, offset⟩ second).unplaced = (Formula.binary left op right).unplaced := by
  rw [unplaced, same, also, unplaced_op plain, unplaced]

theorem Reads.fraction {op : Token} {text other : List Char} {left right : Formula}
    (first : Reads names .operand text left) (second : Reads names .operand other right)
    (kind : op.kind = .fraction) (plain : op.value = none) :
    Reads names .sum (op.kind.sign ++ (text ++ other)) (.binary left op right) := by
  obtain ⟨tokens, scans, derived⟩ := first
  obtain ⟨more, scansMore, derivedMore⟩ := second
  have sign : Scans names op.kind.sign _ := scans_segment (sign_segment (.inr (by rw [kind]; rfl)))
  refine ⟨_, sign.append (scans.append scansMore), fun implicit offset => ?_⟩
  obtain ⟨numerator, same⟩ := derived implicit (offset + op.kind.sign.length)
  obtain ⟨denominator, also⟩ := derivedMore implicit (offset + op.kind.sign.length + text.length)
  let whole : Derivation implicit (.level .quotient) (⟨op.kind, none, offset⟩ :: (_ ++ _)) :=
    .divide kind (.call (.operand numerator)) (.call (.operand denominator))
  exact ⟨.product (.negation (.power (.quotient whole))), unplaced_binary plain offset same also⟩

theorem Reads.binary {op : Token} {text other : List Char} {left right : Formula}
    (first : Reads names .operand text left) (second : Reads names .operand other right)
    (kind : op.kind.isBinary = true) (between : op.kind ≠ .fraction) (plain : op.value = none) :
    Reads names .sum (text ++ (op.kind.sign ++ other)) (.binary left op right) := by
  obtain ⟨tokens, scans, derived⟩ := first
  obtain ⟨more, scansMore, derivedMore⟩ := second
  have sign : Scans names op.kind.sign _ := scans_segment (sign_segment (.inr kind))
  refine ⟨_, scans.append (sign.append scansMore), fun implicit offset => ?_⟩
  obtain ⟨leftOperand, same⟩ := derived implicit offset
  obtain ⟨rightOperand, also⟩ := derivedMore implicit (offset + text.length + op.kind.sign.length)
  have tree := unplaced_binary plain (offset + text.length) same also
  have signs : (op.kind = .plus ∨ op.kind = .minus) ∨ op.kind = .dot ∨ op.kind = .caret := by
    cases shape : op.kind <;> simp_all [Kind.isBinary]
  rcases signs with sign | sign | sign
  · exact ⟨.sum (.negation (.power leftOperand.alone)) sign (.product (.negation (.power rightOperand.alone))), tree⟩
  · exact ⟨.product (.times (.power leftOperand.alone) sign (.negation (.power rightOperand.alone))), tree⟩
  · exact ⟨.product (.negation (.power (.raise (.call (.operand leftOperand)) sign rightOperand.alone))), tree⟩

-- Every operand of the markup is a leaf or a group, so it can stand in any operation.
theorem markup_reads {spell : Token → List Char} (spells : Spells names spell) {formula : Formula}
    (expressible : Expressible names formula) : Reads names .operand (formula.markup spell) formula := by
  induction expressible with
  | unary kind plain _ inner => exact (inner.unary kind plain).braced
  | binary kind plain _ _ first second =>
      rw [markup]
      split
      · rename_i fraction
        exact (first.fraction second fraction plain).braced
      · rename_i between
        exact (first.binary second kind between plain).braced
  | literal kind leaf =>
      exact ⟨_, scans_leaf (spells _ leaf), fun _ _ => ⟨.literal ((Kind.is_literal_iff _).mp kind), rfl⟩⟩
  | symbol kind leaf =>
      exact ⟨_, scans_leaf (spells _ leaf), fun _ _ => ⟨.name ((Kind.is_name_iff _).mp kind), rfl⟩⟩

theorem expressible_has_markup (names : Dictionary) {formula : Formula} (expressible : Expressible names formula) :
    ∃ source : String, (scan names source).failure = none ∧ (scan names source).warnings = [] ∧
      ∀ mode, (parse mode (scan names source).tokens).valid = true ∧
        (parse mode (scan names source).tokens).tree.unplaced = formula.unplaced := by
  obtain ⟨spell, spells⟩ := spells_exists names
  obtain ⟨tokens, scans, derived⟩ := markup_reads spells expressible
  have scanned : scan names (String.ofList (formula.markup spell)) = ⟨tokens 0, [], none⟩ := by
    have whole := scans 0 []
    rw [List.append_nil, scanFrom] at whole
    rw [scan, String.toList_ofList, whole]
    simp only [List.append_nil]
  refine ⟨String.ofList (formula.markup spell), by rw [scanned], by rw [scanned], ?_⟩
  rintro ⟨grouping, implicit⟩
  obtain ⟨operand, same⟩ := derived implicit 0
  rw [scanned, parse_of_derivation grouping (.product (.negation (.power operand.alone)))]
  exact ⟨rfl, same⟩

-- (-a_1 - i) - \frac{\sin 2.5i}{\alpha_{k}}, where the first i is a parameter and the second belongs to a literal.
theorem expressible_has_markup_nested :
    let operator (kind : Kind) : Token := ⟨kind, none, 0⟩
    let formula : Formula :=
      .binary
        (.binary (.unary (operator .minus) (.symbol ⟨.identifier, some "a_1", 0⟩)) (operator .minus)
          (.symbol ⟨.parameter, some "vec2<f32>(0.0, 1.0)", 0⟩))
        (operator .minus)
        (.binary (.unary (operator .sin) (.literal ⟨.imaginary, some "2.5", 0⟩)) (operator .fraction)
          (.symbol ⟨.identifier, some "\\alpha_{k}", 0⟩))
    Expressible .standard formula ∧
      ∃ source : String, (scan .standard source).failure = none ∧ (scan .standard source).warnings = [] ∧
        ∀ mode, (parse mode (scan .standard source).tokens).valid = true ∧
          (parse mode (scan .standard source).tokens).tree.unplaced = formula.unplaced := by
  intro operator formula
  have identifier : Leaf .standard .identifier (some "a_1") :=
    @Leaf.letter .standard 'a' ['_', '1'] rfl (.inr (.single (by decide))) (by decide +kernel)
  have parameter : Leaf .standard .parameter (some "vec2<f32>(0.0, 1.0)") :=
    @Leaf.parameter .standard 'i' [] _ rfl (.inl rfl) (by decide +kernel)
  have numeral : Leaf .standard .imaginary (some "2.5") :=
    @Leaf.imaginary .standard ['2', '.', '5'] (@Numeral.pointed ['2'] ['5'] (by simp) (by simp) (by simp))
  have level : Leads 'k' 0 0 := rfl
  have balanced : Balanced 0 ['k'] := (balanced_cons level).mpr ⟨nested_nil 0, rfl⟩
  have greek : Leaf .standard .identifier (some "\\alpha_{k}") :=
    @Leaf.greek .standard "alpha" ['_', '{', 'k', '}'] (by decide) (.inr (.braced balanced))
  have expressible : Expressible .standard formula :=
    .binary rfl rfl
      (.binary rfl rfl (.unary rfl rfl (.symbol rfl identifier)) (.symbol rfl parameter))
      (.binary rfl rfl (.unary rfl rfl (.literal rfl numeral)) (.symbol rfl greek))
  exact ⟨expressible, expressible_has_markup .standard expressible⟩

end Formula

end EscapeTime
