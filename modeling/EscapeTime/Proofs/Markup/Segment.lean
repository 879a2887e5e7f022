import EscapeTime.Proofs.Decimal.Reading
import EscapeTime.Proofs.Markup.Carried
import EscapeTime.Proofs.Markup.Subscript

set_option autoImplicit false

namespace EscapeTime.Markup

-- No longer start of the source is a numeral.
def Maximal (text after : List Char) : Prop :=
  ∀ more rest, after = more ++ rest → Numeral (text ++ more) → more = []

def words : List String :=
  commands.map Prod.fst ++ greekLetters

def signs : List (Char × Kind) :=
  [('{', .leftParen), ('}', .rightParen), ('+', .plus), ('-', .minus), ('^', .caret)]

def Foreign (c : Char) : Prop :=
  Text.isBlank c = false ∧ c ∉ ['(', ')', '\\'] ∧ c ∉ signs.map Prod.fst ∧ c.isDigit = false ∧ c.isAlpha = false

-- The text is one segment where it stands before `after`, and it gives the lexeme.
inductive IsSegment (names : Dictionary) : List Char → List Char → Lexeme → Prop where
  | blank {c : Char} {after : List Char} (blank : Text.isBlank c = true) : IsSegment names [c] after .skipped
  | parenthesis {c : Char} {after : List Char} (plain : c = '(' ∨ c = ')') : IsSegment names [c] after .skipped
  | space {after : List Char} : IsSegment names ['\\', ' '] after .skipped
  | sign {c : Char} {after : List Char} {kind : Kind} (known : (c, kind) ∈ signs) :
      IsSegment names [c] after (.token kind none)
  | command {entry : String × Kind} {after : List Char} (known : entry ∈ commands) :
      IsSegment names ('\\' :: entry.1.toList) after (.token entry.2 none)
  | real {text after : List Char} (numeral : Numeral text) (maximal : Maximal text after)
      (plain : ∀ rest, after = 'i' :: rest → rest.head? = some '_') :
      IsSegment names text after (.token .real (some (String.ofList text)))
  | imaginary {text after : List Char} (numeral : Numeral text) (plain : after.head? ≠ some '_') :
      IsSegment names (text ++ ['i']) after (.token .imaginary (some (String.ofList text)))
  | greek {letter : String} {written after : List Char} (known : letter ∈ greekLetters)
      (subscript : Subscript written after) :
      IsSegment names ('\\' :: (letter.toList ++ written)) after
        (.token .identifier (some (String.ofList ('\\' :: (letter.toList ++ written)))))
  | identifier {letter : Char} {written after : List Char} (alpha : letter.isAlpha = true)
      (subscript : Subscript written after) (free : names.get? (String.ofList (letter :: written)) = none) :
      IsSegment names (letter :: written) after
        (.token .identifier (some (String.ofList (letter :: written))))
  | parameter {letter : Char} {written after : List Char} {text : String} (alpha : letter.isAlpha = true)
      (subscript : Subscript written after) (reserved : names.get? (String.ofList (letter :: written)) = some text) :
      IsSegment names (letter :: written) after (.token .parameter (some text))
  | stray {c : Char} {after : List Char} (foreign : Foreign c) : IsSegment names [c] after (.stray c)

def Unknown (source : List Char) : Prop :=
  source.head? ≠ some ' ' ∧ ∀ word ∈ words, ¬ word.toList <+: source

section Words

theorem words_incomparable :
    ∀ first ∈ words, ∀ second ∈ words, first.toList <+: second.toList → first = second := by
  decide

theorem words_start : ∀ word ∈ words, word.toList.head?.any Char.isAlpha = true := by
  decide

theorem word_unique {first second : String} {source : List Char} (member : first ∈ words) (other : second ∈ words)
    (starts : first.toList <+: source) (also : second.toList <+: source) : first = second := by
  rcases List.prefix_or_prefix_of_prefix starts also with within | within
  · exact words_incomparable first member second other within
  · exact (words_incomparable second other first member within).symm

theorem command_mem {entry : String × Kind} (known : entry ∈ commands) : entry.1 ∈ words :=
  List.mem_append_left _ (List.mem_map_of_mem known)

theorem greek_mem {letter : String} (known : letter ∈ greekLetters) : letter ∈ words :=
  List.mem_append_right _ known

theorem find_word {α : Type} {table : List α} (name : α → String) {entry : α} {source : List Char}
    (within : ∀ other ∈ table, name other ∈ words)
    (distinct : ∀ first ∈ table, ∀ second ∈ table, name first = name second → first = second)
    (known : entry ∈ table) (starts : (name entry).toList <+: source) :
    table.find? (fun other => (name other).toList.isPrefixOf source) = some entry := by
  cases found : table.find? fun other => (name other).toList.isPrefixOf source with
  | none => exact absurd (List.isPrefixOf_iff_prefix.mpr starts) (List.find?_eq_none.mp found entry known)
  | some other =>
      have member := List.mem_of_find?_eq_some found
      have test := List.find?_some found
      have also := List.isPrefixOf_iff_prefix.mp test
      have same := word_unique (within other member) (within entry known) also starts
      rw [distinct other member entry known same]

theorem find_no_word {α : Type} {table : List α} (name : α → String) {source : List Char}
    (absent : ∀ other ∈ table, ¬ (name other).toList <+: source) :
    table.find? (fun other => (name other).toList.isPrefixOf source) = none := by
  refine List.find?_eq_none.mpr fun other member starts => ?_
  exact absent other member (List.isPrefixOf_iff_prefix.mp starts)

theorem command_entry {entry : String × Kind} (known : entry ∈ commands) (after : List Char) :
    command (entry.1.toList ++ after) = (.token entry.2 none, entry.1.toList.length) := by
  have found := find_word Prod.fst (fun _ => command_mem) (by decide) known (List.prefix_append entry.1.toList after)
  simp only [command, found, String.length_toList]

theorem command_greek {letter : String} (known : letter ∈ greekLetters) {written after : List Char}
    (subscript : Subscript written after) :
    command (letter.toList ++ (written ++ after)) =
      (.token .identifier (some (String.ofList ('\\' :: (letter.toList ++ written)))),
        (letter.toList ++ written).length) := by
  have starts := List.prefix_append letter.toList (written ++ after)
  have plain : commands.find? (fun entry => entry.1.toList.isPrefixOf (letter.toList ++ (written ++ after))) = none := by
    refine find_no_word Prod.fst fun entry member also => ?_
    have same := word_unique (command_mem member) (greek_mem known) also starts
    have apart : ∀ entry ∈ commands, entry.1 ∉ greekLetters := by decide
    exact apart entry member (same ▸ known)
  have found := find_word id (fun _ => greek_mem) (fun _ _ _ _ same => same) known starts
  have width : letter.length + written.length = (letter.toList ++ written).length := by
    rw [List.length_append, String.length_toList]
  have taken : (letter.toList ++ (written ++ after)).take (letter.toList ++ written).length = letter.toList ++ written := by
    rw [← List.append_assoc, List.take_left]
  have behind : (letter.toList ++ (written ++ after)).drop letter.length = written ++ after := by
    rw [← String.length_toList, List.drop_left]
  simp only [id] at found
  simp only [command, plain, found, behind, subscript.width, width, taken]

theorem no_word_before {source : List Char} (plain : ∀ c ∈ source.head?, c.isAlpha = false) :
    ∀ word ∈ words, ¬ word.toList <+: source := by
  intro word member starts
  have alpha := words_start word member
  obtain ⟨rest, rfl⟩ := starts
  cases chars : word.toList with
  | nil => simp [chars] at alpha
  | cons c tail =>
      rw [chars] at alpha
      have letter : c.isAlpha = true := by simpa using alpha
      cases letter.symm.trans (plain c (by simp [chars]))

theorem find_none {source : List Char} (absent : ∀ word ∈ words, ¬ word.toList <+: source) :
    commands.find? (fun entry => entry.1.toList.isPrefixOf source) = none ∧
      greekLetters.find? (fun letter => letter.toList.isPrefixOf source) = none :=
  ⟨find_no_word Prod.fst fun entry member => absent entry.1 (command_mem member),
    find_no_word id fun letter member => absent letter (greek_mem member)⟩

theorem command_space (after : List Char) : command (' ' :: after) = (.skipped, 1) := by
  have plain : ∀ c ∈ (' ' :: after).head?, c.isAlpha = false := by simp
  obtain ⟨noCommand, noLetter⟩ := find_none (no_word_before plain)
  simp only [command, noCommand, noLetter]

theorem command_unknown {source : List Char} (unknown : Unknown source) :
    command source = (.unknown (String.ofList (unknownName source)), 0) := by
  obtain ⟨noCommand, noLetter⟩ := find_none unknown.2
  simp only [command, noCommand, noLetter]
  split
  · exact absurd rfl unknown.1
  · rfl

end Words

section Numerals

theorem Numeral.chars {text : List Char} (numeral : Numeral text) : ∀ c ∈ text, c.isDigit = true ∨ c = '.' := by
  intro c member
  cases numeral with
  | whole _ all => exact .inl (all c member)
  | pointed _ all rest =>
      rcases List.mem_append.mp member with member | member
      · exact .inl (all c member)
      · rcases List.mem_cons.mp member with rfl | member
        · exact .inr rfl
        · exact .inl (rest c member)

theorem maximal_of_plain {text after : List Char} (plain : ∀ c ∈ after.head?, c.isDigit = false ∧ c ≠ '.') :
    Maximal text after := by
  rintro (_ | ⟨c, more⟩) rest rfl longer
  · rfl
  · obtain ⟨noDigit, noPoint⟩ := plain c rfl
    rcases longer.chars c (by simp) with digit | point
    · cases digit.symm.trans noDigit
    · exact absurd point noPoint

theorem Maximal.next {text after : List Char} (maximal : Maximal text after) :
    ∀ c ∈ after.head?, ¬ Numeral (text ++ [c]) := by
  intro c first longer
  obtain ⟨rest, rfl⟩ := List.head?_eq_some_iff.mp first
  cases maximal [c] rest rfl longer

-- Whatever is a numeral goes on to a longest one: each step that is not maximal makes the rest shorter.
theorem maximal_exists {text : List Char} (numeral : Numeral text) (source : List Char) :
    ∃ more rest, source = more ++ rest ∧ Numeral (text ++ more) ∧ Maximal (text ++ more) rest := by
  by_cases maximal : Maximal text source
  · rw [← List.append_nil text] at numeral maximal
    exact ⟨[], source, rfl, numeral, maximal⟩
  · simp only [Maximal, Classical.not_forall] at maximal
    obtain ⟨more, rest, split, longer, present⟩ := maximal
    have shorter : rest.length < source.length := by
      have some := List.length_pos_iff.mpr present
      rw [split, List.length_append]
      omega
    obtain ⟨further, last, rfl, numeral, maximal⟩ := maximal_exists longer rest
    rw [List.append_assoc] at numeral maximal
    exact ⟨more ++ further, last, by rw [split, List.append_assoc], numeral, maximal⟩
termination_by source.length

theorem digit_width_run {digits : List Char} (all : ∀ c ∈ digits, c.isDigit = true) {rest : List Char}
    (ends : ∀ c ∈ rest.head?, c.isDigit = false) : digitWidth (digits ++ rest) = digits.length := by
  rw [digitWidth, (Decimal.take_while_run rest all ends).1]

theorem numeral_width_whole {digits after : List Char} (all : ∀ c ∈ digits, c.isDigit = true)
    (ends : ∀ c ∈ after.head?, c.isDigit = false ∧ c ≠ '.') : numeralWidth (digits ++ after) = digits.length := by
  have width := digit_width_run all fun c first => (ends c first).1
  rw [numeralWidth, width, List.drop_left]
  split
  · exact absurd rfl (ends '.' rfl).2
  · rfl

theorem numeral_width_pointed {digits fraction after : List Char} (all : ∀ c ∈ digits, c.isDigit = true)
    (rest : ∀ c ∈ fraction, c.isDigit = true) (ends : ∀ c ∈ after.head?, c.isDigit = false) :
    numeralWidth (digits ++ '.' :: (fraction ++ after)) = digits.length + 1 + fraction.length := by
  have width : digitWidth (digits ++ '.' :: (fraction ++ after)) = digits.length := digit_width_run all (by simp)
  simp only [numeralWidth, width, List.drop_left, digit_width_run rest ends]

theorem all_append {digits : List Char} {last : Char} (all : ∀ c ∈ digits, c.isDigit = true)
    (digit : last.isDigit = true) : ∀ c ∈ digits ++ [last], c.isDigit = true := by
  intro c member
  rcases List.mem_append.mp member with member | member
  · exact all c member
  · rw [List.mem_singleton.mp member]
    exact digit

theorem numeral_width_eq {digit : Char} {tail after : List Char} (numeral : Numeral (digit :: tail))
    (maximal : Maximal (digit :: tail) after) : numeralWidth (tail ++ after) = tail.length := by
  have next := maximal.next
  generalize written : digit :: tail = text at numeral next
  cases numeral with
  | whole present all =>
      subst written
      refine numeral_width_whole (fun c member => all c (List.mem_cons_of_mem _ member)) fun c first => ⟨?_, ?_⟩
      · rw [Bool.eq_false_iff]
        exact fun digit => next c first (.whole (by simp) (all_append all digit))
      · rintro rfl
        exact next '.' first (.pointed present all (by simp))
  | @pointed digits fraction present all rest =>
      obtain ⟨other, digits, rfl⟩ := List.exists_cons_of_ne_nil present
      rw [List.cons_append] at written
      obtain ⟨rfl, rfl⟩ := List.cons.inj written
      rw [List.append_assoc, List.cons_append, List.length_append, List.length_cons,
        numeral_width_pointed (fun c member => all c (List.mem_cons_of_mem _ member)) rest]
      · omega
      · intro c first
        rw [Bool.eq_false_iff]
        intro digit
        refine next c first ?_
        rw [List.append_assoc, List.cons_append]
        exact .pointed present all (all_append rest digit)

theorem numeral_real {digit : Char} {tail after : List Char} (numeral : Numeral (digit :: tail))
    (maximal : Maximal (digit :: tail) after) (plain : ∀ rest, after = 'i' :: rest → rest.head? = some '_') :
    Markup.numeral digit (tail ++ after) = (.token .real (some (String.ofList (digit :: tail))), tail.length) := by
  simp only [Markup.numeral, numeral_width_eq numeral maximal, List.take_left, List.drop_left]
  split
  · rfl
  · rename_i rest other
    obtain ⟨more, rfl⟩ := List.head?_eq_some_iff.mp (plain _ rfl)
    exact absurd rfl (other more)
  · rfl

theorem numeral_imaginary {digit : Char} {tail after : List Char} (numeral : Numeral (digit :: tail))
    (plain : after.head? ≠ some '_') :
    Markup.numeral digit (tail ++ 'i' :: after) =
      (.token .imaginary (some (String.ofList (digit :: tail))), tail.length + 1) := by
  have maximal : Maximal (digit :: tail) ('i' :: after) := maximal_of_plain (by simp)
  simp only [Markup.numeral, numeral_width_eq numeral maximal, List.take_left, List.drop_left]
  split
  · rename_i same
    obtain ⟨-, rfl⟩ := List.cons.inj same
    exact absurd rfl plain
  · rfl
  · rename_i other
    exact absurd rfl (other after)

end Numerals

section Characters

theorem sign?_eq_some_iff {c : Char} {kind : Kind} : sign? c = some kind ↔ (c, kind) ∈ signs := by
  constructor
  · intro sign
    unfold sign? at sign
    split at sign <;> cases sign <;> decide
  · intro known
    simp only [signs, List.mem_cons, Prod.mk.injEq, List.not_mem_nil, or_false] at known
    rcases known with ⟨rfl, rfl⟩ | ⟨rfl, rfl⟩ | ⟨rfl, rfl⟩ | ⟨rfl, rfl⟩ | ⟨rfl, rfl⟩ <;> rfl

theorem sign?_eq_none_iff {c : Char} : sign? c = none ↔ c ∉ signs.map Prod.fst := by
  rw [Option.eq_none_iff_forall_ne_some]
  simp [sign?_eq_some_iff]

theorem alphanum_range {c : Char} (alphanum : c.isAlphanum = true) : 0x30 ≤ c.toNat ∧ c.toNat < 0x80 := by
  delta Char.isAlphanum Char.isAlpha Char.isUpper Char.isLower Char.isDigit at alphanum
  simp only [Bool.or_eq_true, Bool.and_eq_true, decide_eq_true_eq, ge_iff_le, UInt32.le_iff_toNat_le,
    Char.reduceVal, UInt32.reduceToNat] at alphanum
  have value : c.toNat = c.val.toNat := rfl
  omega

-- The tests that come before those for digits and letters let both pass.
theorem segment_alphanum (names : Dictionary) {c : Char} (alphanum : c.isAlphanum = true) (tail : List Char) :
    segment names c tail = if c.isDigit then numeral c tail else if c.isAlpha then name names c tail else (.stray c, 0) := by
  have blank : Text.isBlank c = false := by
    obtain ⟨above, below⟩ := alphanum_range alphanum
    rw [Text.is_blank_ascii c below]
    simp only [Bool.or_eq_false_iff, decide_eq_false_iff_not]
    omega
  have sign : sign? c = none := by
    unfold sign?
    split <;> first | rfl | cases alphanum
  have opening : c ≠ '(' := by rintro rfl; cases alphanum
  have closing : c ≠ ')' := by rintro rfl; cases alphanum
  have backslash : c ≠ '\\' := by rintro rfl; cases alphanum
  simp [segment, blank, sign, opening, closing, backslash]

theorem segment_digit (names : Dictionary) {c : Char} (digit : c.isDigit = true) (tail : List Char) :
    segment names c tail = numeral c tail := by
  rw [segment_alphanum names (by simp [Char.isAlphanum, digit]), if_pos digit]

theorem segment_letter (names : Dictionary) {c : Char} (alpha : c.isAlpha = true) (tail : List Char) :
    segment names c tail = name names c tail := by
  have noDigit : ¬ c.isDigit = true := by
    intro digit
    delta Char.isAlpha Char.isUpper Char.isLower at alpha
    delta Char.isDigit at digit
    simp only [Bool.or_eq_true, Bool.and_eq_true, decide_eq_true_eq, ge_iff_le, UInt32.le_iff_toNat_le,
      Char.reduceVal, UInt32.reduceToNat] at alpha digit
    omega
  rw [segment_alphanum names (by simp [Char.isAlphanum, alpha]), if_neg noDigit, if_pos alpha]

theorem segment_backslash (names : Dictionary) (tail : List Char) : segment names '\\' tail = command tail := by
  rfl

theorem segment_sign (names : Dictionary) {c : Char} {kind : Kind} (sign : sign? c = some kind) (tail : List Char) :
    segment names c tail = (.token kind none, 0) := by
  have plain : (Text.isBlank c || c = '(' || c = ')') = false := by
    unfold sign? at sign
    split at sign <;> first | rfl | cases sign
  simp [segment, plain, sign]

end Characters

theorem Numeral.first {text : List Char} (numeral : Numeral text) :
    ∃ digit tail, text = digit :: tail ∧ digit.isDigit = true := by
  cases numeral with
  | whole present all | pointed present all _ =>
      obtain ⟨digit, tail, rfl⟩ := List.exists_cons_of_ne_nil present
      exact ⟨digit, _, rfl, all digit (List.mem_cons_self ..)⟩

theorem IsSegment.read {names : Dictionary} {text after : List Char} {lexeme : Lexeme}
    (stands : IsSegment names text after lexeme) :
    ∃ head tail, text = head :: tail ∧ segment names head (tail ++ after) = (lexeme, tail.length) := by
  cases stands with
  | @blank c after blank => exact ⟨c, [], rfl, by simp [segment, blank]⟩
  | @parenthesis c after plain => exact ⟨c, [], rfl, by rcases plain with rfl | rfl <;> rfl⟩
  | space => exact ⟨'\\', [' '], rfl, command_space after⟩
  | @sign c after kind known => exact ⟨c, [], rfl, segment_sign names (sign?_eq_some_iff.mpr known) after⟩
  | @command entry after known => exact ⟨'\\', entry.1.toList, rfl, command_entry known after⟩
  | real numeral maximal plain =>
      obtain ⟨digit, tail, rfl, first⟩ := numeral.first
      exact ⟨digit, tail, rfl, (segment_digit names first _).trans (numeral_real numeral maximal plain)⟩
  | imaginary numeral plain =>
      obtain ⟨digit, tail, rfl, first⟩ := numeral.first
      refine ⟨digit, tail ++ ['i'], rfl, ?_⟩
      rw [segment_digit names first, List.append_assoc, List.singleton_append, numeral_imaginary numeral plain,
        List.length_append, List.length_singleton]
  | @greek letter written after known subscript =>
      refine ⟨'\\', letter.toList ++ written, rfl, ?_⟩
      rw [segment_backslash, List.append_assoc, command_greek known subscript]
  | @identifier letter written after alpha subscript free =>
      refine ⟨letter, written, rfl, ?_⟩
      simp only [segment_letter names alpha, name, subscript.width, List.take_left, free]
  | @parameter letter written after text alpha subscript reserved =>
      refine ⟨letter, written, rfl, ?_⟩
      simp only [segment_letter names alpha, name, subscript.width, List.take_left, reserved]
  | @stray c after foreign =>
      obtain ⟨blank, others, noSign, digit, alpha⟩ := foreign
      have sign := sign?_eq_none_iff.mpr noSign
      simp only [List.mem_cons, List.not_mem_nil, or_false, not_or] at others
      exact ⟨c, [], rfl, by simp [segment, blank, others, sign, digit, alpha]⟩

def Begins (names : Dictionary) (source : List Char) : Prop :=
  ∃ text after lexeme, source = text ++ after ∧ IsSegment names text after lexeme

theorem numeral_segment (names : Dictionary) {digit : Char} (first : digit.isDigit = true) (tail : List Char) :
    Begins names (digit :: tail) := by
  have single : Numeral [digit] := .whole (by simp) (by simpa using first)
  obtain ⟨more, rest, rfl, numeral, maximal⟩ := maximal_exists single tail
  by_cases imaginary : ∃ after, rest = 'i' :: after ∧ after.head? ≠ some '_'
  · obtain ⟨after, rfl, plain⟩ := imaginary
    exact ⟨_, after, _, by simp, .imaginary numeral plain⟩
  · refine ⟨_, rest, _, rfl, .real numeral maximal fun after next => ?_⟩
    exact Decidable.byContradiction fun plain => imaginary ⟨after, next, plain⟩

theorem name_segment (names : Dictionary) {letter : Char} (alpha : letter.isAlpha = true) (tail : List Char) :
    Begins names (letter :: tail) := by
  obtain ⟨written, after, rfl, subscript⟩ := subscript_exists tail
  cases found : names.get? (String.ofList (letter :: written)) with
  | none => exact ⟨letter :: written, after, _, rfl, .identifier alpha subscript found⟩
  | some text => exact ⟨letter :: written, after, _, rfl, .parameter alpha subscript found⟩

theorem command_segment (names : Dictionary) {tail : List Char} (started : ¬ Unknown tail) :
    Begins names ('\\' :: tail) := by
  by_cases spaced : tail.head? = some ' '
  · obtain ⟨after, rfl⟩ := List.head?_eq_some_iff.mp spaced
    exact ⟨['\\', ' '], after, _, rfl, .space⟩
  · have word : ∃ word ∈ words, word.toList <+: tail :=
      Decidable.byContradiction fun none => started ⟨spaced, fun word member starts => none ⟨word, member, starts⟩⟩
    obtain ⟨word, member, rest, rfl⟩ := word
    rcases List.mem_append.mp member with member | member
    · obtain ⟨entry, known, rfl⟩ := List.mem_map.mp member
      exact ⟨'\\' :: entry.1.toList, rest, _, rfl, .command known⟩
    · obtain ⟨written, after, rfl, subscript⟩ := subscript_exists rest
      exact ⟨'\\' :: (word.toList ++ written), after, _, by simp, .greek member subscript⟩

-- A segment stands everywhere except at an unknown command.
theorem segment_exists (names : Dictionary) (head : Char) (tail : List Char) :
    Begins names (head :: tail) ∨ head = '\\' ∧ Unknown tail := by
  by_cases blank : Text.isBlank head = true
  · exact .inl ⟨[head], tail, _, rfl, .blank blank⟩
  by_cases plain : head = '(' ∨ head = ')'
  · exact .inl ⟨[head], tail, _, rfl, .parenthesis plain⟩
  cases sign : sign? head with
  | some kind => exact .inl ⟨[head], tail, _, rfl, .sign (sign?_eq_some_iff.mp sign)⟩
  | none =>
      by_cases backslash : head = '\\'
      · subst backslash
        by_cases unknown : Unknown tail
        · exact .inr ⟨rfl, unknown⟩
        · exact .inl (command_segment names unknown)
      · by_cases digit : head.isDigit = true
        · exact .inl (numeral_segment names digit tail)
        · by_cases alpha : head.isAlpha = true
          · exact .inl (name_segment names alpha tail)
          · refine .inl ⟨[head], tail, _, rfl, .stray ⟨?_, ?_, sign?_eq_none_iff.mp sign, ?_, ?_⟩⟩
            · simpa using blank
            · simp [not_or.mp plain, backslash]
            · simpa using digit
            · simpa using alpha

end EscapeTime.Markup
