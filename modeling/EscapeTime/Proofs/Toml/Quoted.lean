import EscapeTime.Proofs.Decimal.Reading
import EscapeTime.Toml.Writer

set_option autoImplicit false

namespace EscapeTime.Toml

def isControl (c : Char) : Bool :=
  c.toNat < 0x20 || c.toNat == 0x7f

def PlainKey (key : String) : Prop :=
  ∀ c ∈ key.toList, isControl c = false ∧ c ≠ '"' ∧ c ≠ '\\'

-- A text that stands between some quotes as it is.
structure PlainText (text : String) : Prop where
  controls : ∀ c ∈ text.toList, isControl c = true → c = '\n'
  lines : '\n' ∈ text.toList → '"' ∉ text.toList ∧ '\\' ∉ text.toList
  quotes : '\'' ∈ text.toList → '"' ∉ text.toList ∧ '\\' ∉ text.toList

instance (key : String) : Decidable (PlainKey key) :=
  decidable_of_iff (key.toList.all fun c => decide (isControl c = false ∧ c ≠ '"' ∧ c ≠ '\\')) <| by
    simp only [List.all_eq_true, decide_eq_true_eq, PlainKey]

instance (text : String) : Decidable (PlainText text) :=
  decidable_of_iff
    ((text.toList.all fun c => decide (isControl c = true → c = '\n')) ∧
      ('\n' ∈ text.toList → '"' ∉ text.toList ∧ '\\' ∉ text.toList) ∧
      ('\'' ∈ text.toList → '"' ∉ text.toList ∧ '\\' ∉ text.toList)) <| by
    simp only [List.all_eq_true, decide_eq_true_eq]
    exact ⟨fun ⟨controls, lines, quotes⟩ => ⟨controls, lines, quotes⟩,
      fun plain => ⟨plain.controls, plain.lines, plain.quotes⟩⟩

theorem is_plain_of_not_control {c : Char} (plain : isControl c = false) : isPlain c = true := by
  simp only [isControl, isPlain] at plain ⊢
  grind

theorem is_hidden_of_not_control {c : Char} (plain : isControl c = false) : isHidden c = false := by
  simp only [isControl, isHidden] at plain ⊢
  grind

section Reading

variable {chars rest : List Char}

theorem basic_string?_plain (plain : ∀ c ∈ chars, isPlain c = true ∧ c ≠ '"' ∧ c ≠ '\\') :
    basicString? (chars ++ '"' :: rest) = some (chars, rest) := by
  induction chars with
  | nil => rw [List.nil_append, basicString?]
  | cons c tail ih =>
      obtain ⟨visible, notQuote, notEscape⟩ := plain c (List.mem_cons_self ..)
      rw [List.cons_append, basicString?, if_pos visible, ih fun c member => plain c (List.mem_cons_of_mem _ member)]
      · rfl
      · exact notQuote
      · exact notEscape

theorem literal_string?_plain (plain : ∀ c ∈ chars, isPlain c = true ∧ c ≠ '\'') :
    literalString? (chars ++ '\'' :: rest) = some (chars, rest) := by
  induction chars with
  | nil => rfl
  | cons c tail ih =>
      obtain ⟨visible, notQuote⟩ := plain c (List.mem_cons_self ..)
      rw [List.cons_append, literalString?, if_pos visible, ih fun c member => plain c (List.mem_cons_of_mem _ member)]
      · rfl
      · exact notQuote

theorem end_run?_other {quote c : Char} {tail : List Char} (other : c ≠ quote) : endRun? quote (c :: tail) = none := by
  simp [endRun?, quoteRun, other]

theorem end_run?_close (quote : Char) (ends : ∀ c ∈ rest.head?, c ≠ quote) :
    endRun? quote (quote :: quote :: quote :: rest) = some ([], rest) := by
  have stop : rest.takeWhile (· = quote) = [] := by
    cases rest with
    | nil => rfl
    | cons c tail => simp [ends c rfl]
  simp [endRun?, quoteRun, stop]

theorem long_basic_string?_plain
    (plain : ∀ c ∈ chars, (isPlain c = true ∨ c = '\n') ∧ c ≠ '"' ∧ c ≠ '\\')
    (ends : ∀ c ∈ rest.head?, c ≠ '"') :
    longBasicString? (chars ++ '"' :: '"' :: '"' :: rest) = some (chars, rest) := by
  induction chars with
  | nil =>
      rw [List.nil_append, longBasicString?, end_run?_close '"' ends]
      · decide
      · exact fun _ same => absurd same (by decide)
  | cons c tail ih =>
      obtain ⟨visible, notQuote, notEscape⟩ := plain c (List.mem_cons_self ..)
      have notReturn : c ≠ '\r' := by
        rintro rfl
        exact visible.elim (by decide) (by decide)
      have allowed : (isPlain c || c == '\n') = true := by simpa using visible
      rw [List.cons_append, longBasicString?, end_run?_other notQuote]
      · simp only [if_pos allowed, ih fun c member => plain c (List.mem_cons_of_mem _ member), Option.map_some]
      · exact notEscape
      · exact fun _ same => absurd same notReturn

theorem read_string?_basic (plain : ∀ c ∈ chars, isPlain c = true ∧ c ≠ '"' ∧ c ≠ '\\')
    (ends : ∀ c ∈ rest.head?, c ≠ '"') :
    readString? ('"' :: (chars ++ '"' :: rest)) = some (String.ofList chars, rest) := by
  rw [readString?, basic_string?_plain plain]
  · rfl
  · intro tail same
    cases chars with
    | nil =>
        rw [List.nil_append, List.cons.injEq] at same
        exact ends '"' (by rw [same.2, List.head?_cons, Option.mem_def]) rfl
    | cons c more => exact (plain c (List.mem_cons_self ..)).2.1 (List.cons.inj same).1

theorem read_string?_literal (present : chars ≠ []) (plain : ∀ c ∈ chars, isPlain c = true ∧ c ≠ '\'') :
    readString? ('\'' :: (chars ++ '\'' :: rest)) = some (String.ofList chars, rest) := by
  rw [readString?, literal_string?_plain plain]
  · rfl
  · intro tail same
    cases chars with
    | nil => exact present rfl
    | cons c more => exact (plain c (List.mem_cons_self ..)).2 (List.cons.inj same).1

theorem read_string?_long
    (plain : ∀ c ∈ chars, (isPlain c = true ∨ c = '\n') ∧ c ≠ '"' ∧ c ≠ '\\')
    (ends : ∀ c ∈ rest.head?, c ≠ '"') :
    readString? ('"' :: '"' :: '"' :: '\n' :: (chars ++ '"' :: '"' :: '"' :: rest)) =
      some (String.ofList chars, rest) := by
  rw [readString?, dropFirstLine, long_basic_string?_plain plain ends]
  rfl

theorem read_string?_starts {text rest : List Char} {value : String} (read : readString? text = some (value, rest)) :
    ∃ tail, text = '"' :: tail ∨ text = '\'' :: tail := by
  unfold readString? at read
  split at read
  · exact ⟨_, .inl rfl⟩
  · exact ⟨_, .inl rfl⟩
  · exact ⟨_, .inr rfl⟩
  · exact ⟨_, .inr rfl⟩
  · cases read

theorem read_value?_string (fuel depth : Nat) {text rest : List Char} {value : String}
    (read : readString? text = some (value, rest)) : readValue? (fuel + 1) depth text = some (.text value, rest) := by
  obtain ⟨tail, rfl | rfl⟩ := read_string?_starts read
  · rw [readValue?, read, Option.map_some]
  · rw [readValue?, read, Option.map_some]

end Reading

section Writing

variable {text : String}

theorem longest_run_absent {c : Char} {chars : List Char} (absent : c ∉ chars) : longestRun c 0 chars = 0 := by
  induction chars with
  | nil => rfl
  | cons head tail ih =>
      have other : head ≠ c := by
        rintro rfl
        exact absent (List.mem_cons_self ..)
      rw [longestRun, if_neg other, ih fun member => absent (List.mem_cons_of_mem _ member), Nat.max_self]

theorem longest_run_ge {c : Char} (current : Nat) (chars : List Char) : current ≤ longestRun c current chars := by
  induction chars generalizing current with
  | nil => exact Nat.le_refl current
  | cons head tail ih =>
      rw [longestRun]
      split
      · exact Nat.le_of_succ_le (ih (current + 1))
      · exact Nat.le_max_left ..

theorem longest_run_present {c : Char} {chars : List Char} (present : c ∈ chars) : longestRun c 0 chars ≠ 0 := by
  induction chars with
  | nil => cases present
  | cons head tail ih =>
      rw [longestRun]
      split
      · exact Nat.pos_iff_ne_zero.mp (longest_run_ge 1 tail)
      · rename_i other
        have later := ih ((List.mem_cons.mp present).resolve_left fun same => other same.symm)
        omega

theorem escape_char_plain (long : Bool) {c : Char} (plain : isControl c = false) (notQuote : c ≠ '"')
    (notEscape : c ≠ '\\') : escapeChar long c = [c] := by
  unfold escapeChar
  split
  case h_8 => rw [is_hidden_of_not_control plain, if_neg (by decide)]
  all_goals first
    | exact absurd plain (by decide)
    | exact absurd rfl notQuote
    | exact absurd rfl notEscape

theorem flat_map_escape {chars : List Char} (plain : ∀ c ∈ chars, isControl c = false ∧ c ≠ '"' ∧ c ≠ '\\') :
    chars.flatMap (escapeChar false) = chars := by
  induction chars with
  | nil => rfl
  | cons c tail ih =>
      obtain ⟨visible, notQuote, notEscape⟩ := plain c (List.mem_cons_self ..)
      rw [List.flatMap_cons, escape_char_plain false visible notQuote notEscape,
        ih fun c member => plain c (List.mem_cons_of_mem _ member)]
      rfl

theorem escape_long_plain {chars : List Char}
    (plain : ∀ c ∈ chars, (isControl c = false ∨ c = '\n') ∧ c ≠ '"' ∧ c ≠ '\\') (run : Nat) :
    escapeLong run chars = chars := by
  induction chars generalizing run with
  | nil => rfl
  | cons c tail ih =>
      obtain ⟨visible, notQuote, notEscape⟩ := plain c (List.mem_cons_self ..)
      have kept : escapeChar true c = [c] := by
        rcases visible with visible | rfl
        · exact escape_char_plain true visible notQuote notEscape
        · rfl
      rw [escapeLong, kept, ih fun c member => plain c (List.mem_cons_of_mem _ member)]
      · rfl
      · exact notQuote

theorem PlainText.not_hidden (plain : PlainText text) : text.toList.any isHidden = false := by
  rw [List.any_eq_false]
  intro c member
  by_cases control : isControl c = true
  · rw [plain.controls c member control]
    decide
  · rw [is_hidden_of_not_control (Bool.eq_false_iff.mpr control)]
    decide

theorem PlainText.not_control (plain : PlainText text) (oneLine : '\n' ∉ text.toList) {c : Char} (member : c ∈ text.toList) :
    isControl c = false := by
  rw [Bool.eq_false_iff]
  intro control
  rw [plain.controls c member control] at member
  exact oneLine member

def plainQuotes (text : String) : Quotes :=
  if '\n' ∈ text.toList then .longBasic
  else if '"' ∈ text.toList ∨ '\\' ∈ text.toList then .literal
  else .basic

theorem quote_value_plain (plain : PlainText text) : quoteValue text = quoted (plainQuotes text) text.toList := by
  have visible := plain.not_hidden
  simp only [quoteValue, plainQuotes?, plainQuotes]
  by_cases newline : '\n' ∈ text.toList
  · obtain ⟨noQuote, noEscape⟩ := plain.lines newline
    simp [visible, newline, noEscape, longest_run_absent noQuote]
  · by_cases special : '"' ∈ text.toList ∨ '\\' ∈ text.toList
    · have noSingle : '\'' ∉ text.toList := fun single => by
        obtain ⟨noQuote, noEscape⟩ := plain.quotes single
        exact special.elim noQuote noEscape
      have notBasic : ¬ (¬ '\\' ∈ text.toList ∧ longestRun '"' 0 text.toList = 0) := by
        rintro ⟨noEscape, none⟩
        exact special.elim (fun quote => longest_run_present quote none) noEscape
      simp [visible, newline, special, notBasic, longest_run_absent noSingle]
    · have noQuote : '"' ∉ text.toList := fun quote => special (.inl quote)
      have noEscape : '\\' ∉ text.toList := fun escape => special (.inr escape)
      simp [visible, newline, noQuote, noEscape, longest_run_absent noQuote]

section Quoted

variable {chars : List Char} (rest : List Char)

theorem quoted_basic (plain : ∀ c ∈ chars, isControl c = false ∧ c ≠ '"' ∧ c ≠ '\\') :
    (quoted .basic chars).toList ++ rest = '"' :: (chars ++ '"' :: rest) := by
  simp [quoted, flat_map_escape plain]

theorem quoted_literal : (quoted .literal chars).toList ++ rest = '\'' :: (chars ++ '\'' :: rest) := by
  simp [quoted]

theorem quoted_long (newline : '\n' ∈ chars)
    (plain : ∀ c ∈ chars, (isControl c = false ∨ c = '\n') ∧ c ≠ '"' ∧ c ≠ '\\') :
    (quoted .longBasic chars).toList ++ rest = '"' :: '"' :: '"' :: '\n' :: (chars ++ '"' :: '"' :: '"' :: rest) := by
  simp [quoted, opening, newline, escape_long_plain plain]

end Quoted

theorem read_string?_quote_value (plain : PlainText text) {rest : List Char} (ends : ∀ c ∈ rest.head?, c ≠ '"') :
    readString? ((quoteValue text).toList ++ rest) = some (text, rest) := by
  have whole : String.ofList text.toList = text := String.ofList_toList
  rw [quote_value_plain plain, plainQuotes]
  split
  · rename_i newline
    obtain ⟨noQuote, noEscape⟩ := plain.lines newline
    have allowed : ∀ c ∈ text.toList, (isControl c = false ∨ c = '\n') ∧ c ≠ '"' ∧ c ≠ '\\' := by
      intro c member
      refine ⟨?_, fun same => noQuote (same ▸ member), fun same => noEscape (same ▸ member)⟩
      by_cases control : isControl c = true
      · exact .inr (plain.controls c member control)
      · exact .inl (Bool.eq_false_iff.mpr control)
    rw [quoted_long rest newline allowed, read_string?_long (fun c member =>
      ⟨(allowed c member).1.imp_left is_plain_of_not_control, (allowed c member).2⟩) ends, whole]
  · rename_i oneLine
    have visible := fun (c : Char) (member : c ∈ text.toList) => plain.not_control oneLine member
    split
    · rename_i special
      have noSingle : '\'' ∉ text.toList := fun single => by
        obtain ⟨noQuote, noEscape⟩ := plain.quotes single
        exact special.elim noQuote noEscape
      have present : text.toList ≠ [] := by
        intro empty
        simp [empty] at special
      rw [quoted_literal, read_string?_literal present (fun c member =>
        ⟨is_plain_of_not_control (visible c member), fun same => noSingle (same ▸ member)⟩), whole]
    · rename_i unspecial
      have allowed : ∀ c ∈ text.toList, isControl c = false ∧ c ≠ '"' ∧ c ≠ '\\' := fun c member =>
        ⟨visible c member, fun same => unspecial (.inl (same ▸ member)), fun same => unspecial (.inr (same ▸ member))⟩
      rw [quoted_basic rest allowed, read_string?_basic (fun c member =>
        ⟨is_plain_of_not_control (visible c member), (allowed c member).2⟩) ends, whole]

theorem read_value?_quote_value (fuel depth : Nat) (plain : PlainText text) {rest : List Char}
    (ends : ∀ c ∈ rest.head?, c ≠ '"') :
    readValue? (fuel + 1) depth ((quoteValue text).toList ++ rest) = some (.text text, rest) :=
  read_value?_string fuel depth (read_string?_quote_value plain ends)

section Key

variable {key : String}

theorem quote_key_bare (present : key.toList ≠ []) (bare : ∀ c ∈ key.toList, isBareChar c = true) : quoteKey key = key := by
  rw [quoteKey, if_pos ⟨present, List.all_eq_true.mpr bare⟩]

theorem quote_key_plain (plain : PlainKey key) (quotes : ¬ (key.toList ≠ [] ∧ ∀ c ∈ key.toList, isBareChar c = true)) :
    quoteKey key = quoted .basic key.toList := by
  have oneLine : '\n' ∉ key.toList := fun newline => absurd (plain '\n' newline).1 (by decide)
  have noQuote : '"' ∉ key.toList := fun quote => (plain '"' quote).2.1 rfl
  have noEscape : '\\' ∉ key.toList := fun escape => (plain '\\' escape).2.2 rfl
  have visible : key.toList.any isHidden = false := by
    rw [List.any_eq_false]
    intro c member
    rw [is_hidden_of_not_control (plain c member).1]
    decide
  have unbare : ¬ (key.toList ≠ [] ∧ key.toList.all isBareChar = true) := by rwa [List.all_eq_true]
  simp only [quoteKey, if_neg unbare, plainQuotes?]
  simp [visible, oneLine, noEscape, longest_run_absent noQuote]

theorem read_simple_key?_bare {part rest : List Char} (present : part ≠ []) (bare : ∀ c ∈ part, isBareChar c = true)
    (ends : ∀ c ∈ rest.head?, isBareChar c = false) :
    readSimpleKey? (part ++ rest) = some (String.ofList part, rest) := by
  obtain ⟨taken, dropped⟩ := Decimal.take_while_run rest bare ends
  cases part with
  | nil => exact absurd rfl present
  | cons c tail =>
      have inside := bare c (List.mem_cons_self ..)
      rw [readSimpleKey?.eq_def]
      split
      · rename_i same
        rw [(List.cons.inj same).1] at inside
        cases inside
      · rename_i same
        rw [(List.cons.inj same).1] at inside
        cases inside
      · rw [taken, dropped]

theorem read_simple_key?_quote_key (plain : PlainKey key) {rest : List Char}
    (ends : ∀ c ∈ rest.head?, isBareChar c = false) :
    readSimpleKey? ((quoteKey key).toList ++ rest) = some (key, rest) := by
  have whole : String.ofList key.toList = key := String.ofList_toList
  by_cases bare : key.toList ≠ [] ∧ ∀ c ∈ key.toList, isBareChar c = true
  · rw [quote_key_bare bare.1 bare.2, read_simple_key?_bare bare.1 bare.2 ends, whole]
  · rw [quote_key_plain plain bare, quoted_basic rest plain, readSimpleKey?, basic_string?_plain fun c member =>
      ⟨is_plain_of_not_control (plain c member).1, (plain c member).2⟩, Option.map_some]
    exact congrArg (fun name => some (name, rest)) whole

end Key

end Writing

end EscapeTime.Toml
