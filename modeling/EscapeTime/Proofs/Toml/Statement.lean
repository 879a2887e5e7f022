import EscapeTime.Proofs.Toml.Quoted
import EscapeTime.Proofs.Toml.Words

set_option autoImplicit false

namespace EscapeTime.Toml

-- A character that neither a gap between statements nor a comment starts with.
def isSolid (c : Char) : Bool :=
  c != ' ' && c != '\t' && c != '\n' && c != '\r' && c != '#'

theorem skip_gap?_solid {c : Char} (solid : isSolid c = true) (tail : List Char) :
    skipGap? false (c :: tail) = some (c :: tail) := by
  simp only [isSolid, Bool.and_eq_true, bne_iff_ne] at solid
  obtain ⟨⟨⟨⟨space, tab⟩, newline⟩, back⟩, comment⟩ := solid
  rw [skipGap?, if_neg (by tauto), if_neg comment]
  · exact newline
  · exact fun _ same => absurd same back

theorem skip_blanks_solid {c : Char} (solid : isSolid c = true) (tail : List Char) : skipBlanks (c :: tail) = c :: tail := by
  simp only [isSolid, Bool.and_eq_true, bne_iff_ne] at solid
  obtain ⟨⟨⟨⟨space, tab⟩, -⟩, -⟩, -⟩ := solid
  simp [skipBlanks, space, tab]

theorem is_solid_of {test : Char → Bool} {c : Char} (inside : test c = true)
    (gaps : [' ', '\t', '\n', '\r', '#'].all (fun c => !test c) = true) : isSolid c = true := by
  by_contra gap
  simp only [isSolid, Bool.and_eq_true, bne_iff_ne, not_and_or, not_not] at gap
  rcases gap with (((rfl | rfl) | rfl) | rfl) | rfl <;> simp [inside] at gaps

section Key

variable {most : Nat} {part : String} {c : Char} {text rest : List Char}

theorem read_parts?_last (solid : isSolid c = true) (read : readSimpleKey? (c :: text) = some (part, rest))
    (last : ∀ tail, skipBlanks rest ≠ '.' :: tail) :
    readParts? (most + 1) (c :: text) = some ([part], skipBlanks rest) := by
  simp only [readParts?, skip_blanks_solid solid, read, Option.bind_eq_bind, Option.bind_some]
  rfl

theorem read_parts?_next {tail behind : List Char} {parts : List String} (solid : isSolid c = true)
    (read : readSimpleKey? (c :: text) = some (part, rest)) (point : skipBlanks rest = '.' :: tail)
    (others : readParts? most tail = some (parts, behind)) :
    readParts? (most + 1) (c :: text) = some (part :: parts, behind) := by
  simp only [readParts?, skip_blanks_solid solid, read, Option.bind_eq_bind, Option.bind_some, point, others]
  rfl

end Key

structure IsBare (name : String) : Prop where
  present : name.toList ≠ []
  chars : ∀ c ∈ name.toList, isBareChar c = true

instance (name : String) : Decidable (IsBare name) :=
  decidable_of_iff (name.toList ≠ [] ∧ name.toList.all isBareChar = true)
    ⟨fun ⟨present, chars⟩ => ⟨present, List.all_eq_true.mp chars⟩,
      fun bare => ⟨bare.present, List.all_eq_true.mpr bare.chars⟩⟩

-- A text that is read as a statement, with the end of its line, whatever comes behind it.
structure IsStatement (text : List Char) (statement : Statement) : Prop where
  solid : ∃ c tail, text = c :: tail ∧ isSolid c = true
  read : ∀ rest, readStatement? (text ++ rest) = some (statement, rest)

theorem is_statement_header {text : List Char} {path : List String}
    (first : ∃ c tail, text = c :: tail ∧ isBareChar c = true)
    (key : ∀ rest, readKey? (text ++ ']' :: rest) = some (path, ']' :: rest)) :
    IsStatement ('[' :: (text ++ [']', '\n'])) (.header path) := by
  refine ⟨⟨'[', _, rfl, rfl⟩, fun rest => ?_⟩
  have read := key ('\n' :: rest)
  obtain ⟨c, tail, rfl, bare⟩ := first
  have single : ∀ more, c :: (tail ++ ']' :: '\n' :: rest) ≠ '[' :: more := by
    intro more same
    rw [(List.cons.inj same).1] at bare
    cases bare
  simp only [List.cons_append, List.append_assoc, List.nil_append] at read ⊢
  rw [readStatement?.eq_def]
  split
  · rename_i more same
    exact absurd (List.cons.inj same).2 (single more)
  · rename_i more other same
    rw [← (List.cons.inj same).2, read]
    rfl
  · rename_i other
    exact absurd rfl (other _)

theorem IsBare.plain_key {name : String} (bare : IsBare name) : PlainKey name := by
  intro c member
  have inside := bare.chars c member
  have other : ∀ {letter : Char}, isBareChar letter = false → c ≠ letter := by
    rintro letter no rfl
    rw [inside] at no
    cases no
  refine ⟨?_, other rfl, other rfl⟩
  by_contra control
  rw [Bool.not_eq_false] at control
  have small : c.toNat < 128 := by
    simp only [isControl, Bool.or_eq_true, decide_eq_true_eq, beq_iff_eq] at control
    omega
  have none : ∀ code < 128, isControl (Char.ofNat code) = true → isBareChar (Char.ofNat code) = false := by decide
  have no := none c.toNat small
  rw [Char.ofNat_toNat] at no
  exact other (no control) rfl

section Header

variable {name : String} (bare : IsBare name)
include bare

theorem IsBare.cases : ∃ c tail, name.toList = c :: tail ∧ isBareChar c = true := by
  cases chars : name.toList with
  | nil => exact absurd chars bare.present
  | cons c tail => exact ⟨c, tail, rfl, bare.chars c (chars ▸ List.mem_cons_self ..)⟩

theorem IsBare.read_simple_key {c : Char} (ends : isBareChar c = false) (rest : List Char) :
    readSimpleKey? (name.toList ++ c :: rest) = some (name, c :: rest) := by
  rw [read_simple_key?_bare bare.present bare.chars, String.ofList_toList]
  rintro _ ⟨⟩
  exact ends

theorem read_parts?_closed (most : Nat) (rest : List Char) :
    readParts? (most + 1) (name.toList ++ ']' :: rest) = some ([name], ']' :: rest) := by
  have read := bare.read_simple_key (c := ']') rfl rest
  obtain ⟨c, tail, chars, first⟩ := bare.cases
  rw [chars, List.cons_append] at read ⊢
  exact read_parts?_last (is_solid_of first rfl) read fun tail same => absurd (List.cons.inj same).1 (by decide)

theorem is_statement_table : IsStatement ('[' :: (name.toList ++ [']', '\n'])) (.header [name]) :=
  is_statement_header bare.cases fun rest => read_parts?_closed bare _ rest

theorem is_statement_subtable {inner : String} (innerBare : IsBare inner) :
    IsStatement ('[' :: (name.toList ++ '.' :: (inner.toList ++ [']', '\n']))) (.header [name, inner]) := by
  have key : ∀ rest, readKey? (name.toList ++ '.' :: inner.toList ++ ']' :: rest) = some ([name, inner], ']' :: rest) := by
    intro rest
    have read := bare.read_simple_key (c := '.') rfl (inner.toList ++ ']' :: rest)
    have others := read_parts?_closed innerBare 78 rest
    obtain ⟨c, tail, chars, first⟩ := bare.cases
    rw [chars, List.cons_append] at read
    rw [chars, List.append_assoc, List.cons_append]
    exact read_parts?_next (is_solid_of first rfl) read rfl others
  obtain ⟨c, tail, chars, first⟩ := bare.cases
  have header := is_statement_header ⟨c, tail ++ '.' :: inner.toList, by rw [chars]; rfl, first⟩ key
  rwa [List.append_assoc, List.cons_append] at header

end Header

section Pair

structure IsValue (text : List Char) (value : Datum) : Prop where
  solid : ∃ c tail, text = c :: tail ∧ isSolid c = true
  read : ∀ fuel rest, text.length ≤ fuel →
    readValue? (fuel + 1) deepest (text ++ '\n' :: rest) = some (value, '\n' :: rest)

theorem is_value_word {text : List Char} {value : Datum} (word : IsWord text value) : IsValue text value where
  solid := by
    cases text with
    | nil => exact absurd rfl (is_word_ne_nil word)
    | cons c tail => exact ⟨c, tail, rfl, is_solid_of (word.chars c (List.mem_cons_self ..)) rfl⟩
  read := by
    intro fuel rest _
    refine read_value?_word fuel deepest word ?_
    rintro _ ⟨⟩
    exact ⟨rfl, by decide⟩

theorem is_value_text {text : String} (plain : PlainText text) : IsValue (quoteValue text).toList (.text text) where
  solid := by
    have read : readString? ((quoteValue text).toList ++ []) = some (text, []) :=
      read_string?_quote_value plain (by simp)
    rw [List.append_nil] at read
    obtain ⟨tail, double | single⟩ := read_string?_starts read
    · exact ⟨_, tail, double, rfl⟩
    · exact ⟨_, tail, single, rfl⟩
  read := by
    intro fuel rest _
    refine read_value?_quote_value fuel deepest plain ?_
    rintro _ ⟨⟩
    decide

theorem is_statement_pair {key : String} {keyText text : List Char} {value : Datum}
    (first : ∃ c tail, keyText = c :: tail ∧ isSolid c = true ∧ c ≠ '[')
    (read : ∀ rest, readSimpleKey? (keyText ++ ' ' :: rest) = some (key, ' ' :: rest)) (isValue : IsValue text value) :
    IsStatement (keyText ++ ' ' :: '=' :: ' ' :: (text ++ ['\n'])) (.pair [key] value) := by
  obtain ⟨c, tail, rfl, solid, notHeader⟩ := first
  refine ⟨⟨c, _, rfl, solid⟩, fun rest => ?_⟩
  have part := read ('=' :: ' ' :: (text ++ '\n' :: rest))
  have parts : readKey? (c :: (tail ++ ' ' :: '=' :: ' ' :: (text ++ '\n' :: rest))) =
      some ([key], '=' :: ' ' :: (text ++ '\n' :: rest)) :=
    read_parts?_last solid part fun more same => absurd (List.cons.inj same).1 (by decide)
  obtain ⟨head, more, rfl, solidValue⟩ := isValue.solid
  have blanks : skipBlanks (' ' :: (head :: more ++ '\n' :: rest)) = head :: more ++ '\n' :: rest :=
    skip_blanks_solid solidValue _
  simp only [List.cons_append, List.append_assoc, List.nil_append] at parts blanks ⊢
  rw [readStatement?.eq_def]
  split
  · rename_i same
    exact absurd (List.cons.inj same).1 notHeader
  · rename_i same
    exact absurd (List.cons.inj same).1 notHeader
  · rename_i notItem notTable
    have enough : (head :: more).length ≤
        2 * (c :: (tail ++ ' ' :: '=' :: ' ' :: head :: (more ++ '\n' :: rest))).length + 1 := by
      simp only [List.length_cons, List.length_append]
      omega
    have value := isValue.read _ rest enough
    rw [List.cons_append] at value
    simp only [parts, blanks, value, Option.bind_eq_bind, Option.bind_some]
    rfl

end Pair

section Items

def itemLines (items : List (List Char × Datum)) : List Char :=
  items.flatMap fun item => ' ' :: ' ' :: ' ' :: ' ' :: (item.1 ++ [',', '\n'])

theorem skip_gap?_indent {c : Char} (solid : isSolid c = true) (tail : List Char) :
    skipGap? false ('\n' :: ' ' :: ' ' :: ' ' :: ' ' :: c :: tail) = some (c :: tail) := by
  rw [← skip_gap?_solid solid tail]
  simp [skipGap?]

theorem read_items?_lines (depth : Nat) {items : List (List Char × Datum)} (words : ∀ item ∈ items, IsWord item.1 item.2)
    (rest : List Char) {fuel : Nat} (enough : items.length < fuel) :
    readItems? fuel depth ('\n' :: (itemLines items ++ ']' :: rest)) = some (items.map (·.2), rest) := by
  induction items generalizing fuel with
  | nil =>
      obtain ⟨fuel, rfl⟩ := Nat.exists_eq_add_of_lt enough
      have gap : skipGap? false ('\n' :: ']' :: rest) = some (']' :: rest) := skip_gap?_solid rfl rest
      simp only [itemLines, List.flatMap_nil, List.nil_append, readItems?, gap, Option.bind_eq_bind, Option.bind_some]
      rfl
  | cons item items ih =>
      obtain ⟨fuel, rfl⟩ := Nat.exists_eq_add_of_lt enough
      have word := words item (List.mem_cons_self ..)
      have value : readValue? (items.length + fuel + 1) depth (item.1 ++ ',' :: '\n' :: (itemLines items ++ ']' :: rest)) =
          some (item.2, ',' :: '\n' :: (itemLines items ++ ']' :: rest)) := by
        refine read_value?_word _ depth word ?_
        rintro _ ⟨⟩
        exact ⟨rfl, by decide⟩
      have others := ih (fun item member => words item (List.mem_cons_of_mem _ member))
        (show items.length < items.length + fuel + 1 by omega)
      have layout : '\n' :: (itemLines (item :: items) ++ ']' :: rest) =
          '\n' :: ' ' :: ' ' :: ' ' :: ' ' :: (item.1 ++ ',' :: '\n' :: (itemLines items ++ ']' :: rest)) := by
        simp [itemLines]
      have comma : ∀ tail, skipGap? false (',' :: tail) = some (',' :: tail) := skip_gap?_solid rfl
      obtain ⟨c, tail, text, solid⟩ := (is_value_word word).solid
      have notClosed : c ≠ ']' := by
        rintro rfl
        exact absurd (word.chars ']' (text ▸ List.mem_cons_self ..)) (by decide)
      rw [layout, List.length_cons, show items.length + 1 + fuel + 1 = items.length + fuel + 1 + 1 by omega]
      rw [text, List.cons_append] at value ⊢
      rw [readItems?]
      simp only [skip_gap?_indent solid, Option.bind_eq_bind, Option.bind_some]
      split
      · rename_i same
        exact absurd (List.cons.inj same).1 notClosed
      · simp only [value, comma, others, Option.bind_some]
        rfl

theorem length_item_lines (items : List (List Char × Datum)) : items.length ≤ (itemLines items).length := by
  induction items with
  | nil => exact Nat.le_refl 0
  | cons item items ih =>
      rw [itemLines, List.flatMap_cons, List.length_append] at *
      simp only [List.length_cons]
      omega

theorem is_value_list {items : List (List Char × Datum)} (words : ∀ item ∈ items, IsWord item.1 item.2) :
    IsValue ('[' :: '\n' :: (itemLines items ++ [']'])) (.list (items.map (·.2))) := by
  refine ⟨⟨'[', _, rfl, rfl⟩, fun fuel rest long => ?_⟩
  have enough : items.length < fuel := by
    have lines := length_item_lines items
    simp only [List.length_cons, List.length_append, List.length_nil] at long
    omega
  have read := read_items?_lines 79 words ('\n' :: rest) enough
  simp only [List.cons_append, List.append_assoc, List.nil_append]
  rw [show deepest = 79 + 1 from rfl, readValue?, read, Option.map_some]

end Items

end EscapeTime.Toml
