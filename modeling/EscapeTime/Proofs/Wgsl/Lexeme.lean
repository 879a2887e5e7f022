import EscapeTime.Proofs.Decimal.Reading
import EscapeTime.Wgsl.Expr

set_option autoImplicit false

namespace EscapeTime.Wgsl

inductive Lexeme where
  | name (text : String)
  | number (text : String)
  | mark (symbol : Char)
deriving DecidableEq

def isNameStart (c : Char) : Bool :=
  c.isAlpha || c = '_'

def isNameChar (c : Char) : Bool :=
  c.isAlphanum || c = '_'

def marks : List Char := ['(', ')', ',', '.', '+', '-', '<', '>']

-- Increments, compound assignments, arrows, shifts and comparisons.
def operators : List (Char × Char) :=
  [('-', '-'), ('-', '='), ('-', '>'), ('+', '+'), ('+', '='), ('<', '<'), ('<', '='), ('>', '>'), ('>', '=')]

def splitNumeral (text : List Char) : List Char × List Char :=
  match text.dropWhile Char.isDigit with
  | '.' :: tail => (text.takeWhile Char.isDigit ++ '.' :: tail.takeWhile Char.isDigit, tail.dropWhile Char.isDigit)
  | tail => (text.takeWhile Char.isDigit, tail)

theorem split_numeral_length (text : List Char) (c : Char) (digit : c.isDigit = true) :
    (splitNumeral (c :: text)).2.length ≤ text.length := by
  have shorter : ∀ list : List Char, (list.dropWhile Char.isDigit).length ≤ list.length :=
    fun list => (List.dropWhile_sublist _).length_le
  have tail := shorter text
  rw [splitNumeral, List.dropWhile_cons_of_pos digit]
  split
  · rename_i rest dropped
    rw [dropped, List.length_cons] at tail
    have more := shorter rest
    exact Nat.le_trans more (by omega)
  · exact tail

-- A numeral that runs into a letter has a suffix or an exponent, which expressions here do not use.
def lex : List Char → Option (List Lexeme)
  | [] => some []
  | c :: tail =>
      if _digit : c.isDigit = true then
        if (splitNumeral (c :: tail)).2.head?.any isNameChar then none
        else (lex (splitNumeral (c :: tail)).2).map (.number (String.ofList (splitNumeral (c :: tail)).1) :: ·)
      else if isNameStart c then
        (lex (tail.dropWhile isNameChar)).map (.name (String.ofList (c :: tail.takeWhile isNameChar)) :: ·)
      else if c.isWhitespace then lex tail
      else if c ∈ marks then
        if tail.head?.any fun next => operators.contains (c, next) then none
        else (lex tail).map (.mark c :: ·)
      else none
termination_by text => text.length
decreasing_by
  · have := split_numeral_length tail c _digit
    simp only [List.length_cons]
    omega
  · have := (List.dropWhile_sublist (l := tail) isNameChar).length_le
    simp only [List.length_cons]
    omega
  · simp
  · simp

def Apart (rest : List Char) : Prop :=
  ∀ c ∈ rest.head?, isNameChar c = false

theorem lex_nil : lex [] = some [] := by
  rw [lex]

theorem lex_blank (rest : List Char) : lex (' ' :: rest) = lex rest := by
  rw [lex, dif_neg (by decide), if_neg (by decide), if_pos (by decide)]

theorem mark_plain {c : Char} (known : c ∈ marks) :
    c.isDigit = false ∧ isNameStart c = false ∧ c.isWhitespace = false := by
  have all : (marks.all fun c => !c.isDigit && !isNameStart c && !c.isWhitespace) = true := by decide
  simpa [and_assoc] using List.all_eq_true.mp all c known

theorem lex_mark {c : Char} {rest : List Char} (known : c ∈ marks)
    (apart : (rest.head?.any fun next => operators.contains (c, next)) = false) :
    lex (c :: rest) = (lex rest).map (.mark c :: ·) := by
  obtain ⟨digit, start, blank⟩ := mark_plain known
  rw [lex, dif_neg (by simp [digit]), if_neg (by simp [start]), if_neg (by simp [blank]), if_pos known,
    if_neg (by simp only [apart, Bool.false_eq_true, not_false_eq_true])]

theorem lex_mark_before {c next : Char} (rest : List Char) (known : c ∈ marks)
    (apart : operators.contains (c, next) = false) :
    lex (c :: next :: rest) = (lex (next :: rest)).map (.mark c :: ·) :=
  lex_mark known apart

def isWord : List Char → Bool
  | [] => false
  | c :: text => !c.isDigit && isNameStart c && text.all isNameChar

theorem lex_word (word : String) (rest : List Char) (proper : isWord word.toList = true) (apart : Apart rest) :
    lex (word.toList ++ rest) = (lex rest).map (.name word :: ·) := by
  cases spelled : word.toList with
  | nil =>
      rw [spelled] at proper
      cases proper
  | cons c text =>
      simp only [spelled, isWord, Bool.and_eq_true, Bool.not_eq_true', List.all_eq_true] at proper
      obtain ⟨⟨plain, start⟩, all⟩ := proper
      obtain ⟨taken, dropped⟩ := Decimal.take_while_run rest all apart
      rw [List.cons_append, lex, dif_neg (by simp [plain]), if_pos start, taken, dropped, ← spelled,
        String.ofList_toList]

theorem lex_numeral {whole fraction rest : List Char} (present : whole ≠ [])
    (wholeDigits : ∀ c ∈ whole, c.isDigit = true) (fractionDigits : ∀ c ∈ fraction, c.isDigit = true)
    (apart : Apart rest) :
    lex (whole ++ '.' :: fraction ++ rest) =
      (lex rest).map (.number (String.ofList (whole ++ '.' :: fraction)) :: ·) := by
  have ended : ∀ c ∈ rest.head?, c.isDigit = false := by
    intro c member
    have other := apart c member
    simp only [isNameChar, Char.isAlphanum, Bool.or_eq_false_iff] at other
    exact other.1.2
  obtain ⟨more, none⟩ := Decimal.take_while_run rest fractionDigits ended
  obtain ⟨taken, dropped⟩ := Decimal.take_while_run ('.' :: (fraction ++ rest)) wholeDigits (by simp)
  have split : splitNumeral (whole ++ '.' :: fraction ++ rest) = (whole ++ '.' :: fraction, rest) := by
    rw [List.append_assoc, List.cons_append, splitNumeral, dropped, taken]
    simp only [more, none]
  have free : rest.head?.any isNameChar = false := by
    cases rest with
    | nil => rfl
    | cons c rest => simpa using apart c rfl
  cases whole with
  | nil => exact absurd rfl present
  | cons c whole =>
      have digit := wholeDigits c (List.mem_cons_self ..)
      rw [List.cons_append, List.cons_append] at split ⊢
      rw [lex, dif_pos digit, split, if_neg (by simp [free])]

def Lexes (text : List Char) (lexemes : List Lexeme) : Prop :=
  ∀ rest, Apart rest → lex (text ++ rest) = (lex rest).map (lexemes ++ ·)

theorem lex_solid {c : Char} (rest : List Char) (solid : c ∈ ['(', ')', ',', '.']) :
    lex (c :: rest) = (lex rest).map (.mark c :: ·) := by
  have all : (['(', ')', ',', '.'].all fun c => marks.contains c && operators.all (·.1 != c)) = true := by decide
  have facts := List.all_eq_true.mp all c solid
  simp only [Bool.and_eq_true, List.contains_iff_mem, List.all_eq_true, bne_iff_ne] at facts
  have apart : ∀ next, operators.contains (c, next) = false := by
    intro next
    rw [List.contains_eq_mem, decide_eq_false_iff_not]
    exact fun member => facts.2 _ member rfl
  apply lex_mark facts.1
  cases rest with
  | nil => rfl
  | cons next rest => exact apart next

theorem apart_of_mark {c : Char} {rest : List Char} (known : isNameChar c = false) : Apart (c :: rest) := by
  intro other member
  obtain rfl := Option.some.inj member
  exact known

theorem lex_group {text : List Char} {lexemes : List Lexeme} (inner : Lexes text lexemes) (rest : List Char) :
    lex ('(' :: (text ++ ')' :: rest)) = (lex rest).map ((.mark '(' :: lexemes ++ [.mark ')']) ++ ·) := by
  rw [lex_solid _ (by decide), inner _ (apart_of_mark (by decide)), lex_solid _ (by decide), Option.map_map,
    Option.map_map]
  congr 1
  funext more
  simp

theorem lex_pair {left right : List Char} {first second : List Lexeme} (before : Lexes left first)
    (after : Lexes right second) (rest : List Char) :
    lex ('(' :: (left ++ ',' :: ' ' :: (right ++ ')' :: rest))) =
      (lex rest).map ((.mark '(' :: first ++ .mark ',' :: second ++ [.mark ')']) ++ ·) := by
  rw [lex_solid _ (by decide), before _ (apart_of_mark (by decide)), lex_solid _ (by decide), lex_blank,
    after _ (apart_of_mark (by decide)), lex_solid _ (by decide)]
  simp only [Option.map_map]
  congr 1
  funext more
  simp

theorem lexes_minus {first : Char} {tail : List Char} {lexemes : List Lexeme} (digit : first.isDigit = true)
    (inner : Lexes (first :: tail) lexemes) : Lexes ('-' :: first :: tail) (.mark '-' :: lexemes) := by
  have joined : (operators.all fun pair => !pair.2.isDigit) = true := by decide
  have apart : operators.contains ('-', first) = false := by
    rw [List.contains_eq_mem, decide_eq_false_iff_not]
    intro member
    have plain := List.all_eq_true.mp joined _ member
    rw [digit] at plain
    cases plain
  intro rest ended
  have plain := inner rest ended
  rw [List.cons_append] at plain
  rw [List.cons_append, List.cons_append, lex_mark_before _ (by decide) apart, plain, Option.map_map]
  rfl

end EscapeTime.Wgsl
