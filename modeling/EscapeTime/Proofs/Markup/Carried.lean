import EscapeTime.Markup

set_option autoImplicit false

namespace EscapeTime

-- Names are in order, so none occurs twice and every entry is found.
theorem Dictionary.get?_eq_some_iff (names : Dictionary) {name text : String} :
    names.get? name = some text ↔ (name, text) ∈ names.entries := by
  rw [get?, List.lookup_eq_some_iff]
  constructor
  · rintro ⟨before, after, split, -⟩
    rw [split]
    exact List.mem_append_right _ (List.mem_cons_self ..)
  · intro member
    obtain ⟨before, after, split⟩ := List.append_of_mem member
    refine ⟨before, after, split, fun entry earlier => ?_⟩
    have ordered := split ▸ names.ordered
    have less := (List.pairwise_append.mp ordered).2.2 entry earlier (name, text) (List.mem_cons_self ..)
    simpa using (String.ne_of_lt less).symm

namespace Markup

-- Digits, at least one, and then a point with any digits after it, or nothing.
inductive Numeral : List Char → Prop where
  | whole {digits : List Char} (present : digits ≠ []) (all : ∀ c ∈ digits, c.isDigit = true) :
      Numeral digits
  | pointed {digits fraction : List Char} (present : digits ≠ [])
      (all : ∀ c ∈ digits, c.isDigit = true) (rest : ∀ c ∈ fraction, c.isDigit = true) :
      Numeral (digits ++ '.' :: fraction)

-- The names of variables: a Greek command with its backslash, or a letter that the dictionary does not
-- reserve, each with an optional subscript.
def Variable (names : Dictionary) (text : String) : Prop :=
  (∃ tail, text.toList = '\\' :: tail) ∨
    (∃ letter tail, text.toList = letter :: tail ∧ letter.isAlpha = true) ∧ names.get? text = none

def Carries (names : Dictionary) : Kind → Option String → Prop
  | .real, value | .imaginary, value => ∃ text, value = some (String.ofList text) ∧ Numeral text
  | .identifier, value => ∃ text, value = some text ∧ Variable names text
  | .parameter, value => ∃ name text, value = some text ∧ names.get? name = some text
  | _, value => value = none

theorem take_digit_width (source : List Char) :
    source.take (digitWidth source) = source.takeWhile Char.isDigit := by
  induction source with
  | nil => rfl
  | cons c tail ih =>
      by_cases digit : c.isDigit = true
      · simpa [digitWidth, digit] using ih
      · simp [digitWidth, digit]

theorem all_digits (source : List Char) : ∀ c ∈ source.takeWhile Char.isDigit, c.isDigit = true :=
  List.all_eq_true.mp List.all_takeWhile

theorem numeral_text {digit : Char} (first : digit.isDigit = true) (source : List Char) :
    Numeral (digit :: source.take (numeralWidth source)) := by
  have digits : ∀ c ∈ digit :: source.takeWhile Char.isDigit, c.isDigit = true := by
    intro c member
    rcases List.mem_cons.mp member with rfl | member
    · exact first
    · exact all_digits source c member
  unfold numeralWidth
  split
  · rename_i tail next
    have cut : source.take (digitWidth source + 1 + digitWidth tail) =
        source.takeWhile Char.isDigit ++ '.' :: tail.takeWhile Char.isDigit := by
      rw [Nat.add_assoc, List.take_add, next, Nat.add_comm 1, List.take_succ_cons, take_digit_width,
        take_digit_width]
    rw [cut]
    exact .pointed (List.cons_ne_nil digit _) digits (all_digits tail)
  · rw [take_digit_width]
    exact .whole (List.cons_ne_nil digit _) digits

theorem commands_carry {entry : String × Kind} (member : entry ∈ commands) (names : Dictionary) :
    Carries names entry.2 none := by
  simp only [commands, List.mem_cons, List.not_mem_nil, or_false] at member
  rcases member with rfl | rfl | rfl | rfl | rfl | rfl | rfl | rfl | rfl | rfl <;> rfl

theorem command_carries {names : Dictionary} {source : List Char} {kind : Kind}
    {value : Option String} {width : Nat} (read : command source = (.token kind value, width)) :
    Carries names kind value := by
  unfold command at read
  split at read
  · rename_i entry found
    simp only [Prod.mk.injEq, Lexeme.token.injEq] at read
    obtain ⟨⟨rfl, rfl⟩, -⟩ := read
    exact commands_carry (List.mem_of_find?_eq_some found) names
  · split at read
    · rename_i letter found
      simp only [Prod.mk.injEq, Lexeme.token.injEq] at read
      obtain ⟨⟨rfl, rfl⟩, -⟩ := read
      exact ⟨_, rfl, .inl ⟨_, by rw [String.toList_ofList]⟩⟩
    · split at read <;> simp at read

theorem numeral_carries {names : Dictionary} {digit : Char} {source : List Char} {kind : Kind}
    {value : Option String} {width : Nat} (first : digit.isDigit = true)
    (read : numeral digit source = (.token kind value, width)) : Carries names kind value := by
  have text := numeral_text first source
  unfold numeral at read
  dsimp only at read
  split at read <;> simp only [Prod.mk.injEq, Lexeme.token.injEq] at read <;>
    obtain ⟨⟨rfl, rfl⟩, -⟩ := read <;> exact ⟨_, rfl, text⟩

theorem name_carries {names : Dictionary} {letter : Char} {source : List Char} {kind : Kind}
    {value : Option String} {width : Nat} (first : letter.isAlpha = true)
    (read : name names letter source = (.token kind value, width)) : Carries names kind value := by
  unfold name at read
  dsimp only at read
  split at read
  · rename_i text found
    simp only [Prod.mk.injEq, Lexeme.token.injEq] at read
    obtain ⟨⟨rfl, rfl⟩, -⟩ := read
    exact ⟨_, text, rfl, found⟩
  · rename_i missing
    simp only [Prod.mk.injEq, Lexeme.token.injEq] at read
    obtain ⟨⟨rfl, rfl⟩, -⟩ := read
    exact ⟨_, rfl, .inr ⟨⟨letter, _, by rw [String.toList_ofList], first⟩, missing⟩⟩

theorem sign_carries {names : Dictionary} {head : Char} {kind : Kind} (sign : sign? head = some kind) :
    Carries names kind none := by
  unfold sign? at sign
  split at sign <;> simp at sign <;> subst sign <;> rfl

theorem segment_carries {names : Dictionary} {head : Char} {tail : List Char} {kind : Kind}
    {value : Option String} {width : Nat} (read : segment names head tail = (.token kind value, width)) :
    Carries names kind value := by
  unfold segment at read
  split at read
  · simp at read
  · split at read
    · rename_i sign found
      simp only [Prod.mk.injEq, Lexeme.token.injEq] at read
      obtain ⟨⟨rfl, rfl⟩, -⟩ := read
      exact sign_carries found
    · split at read
      · exact command_carries read
      · split at read
        · rename_i digit
          exact numeral_carries digit read
        · split at read
          · rename_i letter
            exact name_carries letter read
          · simp at read

theorem scan_from_carries {names : Dictionary} {offset : Nat} {source : List Char} {token : Token}
    (member : token ∈ (scanFrom names offset source).tokens) : Carries names token.kind token.value := by
  induction offset, source using scanFrom.induct names with
  | case1 offset => simp [scanFrom] at member
  | case2 offset head tail lexeme width read ih =>
      rw [scanFrom, read] at member
      cases lexeme with
      | skipped => exact ih member
      | token kind value =>
          rcases List.mem_cons.mp member with rfl | member
          · exact segment_carries read
          · exact ih member
      | stray character => exact ih member
      | unknown command => simp [Scan.prepend] at member

theorem scan_carries {names : Dictionary} {source : String} {token : Token}
    (member : token ∈ (scan names source).tokens) : Carries names token.kind token.value :=
  scan_from_carries member

end Markup

end EscapeTime
