import EscapeTime.Decimal

set_option autoImplicit false

namespace EscapeTime.Decimal

theorem digit_to_lower {c : Char} (digit : c.isDigit = true) : c.toLower = c := by
  simp only [Char.isDigit, Bool.and_eq_true, decide_eq_true_eq] at digit
  have below : c.val.toNat ≤ 57 := UInt32.le_iff_toNat_le.mp digit.2
  have plain : ¬ (c.val ≥ 'A'.val ∧ c.val ≤ 'Z'.val) := by
    intro upper
    have above : 65 ≤ c.val.toNat := UInt32.le_iff_toNat_le.mp upper.1
    omega
  exact dif_neg plain

theorem digit_ne {c other : Char} (digit : c.isDigit = true) (plain : other.isDigit = false) : c ≠ other := by
  rintro rfl
  rw [digit] at plain
  cases plain

theorem split_sign_digit {c : Char} (tail : List Char) (digit : c.isDigit = true) :
    splitSign (c :: tail) = (false, c :: tail) := by
  unfold splitSign
  split
  · rename_i same
    exact absurd (List.cons.inj same).1 (digit_ne digit rfl)
  · rename_i same
    exact absurd (List.cons.inj same).1 (digit_ne digit rfl)
  · rfl

theorem read_float?_digit {c : Char} (tail : List Char) (digit : c.isDigit = true) :
    readFloat? (String.ofList (c :: tail)) =
      (ofChars? (c :: tail)).map fun decimal => Binary.ofMagnitude64 false (decimal.nearest .binary64) := by
  have word : ∀ letter rest, letter.isDigit = false →
      String.ofList ((c :: tail).map Char.toLower) ≠ String.ofList (letter :: rest) := by
    intro letter rest plain same
    have chars := congrArg String.toList same
    rw [String.toList_ofList, String.toList_ofList, List.map_cons, digit_to_lower digit] at chars
    exact digit_ne digit plain (List.cons.inj chars).1
  rw [readFloat?, String.toList_ofList, split_sign_digit tail digit]
  dsimp only
  split
  · rename_i same
    exact absurd same (word 'i' ['n', 'f'] rfl)
  · rename_i same
    exact absurd same (word 'i' ['n', 'f', 'i', 'n', 'i', 't', 'y'] rfl)
  · rename_i same
    exact absurd same (word 'n' ['a', 'n'] rfl)
  · rfl

theorem take_while_run {test : Char → Bool} {run : List Char} (rest : List Char) (all : ∀ c ∈ run, test c = true)
    (ends : ∀ c ∈ rest.head?, test c = false) :
    (run ++ rest).takeWhile test = run ∧ (run ++ rest).dropWhile test = rest := by
  rw [List.takeWhile_append_of_pos all, List.dropWhile_append_of_pos all]
  cases rest with
  | nil => simp
  | cons c rest =>
      have ended := ends c rfl
      simp [ended]

theorem of_chars?_whole {digits : List Char} (present : digits ≠ [])
    (all : ∀ c ∈ digits, c.isDigit = true) : ofChars? digits = some ⟨ofDigits digits, 0⟩ := by
  obtain ⟨taken, dropped⟩ := take_while_run [] all (by simp)
  rw [List.append_nil] at taken dropped
  simp [ofChars?, taken, dropped, present, readExponent?]

theorem of_chars?_pointed {digits fraction : List Char} (present : digits ≠ [])
    (all : ∀ c ∈ digits, c.isDigit = true) (rest : ∀ c ∈ fraction, c.isDigit = true) :
    ofChars? (digits ++ '.' :: fraction) = some ⟨ofDigits (digits ++ fraction), -fraction.length⟩ := by
  obtain ⟨taken, dropped⟩ := take_while_run ('.' :: fraction) all (by simp)
  obtain ⟨more, none⟩ := take_while_run [] rest (by simp)
  rw [List.append_nil] at more none
  simp [ofChars?, taken, dropped, more, none, present, readExponent?]

end EscapeTime.Decimal
