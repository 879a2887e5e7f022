import EscapeTime.Proofs.Decimal.Pointed
import EscapeTime.Proofs.Decimal.Reread
import EscapeTime.Toml.Writer

set_option autoImplicit false

namespace EscapeTime.Toml

open Decimal (ofDigits digits splitSign)

theorem ungroup_digits {text : List Char} (present : text ≠ []) (all : ∀ c ∈ text, c.isDigit = true) :
    ungroup Char.isDigit text = some text := by
  fun_induction ungroup Char.isDigit text with
  | case1 => exact absurd rfl present
  | case2 digit isDigit => rfl
  | case3 digit plain => exact absurd (all digit (List.mem_cons_self ..)) plain
  | case4 digit tail isDigit ih => exact absurd (all '_' (by simp)) (by decide)
  | case5 digit tail plain => exact absurd (all digit (List.mem_cons_self ..)) plain
  | case6 digit tail some other isDigit ih =>
      rw [ih some fun c member => all c (List.mem_cons_of_mem _ member), Option.map_some]
  | case7 digit tail some other plain => exact absurd (all digit (List.mem_cons_self ..)) plain

theorem ungroup_none {isDigit : Char → Bool} {text : List Char} {c : Char} (member : c ∈ text)
    (plain : isDigit c = false) (other : c ≠ '_') : ungroup isDigit text = none := by
  have different : ∀ {digit : Char}, isDigit digit = true → c ≠ digit := by
    rintro digit yes rfl
    rw [plain] at yes
    cases yes
  fun_induction ungroup isDigit text with
  | case1 => rfl
  | case2 digit yes => exact absurd (List.mem_singleton.mp member) (different yes)
  | case3 digit no => rfl
  | case4 digit tail yes ih =>
      have later : c ∈ tail := by
        simpa only [List.mem_cons, different yes, other, false_or] using member
      rw [ih later, Option.map_none]
  | case5 digit tail no => rfl
  | case6 digit tail some mark yes ih =>
      rw [ih ((List.mem_cons.mp member).resolve_left (different yes)), Option.map_none]
  | case7 digit tail some mark no => rfl

theorem decimal_digits?_digits {text : List Char} (present : text ≠ []) (all : ∀ c ∈ text, c.isDigit = true)
    (unpadded : text = ['0'] ∨ ∀ tail, text ≠ '0' :: tail) : decimalDigits? text = some text := by
  rw [decimalDigits?, ungroup_digits present all, Option.bind_some]
  split
  · rename_i digit more
    rcases unpadded with zero | other
    · cases zero
    · exact absurd rfl (other _)
  · rfl

section Integer

theorem split_sign_mem {text : List Char} {c : Char} (member : c ∈ text) (notMinus : c ≠ '-') (notPlus : c ≠ '+') :
    c ∈ (splitSign text).2 := by
  unfold splitSign
  split
  · exact (List.mem_cons.mp member).resolve_left notMinus
  · exact (List.mem_cons.mp member).resolve_left notPlus
  · exact member

-- A point makes every row of digits unreadable, whatever its base.
theorem integer?_point {text : List Char} (point : '.' ∈ text) : integer? text = none := by
  have based : ∀ (base : Nat) {a b : Char} {tail : List Char}, '.' ∈ a :: b :: tail → a ≠ '.' → b ≠ '.' →
      ungroup (isDigitOf base) tail = none := by
    intro base a b tail point first second
    have later : '.' ∈ tail := by
      simpa only [List.mem_cons, first.symm, second.symm, false_or] using point
    exact ungroup_none later rfl (by decide)
  simp only [integer?]
  revert point
  split <;> intro point
  · rw [based 16 point (by decide) (by decide)]
    rfl
  · rw [based 8 point (by decide) (by decide)]
    rfl
  · rw [based 2 point (by decide) (by decide)]
    rfl
  · rw [decimalDigits?, ungroup_none (split_sign_mem point (by decide) (by decide)) rfl (by decide)]
    rfl

theorem integer?_digits (n : Nat) (small : n < 2 ^ 32) : integer? (digits n) = some (n : Int) := by
  have all := Decimal.digits_is_digit n
  have present : digits n ≠ [] := Nat.toDigits_ne_nil
  have read : decimalDigits? (digits n) = some (digits n) := by
    refine decimal_digits?_digits present all ?_
    rcases Nat.eq_zero_or_pos n with rfl | positive
    · exact .inl rfl
    · exact .inr (Decimal.digits_unpadded positive)
  have inside : inRange n = true := by
    simp only [inRange, Bool.and_eq_true, decide_eq_true_eq]
    constructor
    · norm_num
    · norm_num
      omega
  cases written : digits n with
  | nil => exact absurd written present
  | cons first rest =>
      rw [written] at all read
      have digit := all first (List.mem_cons_self ..)
      have second : ∀ {c : Char} {tail : List Char}, rest = c :: tail → c.isDigit = true :=
        fun same => all _ (List.mem_cons_of_mem _ (same ▸ List.mem_cons_self ..))
      have value : ofDigits (first :: rest) = n := by rw [← written, Decimal.of_digits_digits]
      simp only [integer?]
      split
      · rename_i same
        exact absurd (second (List.cons.inj same).2) (by decide)
      · rename_i same
        exact absurd (second (List.cons.inj same).2) (by decide)
      · rename_i same
        exact absurd (second (List.cons.inj same).2) (by decide)
      · rw [Decimal.split_sign_digit rest digit]
        simp only [read, Option.map_some, value, Bool.false_eq_true, if_false, Option.filter_some, inside, if_true]

end Integer

section Float

variable {whole fraction : List Char}

theorem digit_not_exponent_mark {c : Char} (digit : c.isDigit = true) : (!isExponentMark c) = true := by
  have small : c ≠ 'e' := Decimal.digit_ne digit rfl
  have large : c ≠ 'E' := Decimal.digit_ne digit rfl
  simp [isExponentMark, small, large]

theorem decimal?_pointed (present : whole ≠ []) (wholeDigits : ∀ c ∈ whole, c.isDigit = true)
    (unpadded : whole = ['0'] ∨ ∀ tail, whole ≠ '0' :: tail) (places : fraction ≠ [])
    (fractionDigits : ∀ c ∈ fraction, c.isDigit = true) :
    decimal? (whole ++ '.' :: fraction) = some ⟨ofDigits (whole ++ fraction), -fraction.length⟩ := by
  have plain : ∀ c ∈ whole ++ '.' :: fraction, (!isExponentMark c) = true := by
    intro c member
    simp only [List.mem_append, List.mem_cons] at member
    rcases member with digit | rfl | digit
    · exact digit_not_exponent_mark (wholeDigits c digit)
    · rfl
    · exact digit_not_exponent_mark (fractionDigits c digit)
  obtain ⟨mantissa, tail⟩ := Decimal.take_while_run [] plain (by simp)
  rw [List.append_nil] at mantissa tail
  have before : ∀ c ∈ whole, decide (c ≠ '.') = true := fun c member =>
    decide_eq_true (Decimal.digit_ne (wholeDigits c member) rfl)
  obtain ⟨front, back⟩ := Decimal.take_while_run ('.' :: fraction) before (by simp)
  rw [decimal?]
  simp only [mantissa, tail, front, back, decimal_digits?_digits present wholeDigits unpadded,
    ungroup_digits places fractionDigits, if_true]
  exact congrArg (fun exponent => some (Decimal.mk (ofDigits (whole ++ fraction)) exponent)) (zero_sub _)

theorem float?_pointed (negative : Bool) (present : whole ≠ []) (wholeDigits : ∀ c ∈ whole, c.isDigit = true)
    (unpadded : whole = ['0'] ∨ ∀ tail, whole ≠ '0' :: tail) (places : fraction ≠ [])
    (fractionDigits : ∀ c ∈ fraction, c.isDigit = true)
    (finite : (⟨ofDigits (whole ++ fraction), -fraction.length⟩ : Decimal).nearest .binary64 ≠ Format.binary64.infinity) :
    float? ((if negative then ['-'] else []) ++ (whole ++ '.' :: fraction)) =
      some (Binary.ofMagnitude64 negative
        ((⟨ofDigits (whole ++ fraction), -fraction.length⟩ : Decimal).nearest .binary64)) := by
  have read := decimal?_pointed present wholeDigits unpadded places fractionDigits
  cases whole with
  | nil => exact absurd rfl present
  | cons first rest =>
      have digit := wholeDigits first (List.mem_cons_self ..)
      have sign : splitSign ((if negative then ['-'] else []) ++ (first :: rest ++ '.' :: fraction)) =
          (negative, first :: rest ++ '.' :: fraction) := by
        cases negative
        · exact Decimal.split_sign_digit _ digit
        · rfl
      have notInfinity : first :: rest ++ '.' :: fraction ≠ ['i', 'n', 'f'] := fun same =>
        Decimal.digit_ne digit rfl (List.cons.inj same).1
      have notNothing : first :: rest ++ '.' :: fraction ≠ ['n', 'a', 'n'] := fun same =>
        Decimal.digit_ne digit rfl (List.cons.inj same).1
      rw [float?, sign]
      simp only [if_neg notInfinity, if_neg notNothing, read, Option.bind_some, if_neg finite]

theorem word?_float {text : List Char} {x : Float} (point : '.' ∈ text) (read : float? text = some x) :
    word? text = some (.float x) := by
  have notTrue : text ≠ ['t', 'r', 'u', 'e'] := by
    rintro rfl
    exact absurd point (by decide)
  have notFalse : text ≠ ['f', 'a', 'l', 's', 'e'] := by
    rintro rfl
    exact absurd point (by decide)
  rw [word?, if_neg notTrue, if_neg notFalse, integer?_point point, read]

end Float

-- A word together with its value: it ends where the first other character stands.
structure IsWord (text : List Char) (value : Datum) : Prop where
  chars : ∀ c ∈ text, isWordChar c = true
  read : word? text = some value

theorem digit_is_word_char {c : Char} (digit : c.isDigit = true) : isWordChar c = true := by
  simp [isWordChar, Char.isAlphanum, digit]

theorem is_word_digits {n : Nat} (small : n < 2 ^ 32) : IsWord (digits n) (.integer n) where
  chars := fun c member => digit_is_word_char (Decimal.digits_is_digit n c member)
  read := by
    have plain : ∀ {letter : Char} {tail : List Char}, letter.isDigit = false → digits n ≠ letter :: tail := by
      intro letter tail other same
      exact Decimal.digit_ne (Decimal.digits_is_digit n letter (same ▸ List.mem_cons_self ..)) other rfl
    rw [word?, if_neg (plain rfl), if_neg (plain rfl), integer?_digits n small]

def settled (x : Float32) : Float32 :=
  Binary.ofMagnitude32 (Binary.isNegative32 x) (Decimal.reread (Binary.magnitude32 x))

theorem is_word_infinity (negative : Bool) :
    IsWord (if negative then "-inf" else "inf").toList
      (.float (Binary.ofMagnitude64 negative Format.binary64.infinity)) := by
  cases negative <;> exact ⟨List.all_eq_true.mp rfl, rfl⟩

theorem is_word_zero (negative : Bool) :
    IsWord (if negative then "-" ++ "0.0" else "0.0").toList (.float (Binary.ofMagnitude64 negative 0)) := by
  cases negative <;> exact ⟨List.all_eq_true.mp rfl, rfl⟩

theorem is_word_pointed (negative : Bool) {decimal : Decimal} (positive : 0 < decimal.coefficient)
    (finite : decimal.nearest .binary64 < Format.binary64.infinity) :
    IsWord (if negative then "-" ++ decimal.pointed else decimal.pointed).toList
      (.float (Binary.ofMagnitude64 negative (decimal.nearest .binary64))) := by
  obtain ⟨whole, fraction, text, pointed⟩ := decimal.pointed_chars
  have chars : (if negative then "-" ++ decimal.pointed else decimal.pointed).toList =
      (if negative then ['-'] else []) ++ (whole ++ '.' :: fraction) := by
    cases negative
    · exact text
    · rw [if_pos rfl, String.toList_append, text]
      rfl
  have same := Decimal.nearest_congr .binary64 pointed.value
  rw [chars, ← same]
  refine ⟨fun c member => ?_, word?_float (by simp) (float?_pointed negative pointed.present pointed.wholeDigits
    (pointed.unpadded positive) pointed.places pointed.fractionDigits ?_)⟩
  · simp only [List.mem_append, List.mem_cons] at member
    rcases member with sign | digit | rfl | digit
    · cases negative <;> simp at sign
      rw [sign]
      rfl
    · exact digit_is_word_char (pointed.wholeDigits c digit)
    · rfl
    · exact digit_is_word_char (pointed.fractionDigits c digit)
  · rw [same]
    exact finite.ne

theorem is_word_number {x : Float32} (number : Binary.magnitude32 x ≤ Format.binary32.infinity) :
    ∃ y, IsWord (Toml.number x).toList (.float y) ∧ Binary.narrow y = settled x := by
  simp only [Toml.number, Decimal.Style.write32, Decimal.Style.write, numberStyle, settled, if_neg (Nat.not_lt.mpr number)]
  generalize Binary.isNegative32 x = negative
  generalize Binary.magnitude32 x = pattern at number
  by_cases infinite : pattern = Format.binary32.infinity
  · rw [if_pos infinite, infinite]
    exact ⟨_, is_word_infinity negative, Binary.narrow_infinity negative⟩
  · rw [if_neg infinite]
    by_cases zero : pattern = 0
    · rw [if_pos zero, zero]
      exact ⟨_, is_word_zero negative, Binary.narrow_of_magnitude64 negative (by decide)⟩
    · rw [if_neg zero]
      have some := Nat.pos_of_ne_zero zero
      have finite : pattern < Format.binary32.infinity := by omega
      have again := Decimal.reread_shortest .up some finite
      have rounded := Decimal.shortest_single .up finite
      obtain ⟨lower, rfl⟩ := Nat.exists_eq_add_of_lt some
      have bounded := (Decimal.double_finite finite rounded).2
      refine ⟨_, is_word_pointed negative (Decimal.coefficient_pos rounded) bounded, ?_⟩
      rw [Binary.narrow_of_magnitude64 negative bounded, again]

theorem is_word_ne_nil {text : List Char} {value : Datum} (word : IsWord text value) : text ≠ [] := by
  rintro rfl
  cases word.read

theorem read_word?_word {text rest : List Char} {value : Datum} (word : IsWord text value)
    (ends : ∀ c ∈ rest.head?, isWordChar c = false ∧ c ≠ ' ') : readWord? (text ++ rest) = some (value, rest) := by
  obtain ⟨first, tail⟩ := Decimal.take_while_run rest word.chars fun c member => (ends c member).1
  simp only [readWord?, first, tail]
  split
  · rename_i digit more day blank
    exact absurd rfl (ends ' ' rfl).2
  · simp only [Option.getD_none, word.read, Option.map_some]

theorem read_value?_word (fuel depth : Nat) {text rest : List Char} {value : Datum} (word : IsWord text value)
    (ends : ∀ c ∈ rest.head?, isWordChar c = false ∧ c ≠ ' ') :
    readValue? (fuel + 1) depth (text ++ rest) = some (value, rest) := by
  have read := read_word?_word word ends
  cases text with
  | nil => exact absurd rfl (is_word_ne_nil word)
  | cons c tail =>
      have inside := word.chars c (List.mem_cons_self ..)
      rw [List.cons_append] at read ⊢
      rw [readValue?]
      · exact read
      all_goals
        intro more same
        rw [(List.cons.inj same).1] at inside
        cases inside

end EscapeTime.Toml
