import EscapeTime.Proofs.Decimal.Reading
import EscapeTime.Proofs.Decimal.Shortest

set_option autoImplicit false

namespace EscapeTime.Decimal

theorem digits_is_digit (n : Nat) : ∀ c ∈ digits n, c.isDigit = true :=
  fun _ member => Nat.isDigit_of_mem_toDigits (by decide) (by decide) member

theorem of_digits_digits (n : Nat) : ofDigits (digits n) = n :=
  Nat.ofDigitChars_ten_toDigits

theorem of_digits_padded (digits : List Char) (before after : Nat) :
    ofDigits (List.replicate before '0' ++ digits ++ List.replicate after '0') = ofDigits digits * 10 ^ after := by
  have same : ∀ text, ofDigits text = Nat.ofDigitChars 10 text 0 := fun _ => rfl
  rw [same, same, Nat.ofDigitChars_append, Nat.ofDigitChars_append, Nat.ofDigitChars_replicate_zero,
    Nat.ofDigitChars_replicate_zero, Nat.mul_zero, Nat.mul_comm]

theorem zeros_is_digit (count : Nat) : ∀ c ∈ List.replicate count '0', c.isDigit = true := by
  intro c member
  rw [List.eq_of_mem_replicate member]
  rfl

structure Pointed (decimal : Decimal) (whole fraction : List Char) : Prop where
  present : whole ≠ []
  wholeDigits : ∀ c ∈ whole, c.isDigit = true
  places : fraction ≠ []
  fractionDigits : ∀ c ∈ fraction, c.isDigit = true
  unpadded : 0 < decimal.coefficient → whole = ['0'] ∨ ∀ tail, whole ≠ '0' :: tail
  value : value ⟨ofDigits (whole ++ fraction), -fraction.length⟩ = decimal.value

theorem digits_unpadded {n : Nat} (positive : 0 < n) (tail : List Char) : digits n ≠ '0' :: tail := by
  intro zero
  induction n using Nat.strongRecOn generalizing tail with
  | ind n ih =>
      rw [digits] at zero
      by_cases small : n < 10
      · rw [Nat.toDigits_of_lt_base small] at zero
        have visible : ∀ digit < 10, 0 < digit → Nat.digitChar digit ≠ '0' := by decide
        exact visible n small positive (List.cons.inj zero).1
      · rw [Nat.toDigits_of_base_le (by decide) (Nat.le_of_not_lt small)] at zero
        cases front : Nat.toDigits 10 (n / 10) with
        | nil => exact Nat.toDigits_ne_nil front
        | cons first rest =>
            rw [front, List.cons_append] at zero
            rw [(List.cons.inj zero).1] at front
            exact ih (n / 10) (by omega) (by omega) rest front

theorem pointed_up {decimal : Decimal} (up : 0 ≤ decimal.exponent) :
    ∃ whole fraction, decimal.pointed.toList = whole ++ '.' :: fraction ∧ Pointed decimal whole fraction := by
  refine ⟨digits decimal.coefficient ++ List.replicate decimal.exponent.toNat '0', ['0'], ?_, ?_, ?_, ?_, ?_, ?_, ?_⟩
  · rw [pointed, if_pos up, positional, if_pos up, String.toList_append, String.toList_ofList]
    rfl
  · exact List.append_ne_nil_of_left_ne_nil Nat.toDigits_ne_nil _
  · intro c member
    rcases List.mem_append.mp member with digit | zero
    · exact digits_is_digit _ c digit
    · exact zeros_is_digit _ c zero
  · exact List.cons_ne_nil _ _
  · exact zeros_is_digit 1
  · intro positive
    right
    intro tail same
    cases written : digits decimal.coefficient with
    | nil => exact Nat.toDigits_ne_nil written
    | cons first rest =>
        rw [written, List.cons_append] at same
        rw [(List.cons.inj same).1] at written
        exact digits_unpadded positive rest written
  · obtain ⟨count, power⟩ := Int.eq_ofNat_of_zero_le up
    have text : digits decimal.coefficient ++ List.replicate decimal.exponent.toNat '0' ++ ['0'] =
        List.replicate 0 '0' ++ digits decimal.coefficient ++ List.replicate (count + 1) '0' := by
      rw [power, Int.toNat_natCast, List.replicate_succ', List.append_assoc]
      rfl
    rw [text, of_digits_padded, of_digits_digits, value, value, power, List.length_singleton, zpow_natCast,
      Nat.cast_one, zpow_neg_one]
    push_cast
    ring

theorem pointed_down {decimal : Decimal} (down : ¬ 0 ≤ decimal.exponent) :
    ∃ whole fraction, decimal.pointed.toList = whole ++ '.' :: fraction ∧ Pointed decimal whole fraction := by
  let places := (-decimal.exponent).toNat
  let padded := List.replicate (places + 1 - (digits decimal.coefficient).length) '0' ++ digits decimal.coefficient
  have long : places < padded.length := by
    simp only [padded, List.length_append, List.length_replicate]
    omega
  have all : ∀ c ∈ padded, c.isDigit = true := by
    intro c member
    rcases List.mem_append.mp member with zero | digit
    · exact zeros_is_digit _ c zero
    · exact digits_is_digit _ c digit
  refine ⟨padded.take (padded.length - places), padded.drop (padded.length - places), ?_, ?_, ?_, ?_, ?_, ?_, ?_⟩
  · rw [pointed, if_neg down, positional, if_neg down, String.toList_ofList]
  · intro empty
    have length := congrArg List.length empty
    rw [List.length_take, List.length_nil] at length
    omega
  · exact fun c member => all c (List.mem_of_mem_take member)
  · intro empty
    have length := congrArg List.length empty
    rw [List.length_drop, List.length_nil] at length
    simp only [places] at long length
    omega
  · exact fun c member => all c (List.mem_of_mem_drop member)
  · intro positive
    by_cases short : (digits decimal.coefficient).length ≤ places
    · left
      have one : padded.length - places = 1 := by
        simp only [padded, List.length_append, List.length_replicate]
        omega
      obtain ⟨more, count⟩ := Nat.exists_eq_add_of_lt (Nat.sub_pos_of_lt (Nat.lt_succ_of_le short))
      rw [one]
      simp only [padded, count, Nat.zero_add, List.replicate_succ, List.cons_append, List.take_succ_cons, List.take_zero]
    · right
      intro tail same
      have bare : padded = digits decimal.coefficient := by
        simp only [padded]
        rw [Nat.sub_eq_zero_of_le (by omega), List.replicate_zero, List.nil_append]
      cases written : digits decimal.coefficient with
      | nil => exact Nat.toDigits_ne_nil written
      | cons first rest =>
          rw [bare, written, List.take_cons (by simp only [← written]; omega)] at same
          rw [(List.cons.inj same).1] at written
          exact digits_unpadded positive rest written
  · have written : ofDigits padded = decimal.coefficient := by
      have bare := of_digits_padded (digits decimal.coefficient) (places + 1 - (digits decimal.coefficient).length) 0
      rwa [List.replicate_zero, List.append_nil, pow_zero, Nat.mul_one, of_digits_digits] at bare
    have exponent : -((padded.length - (padded.length - places) : Nat) : Int) = decimal.exponent := by
      simp only [places] at long ⊢
      omega
    rw [List.take_append_drop, written, List.length_drop, exponent]

theorem pointed_chars (decimal : Decimal) :
    ∃ whole fraction, decimal.pointed.toList = whole ++ '.' :: fraction ∧ Pointed decimal whole fraction := by
  by_cases up : 0 ≤ decimal.exponent
  · exact pointed_up up
  · exact pointed_down up

theorem read_float?_pointed (decimal : Decimal) :
    readFloat? decimal.pointed = some (Binary.ofMagnitude64 false (decimal.nearest .binary64)) := by
  obtain ⟨whole, fraction, text, pointed⟩ := decimal.pointed_chars
  have read := of_chars?_pointed pointed.present pointed.wholeDigits pointed.fractionDigits
  rw [← String.ofList_toList (s := decimal.pointed), text]
  cases whole with
  | nil => exact absurd rfl pointed.present
  | cons first rest =>
      have digit := pointed.wholeDigits first (List.mem_cons_self ..)
      rw [List.cons_append] at read ⊢
      rw [read_float?_digit _ digit, read, Option.map_some, nearest_congr .binary64 pointed.value]

end EscapeTime.Decimal
