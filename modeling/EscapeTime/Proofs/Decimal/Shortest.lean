import EscapeTime.Decimal.Shortest
import EscapeTime.Proofs.Binary.Nearest

set_option autoImplicit false

namespace EscapeTime.Decimal

def value (decimal : Decimal) : ℚ :=
  decimal.coefficient * 10 ^ decimal.exponent

theorem value_ratio (decimal : Decimal) : decimal.ratio.value = decimal.value := by
  rw [ratio, Ratio.value_scale (by decide), Ratio.value, Nat.cast_one, div_one, Nat.cast_ofNat, value]

theorem ratio_den_pos (decimal : Decimal) : 0 < decimal.ratio.den :=
  Ratio.scale_den_pos (by decide) Nat.one_pos _

theorem value_eq_zero_iff (decimal : Decimal) : decimal.value = 0 ↔ decimal.coefficient = 0 := by
  have unit : (10 : ℚ) ^ decimal.exponent ≠ 0 := by positivity
  rw [value, mul_eq_zero, or_iff_left unit, Nat.cast_eq_zero]

-- The place of the first digit, which decides whether a decimal is within reach, is a logarithm.
theorem point_eq {decimal : Decimal} (positive : 0 < decimal.coefficient) :
    ((digits decimal.coefficient).length : Int) + decimal.exponent = Int.log 10 decimal.value + 1 := by
  obtain ⟨length, present⟩ := Nat.exists_eq_succ_of_ne_zero
    (Nat.length_toDigits_pos (b := 10) (n := decimal.coefficient)).ne'
  have high : decimal.coefficient < 10 ^ (length + 1) :=
    (Nat.length_toDigits_le_iff (by decide) (by omega)).mp present.le
  have low : 10 ^ length ≤ decimal.coefficient := by
    cases length with
    | zero => exact positive
    | succ length =>
        apply Nat.le_of_not_lt
        intro less
        have short := (Nat.length_toDigits_le_iff (by decide) (by omega)).mpr less
        omega
  have log : Int.log 10 decimal.value = length + decimal.exponent := by
    apply log_eq (by decide)
    · rw [value, Nat.cast_ofNat, zpow_add₀ (by norm_num), zpow_natCast]
      gcongr
      exact_mod_cast low
    · rw [value, Nat.cast_ofNat, add_right_comm, zpow_add₀ (by norm_num)]
      gcongr
      exact_mod_cast high
  rw [log, digits, present]
  push_cast
  ring

theorem nearest_congr (format : Format) {first second : Decimal} (same : first.value = second.value) :
    first.nearest format = second.nearest format := by
  have empty : first.coefficient = 0 ↔ second.coefficient = 0 := by
    rw [← value_eq_zero_iff, ← value_eq_zero_iff, same]
  have rounded : format.nearest first.ratio = format.nearest second.ratio :=
    format.nearest_congr (by rw [value_ratio, value_ratio, same]) first.ratio_den_pos second.ratio_den_pos
  by_cases zero : first.coefficient = 0
  · simp only [nearest, if_pos zero, if_pos (empty.mp zero)]
  · have otherZero := mt empty.mpr zero
    simp only [nearest, if_neg zero, if_neg otherZero, point_eq (Nat.pos_of_ne_zero zero),
      point_eq (Nat.pos_of_ne_zero otherZero), same, rounded]

theorem value_exact (format : Format) (pattern : Nat) :
    (exact format pattern).value = (format.ratio pattern).value := by
  rw [format.value_ratio, exact]
  split
  · rename_i up
    obtain ⟨count, power⟩ := Int.eq_ofNat_of_zero_le up
    rw [value, power, Int.toNat_natCast, Nat.pow_eq, zpow_zero, mul_one, zpow_natCast]
    push_cast
    rfl
  · rename_i down
    obtain ⟨count, power⟩ : ∃ count : Nat, format.exponent pattern = -count :=
      ⟨(-format.exponent pattern).toNat, by omega⟩
    have ten : (10 : ℚ) ^ count = 5 ^ count * 2 ^ count := by rw [← mul_pow]; norm_num
    rw [value, power, neg_neg, Int.toNat_natCast, Nat.pow_eq, zpow_neg, zpow_neg, zpow_natCast, zpow_natCast, ten]
    push_cast
    field_simp

theorem reach_wide : (2 : ℚ) ^ (3 * reach) ≤ 10 ^ reach := by
  rw [zpow_mul]
  exact zpow_le_zpow_left₀ (by decide) (by norm_num) (by norm_num)

theorem with_places?_nearest {format : Format} {tie : Tie} {pattern places : Nat} {decimal : Decimal}
    (found : withPlaces? format tie pattern places = some decimal) : decimal.nearest format = pattern := by
  simp only [withPlaces?] at found
  split at found
  · rename_i fits
    obtain rfl := Option.some.inj found
    exact fits.1
  · split at found
    · rename_i fits
      obtain rfl := Option.some.inj found
      exact fits
    · cases found

theorem shortest_cases (format : Format) (tie : Tie) (pattern : Nat) :
    shortest format tie pattern = exact format pattern ∨
      ∃ places, withPlaces? format tie pattern places = some (shortest format tie pattern) := by
  rw [shortest]
  cases search : (List.range mostPlaces).findSome? fun places => withPlaces? format tie pattern (places + 1) with
  | none => exact .inl rfl
  | some decimal =>
      obtain ⟨places, -, found⟩ := List.exists_of_findSome?_eq_some search
      exact .inr ⟨places + 1, found⟩

theorem shortest_nearest {format : Format} {tie : Tie} {pattern : Nat}
    (fallback : (exact format pattern).nearest format = pattern) :
    (shortest format tie pattern).nearest format = pattern := by
  rcases shortest_cases format tie pattern with whole | ⟨places, found⟩
  · rw [whole, fallback]
  · exact with_places?_nearest found

end EscapeTime.Decimal
