import EscapeTime.Binary
import Mathlib.Data.Int.Log
import Mathlib.Data.Rat.Floor
import Mathlib.Tactic

set_option autoImplicit false

namespace EscapeTime

theorem log_eq {base : Nat} (large : 1 < base) {number : ℚ} {power : Int} (low : (base : ℚ) ^ power ≤ number)
    (high : number < (base : ℚ) ^ (power + 1)) : Int.log base number = power := by
  have positive : 0 < number := lt_of_lt_of_le (by positivity) low
  have least : power ≤ Int.log base number := (Int.zpow_le_iff_le_log large positive).mp low
  have most : Int.log base number < power + 1 := (Int.lt_zpow_iff_log_lt large positive).mp high
  omega

namespace Ratio

def value (ratio : Ratio) : ℚ :=
  ratio.num / ratio.den

theorem value_scale {base : Nat} (positive : 0 < base) (ratio : Ratio) (power : Int) :
    (ratio.scale base power).value = ratio.value * (base : ℚ) ^ power := by
  have nonzero : (base : ℚ) ≠ 0 := by exact_mod_cast positive.ne'
  unfold scale value
  split
  · rename_i up
    obtain ⟨count, rfl⟩ := Int.eq_ofNat_of_zero_le up
    simp only [Int.toNat_natCast, Nat.pow_eq, zpow_natCast]
    push_cast
    ring
  · rename_i down
    obtain ⟨count, rfl⟩ : ∃ count : Nat, power = -count := ⟨(-power).toNat, by omega⟩
    simp only [neg_neg, Int.toNat_natCast, Nat.pow_eq, zpow_neg, zpow_natCast]
    push_cast
    rw [div_mul_eq_div_div, div_eq_mul_inv]

theorem scale_den_pos {base : Nat} (positive : 0 < base) {ratio : Ratio} (proper : 0 < ratio.den)
    (power : Int) : 0 < (ratio.scale base power).den := by
  unfold scale
  split
  · exact proper
  · exact Nat.mul_pos proper (Nat.pow_pos positive)

theorem value_eq_zero_iff {ratio : Ratio} (proper : 0 < ratio.den) : ratio.value = 0 ↔ ratio.num = 0 := by
  have bottom : (ratio.den : ℚ) ≠ 0 := by exact_mod_cast proper.ne'
  rw [value, div_eq_zero_iff, or_iff_left bottom, Nat.cast_eq_zero]

theorem is_large_iff {ratio : Ratio} (proper : 0 < ratio.den) : ratio.isLarge = true ↔ 1 ≤ ratio.value := by
  have bottom : (0 : ℚ) < ratio.den := by exact_mod_cast proper
  rw [isLarge, decide_eq_true_eq, value, one_le_div bottom, Nat.cast_le]

theorem scale_is_large_iff {ratio : Ratio} (proper : 0 < ratio.den) (power : Int) :
    (ratio.scale 2 (-power)).isLarge = true ↔ (2 : ℚ) ^ power ≤ ratio.value := by
  have unit : (0 : ℚ) < 2 ^ power := by positivity
  rw [is_large_iff (scale_den_pos (by decide) proper _), value_scale (by decide), Nat.cast_ofNat, zpow_neg,
    ← div_eq_mul_inv, one_le_div unit]

-- The guess is at most one too large, since each part is known up to a factor of two.
theorem log2_eq {ratio : Ratio} (positive : 0 < ratio.num) (proper : 0 < ratio.den) :
    ratio.log2 = Int.log 2 ratio.value := by
  have bottom : (0 : ℚ) < ratio.den := by exact_mod_cast proper
  have below : (2 : ℚ) ^ ((ratio.num.log2 : Int) - ratio.den.log2 - 1) ≤ ratio.value := by
    rw [value, le_div_iff₀ bottom]
    calc (2 : ℚ) ^ ((ratio.num.log2 : Int) - ratio.den.log2 - 1) * ratio.den
        ≤ 2 ^ ((ratio.num.log2 : Int) - ratio.den.log2 - 1) * 2 ^ ((ratio.den.log2 : Int) + 1) := by
          gcongr
          exact_mod_cast Nat.lt_log2_self.le
      _ = 2 ^ (ratio.num.log2 : Int) := by
          rw [← zpow_add₀ two_ne_zero]
          congr 1
          omega
      _ ≤ ratio.num := by exact_mod_cast Nat.log2_self_le positive.ne'
  have above : ratio.value < (2 : ℚ) ^ ((ratio.num.log2 : Int) - ratio.den.log2 + 1) := by
    rw [value, div_lt_iff₀ bottom]
    calc (ratio.num : ℚ)
        < 2 ^ ((ratio.num.log2 : Int) + 1) := by exact_mod_cast Nat.lt_log2_self
      _ = 2 ^ ((ratio.num.log2 : Int) - ratio.den.log2 + 1) * 2 ^ (ratio.den.log2 : Int) := by
          rw [← zpow_add₀ two_ne_zero]
          congr 1
          omega
      _ ≤ 2 ^ ((ratio.num.log2 : Int) - ratio.den.log2 + 1) * ratio.den := by
          gcongr
          exact_mod_cast Nat.log2_self_le proper.ne'
  rw [log2]
  by_cases large : (2 : ℚ) ^ ((ratio.num.log2 : Int) - ratio.den.log2) ≤ ratio.value
  · rw [if_pos ((scale_is_large_iff proper _).mpr large), log_eq one_lt_two large above]
  · rw [if_neg (mt (scale_is_large_iff proper _).mp large), log_eq one_lt_two below]
    rw [sub_add_cancel]
    exact lt_of_not_ge large

end Ratio

theorem div_nearest_scale {factor : Nat} (positive : 0 < factor) (num den : Nat) :
    divNearest (factor * num) (factor * den) = divNearest num den := by
  have less : 2 * (factor * (num % den)) < factor * den ↔ 2 * (num % den) < den := by
    rw [Nat.mul_left_comm, Nat.mul_lt_mul_left positive]
  have more : factor * den < 2 * (factor * (num % den)) ↔ den < 2 * (num % den) := by
    rw [Nat.mul_left_comm, Nat.mul_lt_mul_left positive]
  simp only [divNearest, Nat.mul_mod_mul_left, Nat.mul_div_mul_left _ _ positive, less, more]

theorem div_nearest_congr {first second : Ratio} (same : first.value = second.value) (proper : 0 < first.den)
    (otherProper : 0 < second.den) : divNearest first.num first.den = divNearest second.num second.den := by
  have crossed : first.num * second.den = second.num * first.den := by
    have bottom : (first.den : ℚ) ≠ 0 := by exact_mod_cast proper.ne'
    have otherBottom : (second.den : ℚ) ≠ 0 := by exact_mod_cast otherProper.ne'
    rw [Ratio.value, Ratio.value, div_eq_div_iff bottom otherBottom] at same
    exact_mod_cast same
  calc divNearest first.num first.den
      = divNearest (second.den * first.num) (second.den * first.den) := (div_nearest_scale otherProper _ _).symm
    _ = divNearest (first.den * second.num) (first.den * second.den) := by
        rw [Nat.mul_comm second.den first.num, crossed, Nat.mul_comm second.num, Nat.mul_comm second.den]
    _ = divNearest second.num second.den := div_nearest_scale proper _ _

theorem div_nearest_one (num : Nat) : divNearest num 1 = num := by
  rw [divNearest, Nat.mod_one, Nat.div_one, if_pos (by decide)]

namespace Format

variable (format : Format)

theorem nearest_congr {first second : Ratio} (same : first.value = second.value) (proper : 0 < first.den)
    (otherProper : 0 < second.den) : format.nearest first = format.nearest second := by
  by_cases empty : first.num = 0
  · have otherEmpty : second.num = 0 := (Ratio.value_eq_zero_iff otherProper).mp
      (same ▸ (Ratio.value_eq_zero_iff proper).mpr empty)
    rw [nearest, nearest, if_pos empty, if_pos otherEmpty]
  · have otherFilled : second.num ≠ 0 := fun zero => empty ((Ratio.value_eq_zero_iff proper).mp
      (same ▸ (Ratio.value_eq_zero_iff otherProper).mpr zero))
    have log : first.log2 = second.log2 := by
      rw [Ratio.log2_eq (by omega) proper, Ratio.log2_eq (by omega) otherProper, same]
    have scaled : ∀ power, (first.scale 2 power).value = (second.scale 2 power).value := by
      intro power
      rw [Ratio.value_scale (by decide), Ratio.value_scale (by decide), same]
    simp only [nearest, if_neg empty, if_neg otherFilled, log]
    rw [div_nearest_congr (scaled _) (Ratio.scale_den_pos (by decide) proper _)
      (Ratio.scale_den_pos (by decide) otherProper _)]

theorem binade_pos : 0 < format.binade :=
  Nat.pow_pos (by decide)

theorem significand_pos {pattern : Nat} (positive : 0 < pattern) : 0 < format.significand pattern := by
  have unit := format.binade_pos
  rw [significand]
  split <;> omega

theorem significand_lt (pattern : Nat) : format.significand pattern < 2 * format.binade := by
  have remainder := Nat.mod_lt pattern format.binade_pos
  rw [significand]
  split <;> omega

theorem min_exponent_le (pattern : Nat) : format.minExponent ≤ format.exponent pattern := by
  rw [exponent]
  split <;> omega

theorem value_ratio (pattern : Nat) :
    (format.ratio pattern).value = format.significand pattern * 2 ^ format.exponent pattern := by
  rw [ratio, Ratio.value_scale (by decide), Ratio.value, Nat.cast_one, div_one, Nat.cast_ofNat]

theorem ratio_den_pos (pattern : Nat) : 0 < (format.ratio pattern).den :=
  Ratio.scale_den_pos (by decide) Nat.one_pos _

theorem ratio_num_eq_zero_iff (pattern : Nat) : (format.ratio pattern).num = 0 ↔ pattern = 0 := by
  have unit : (2 : ℚ) ^ format.exponent pattern ≠ 0 := by positivity
  rw [← Ratio.value_eq_zero_iff (format.ratio_den_pos pattern), value_ratio, mul_eq_zero, or_iff_left unit,
    Nat.cast_eq_zero]
  constructor
  · intro empty
    by_contra filled
    exact (format.significand_pos (Nat.pos_of_ne_zero filled)).ne' empty
  · rintro rfl
    exact if_pos format.binade_pos

-- Small patterns share the least exponent; above them the significand has all its bits.
theorem exponent_eq {pattern : Nat} (positive : 0 < pattern) :
    max format.minExponent (Int.log 2 (format.ratio pattern).value - ((format.precision - 1 : Nat) : Int)) =
      format.exponent pattern := by
  have binade : (format.binade : ℚ) = 2 ^ ((format.precision - 1 : Nat) : Int) := by
    rw [Format.binade, Nat.pow_eq, zpow_natCast]
    push_cast
    rfl
  rw [value_ratio]
  by_cases small : pattern < format.binade
  · have bound : (pattern : ℚ) < 2 ^ ((format.precision - 1 : Nat) : Int) := by
      rw [← binade]
      exact_mod_cast small
    rw [significand, exponent, if_pos small, if_pos small]
    have less : Int.log 2 ((pattern : ℚ) * 2 ^ format.minExponent) <
        ((format.precision - 1 : Nat) : Int) + format.minExponent := by
      apply (Int.lt_zpow_iff_log_lt one_lt_two (by positivity)).mp
      rw [Nat.cast_ofNat, zpow_add₀ two_ne_zero]
      gcongr
    omega
  · have low : (2 : ℚ) ^ ((format.precision - 1 : Nat) : Int) ≤ format.significand pattern := by
      rw [← binade, significand, if_neg small]
      exact_mod_cast Nat.le_add_left _ _
    have high : (format.significand pattern : ℚ) < 2 * 2 ^ ((format.precision - 1 : Nat) : Int) := by
      rw [← binade]
      exact_mod_cast format.significand_lt pattern
    have log : Int.log 2 ((format.significand pattern : ℚ) * 2 ^ format.exponent pattern) =
        ((format.precision - 1 : Nat) : Int) + format.exponent pattern := by
      apply log_eq one_lt_two
      · rw [Nat.cast_ofNat, zpow_add₀ two_ne_zero]
        gcongr
      · rw [Nat.cast_ofNat, add_right_comm, zpow_add₀ two_ne_zero, zpow_add₀ two_ne_zero, zpow_one, mul_comm _ (2 : ℚ)]
        gcongr
    rw [log, exponent, if_neg small]
    omega

theorem place_eq (pattern : Nat) :
    (format.exponent pattern - format.minExponent).toNat * format.binade + format.significand pattern =
      pattern := by
  rw [exponent, significand]
  split
  · simp
  · rename_i large
    have whole := Nat.div_add_mod pattern format.binade
    have some : 1 ≤ pattern / format.binade := (Nat.one_le_div_iff format.binade_pos).mpr (by omega)
    obtain ⟨quotient, split⟩ := Nat.exists_eq_add_of_le some
    rw [split] at whole ⊢
    rw [add_sub_cancel_left, Int.toNat_natCast, Nat.add_sub_cancel_left]
    linarith

theorem nearest_ratio {pattern : Nat} (finite : pattern < format.infinity) :
    format.nearest (format.ratio pattern) = pattern := by
  by_cases zero : pattern = 0
  · rw [nearest, if_pos ((format.ratio_num_eq_zero_iff pattern).mpr zero), zero]
  · have filled := mt (format.ratio_num_eq_zero_iff pattern).mp zero
    have scaled : ((format.ratio pattern).scale 2 (-format.exponent pattern)).value =
        (Ratio.mk (format.significand pattern) 1).value := by
      rw [Ratio.value_scale (by decide), value_ratio, Ratio.value, Nat.cast_one, div_one, Nat.cast_ofNat, mul_assoc,
        ← zpow_add₀ two_ne_zero, add_neg_cancel, zpow_zero, mul_one]
    have rounded := div_nearest_congr scaled
      (Ratio.scale_den_pos (by decide) (format.ratio_den_pos pattern) _) Nat.one_pos
    simp only [nearest, if_neg filled, Ratio.log2_eq (Nat.pos_of_ne_zero filled) (format.ratio_den_pos pattern),
      format.exponent_eq (Nat.pos_of_ne_zero zero), rounded, div_nearest_one, format.place_eq]
    omega

end Format

end EscapeTime
