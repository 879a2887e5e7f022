import EscapeTime.Proofs.Binary.Position
import EscapeTime.Proofs.Decimal.Shortest

set_option autoImplicit false

namespace EscapeTime

open Decimal

-- What the bounds of the decimal reader ask of a format: its positive numbers lie between them.
structure Format.WithinReach (format : Format) : Prop where
  even : format.binade % 2 = 0
  some : 0 < format.infinity
  low : (10 : ℚ) ^ (-reach) ≤ 2 ^ format.minExponent
  high : format.magnitude format.infinity ≤ 10 ^ reach

theorem Format.binary64_within_reach : Format.binary64.WithinReach where
  even := by decide
  some := by decide
  low := by
    calc (10 : ℚ) ^ (-reach) ≤ 2 ^ (-(3 * reach)) := by
          rw [zpow_neg, zpow_neg]
          gcongr
          exact reach_wide
      _ ≤ 2 ^ Format.binary64.minExponent := zpow_le_zpow_right₀ one_le_two (by decide)
  high := by
    rw [binary64_magnitude_infinity]
    exact (zpow_le_zpow_right₀ one_le_two (by decide)).trans reach_wide

theorem Format.binary32_within_reach : Format.binary32.WithinReach where
  even := by decide
  some := by decide
  low := Format.binary64_within_reach.low.trans (zpow_le_zpow_right₀ one_le_two (by decide))
  high := by
    rw [binary32_magnitude_infinity]
    exact (zpow_le_zpow_right₀ one_le_two (by decide)).trans reach_wide

namespace Decimal

variable {format : Format}

theorem value_pos {decimal : Decimal} (positive : 0 < decimal.coefficient) : 0 < decimal.value := by
  have some : (0 : ℚ) < decimal.coefficient := by exact_mod_cast positive
  rw [value]
  positivity

theorem ratio_num_pos {decimal : Decimal} (positive : 0 < decimal.coefficient) : 0 < decimal.ratio.num := by
  apply Nat.pos_of_ne_zero
  intro empty
  have zero := (Ratio.value_eq_zero_iff decimal.ratio_den_pos).mpr empty
  rw [value_ratio, value_eq_zero_iff] at zero
  omega

theorem nearest_tiny (within : format.WithinReach) {decimal : Decimal} (positive : 0 < decimal.coefficient)
    (tiny : decimal.value < 10 ^ (-reach - 1)) : format.nearest decimal.ratio = 0 := by
  have value := value_pos positive
  have unit : (0 : ℚ) < 2 ^ format.minExponent := by positivity
  have half : decimal.value < 1 / 2 * 2 ^ format.minExponent := by
    calc decimal.value < 10 ^ (-reach - 1) := tiny
      _ = 1 / 10 * 10 ^ (-reach) := by rw [zpow_sub_one₀ (by norm_num), one_div, mul_comm]
      _ ≤ 1 / 2 * 2 ^ format.minExponent := by
          have low := within.low
          have some : (0 : ℚ) < 10 ^ (-reach) := by positivity
          linarith
  have grade : format.grade decimal.value = format.minExponent := by
    have log : Int.log 2 decimal.value < format.minExponent := by
      apply (Int.lt_zpow_iff_log_lt one_lt_two value).mp
      rw [Nat.cast_ofNat]
      linarith
    rw [Format.grade]
    omega
  have place : format.position decimal.value < 1 / 2 := by
    rw [Format.position, grade, sub_self, Int.toNat_zero, Nat.zero_mul, Nat.cast_zero, zero_add, div_lt_iff₀ unit]
    exact half
  have above := format.position_pos value
  have rounds : Rounds (format.position decimal.ratio.value) 0 := by
    rw [value_ratio]
    exact ⟨by push_cast; linarith, by push_cast; linarith, fun _ => rfl⟩
  rw [format.nearest_of_rounds (ratio_num_pos positive) decimal.ratio_den_pos within.even rounds, Nat.min_zero]

theorem nearest_huge (within : format.WithinReach) {decimal : Decimal} (positive : 0 < decimal.coefficient)
    (huge : 10 ^ reach ≤ decimal.value) : format.nearest decimal.ratio = format.infinity := by
  obtain ⟨n, rounds, eq⟩ :=
    format.nearest_rounds (ratio_num_pos positive) decimal.ratio_den_pos within.even
  have place : (format.infinity : ℚ) ≤ format.position decimal.ratio.value := by
    rw [← format.position_magnitude within.some, value_ratio,
      format.position_le_iff (format.magnitude_pos within.some) (value_pos positive)]
    exact within.high.trans huge
  have large := (Rounds.self format.infinity).mono rounds place
  omega

theorem nearest_eq_format (within : format.WithinReach) (decimal : Decimal) :
    decimal.nearest format = format.nearest decimal.ratio := by
  by_cases zero : decimal.coefficient = 0
  · have empty : decimal.ratio.num = 0 :=
      (Ratio.value_eq_zero_iff decimal.ratio_den_pos).mp
        ((value_ratio decimal).trans (decimal.value_eq_zero_iff.mpr zero))
    rw [nearest, if_pos zero, Format.nearest, if_pos empty]
  · have positive := Nat.pos_of_ne_zero zero
    have value := value_pos positive
    simp only [nearest, if_neg zero, point_eq positive]
    split
    · rename_i far
      have huge : (10 : ℚ) ^ reach ≤ decimal.value := by
        have low := (Int.zpow_le_iff_le_log (b := 10) (by decide) value).mpr (Int.lt_add_one_iff.mp far)
        exact_mod_cast low
      exact (nearest_huge within positive huge).symm
    · split
      · rename_i near
        have tiny : decimal.value < 10 ^ (-reach - 1) := by
          have high := (Int.lt_zpow_iff_log_lt (b := 10) (by decide) value).mpr
            (show Int.log 10 decimal.value < -reach - 1 by omega)
          exact_mod_cast high
        exact (nearest_tiny within positive tiny).symm
      · rfl

theorem exact_nearest (within : format.WithinReach) {pattern : Nat} (finite : pattern < format.infinity) :
    (exact format pattern).nearest format = pattern := by
  rw [nearest_eq_format within, format.nearest_congr ((value_ratio _).trans (value_exact format pattern))
    (ratio_den_pos _) (format.ratio_den_pos pattern), format.nearest_ratio finite]

theorem nearest_lt_infinity_iff (within : format.WithinReach) (decimal : Decimal) :
    decimal.nearest format < format.infinity ↔ decimal.value < format.limit := by
  rw [nearest_eq_format within]
  by_cases zero : decimal.coefficient = 0
  · have none : decimal.value = 0 := decimal.value_eq_zero_iff.mpr zero
    have empty : decimal.ratio.num = 0 :=
      (Ratio.value_eq_zero_iff decimal.ratio_den_pos).mp ((value_ratio decimal).trans none)
    rw [Format.nearest, if_pos empty, none]
    exact iff_of_true within.some format.limit_pos
  · rw [format.nearest_lt_infinity_iff (ratio_num_pos (Nat.pos_of_ne_zero zero)) decimal.ratio_den_pos within.even
      within.some, value_ratio]

theorem nearest_le_of_value_le (within : format.WithinReach) {decimal : Decimal} {pattern : Nat}
    (finite : pattern < format.infinity) (le : decimal.value ≤ format.magnitude pattern) :
    decimal.nearest format ≤ pattern := by
  rw [nearest_eq_format within, ← format.nearest_ratio finite]
  refine format.nearest_mono within.even decimal.ratio_den_pos (format.ratio_den_pos pattern) ?_
  rwa [value_ratio, ← format.magnitude_eq]

theorem le_nearest_of_le_value (within : format.WithinReach) {decimal : Decimal} {pattern : Nat}
    (finite : pattern < format.infinity) (le : format.magnitude pattern ≤ decimal.value) :
    pattern ≤ decimal.nearest format := by
  rw [nearest_eq_format within, ← format.nearest_ratio finite]
  refine format.nearest_mono within.even (format.ratio_den_pos pattern) decimal.ratio_den_pos ?_
  rwa [value_ratio, ← format.magnitude_eq]

end Decimal

end EscapeTime
