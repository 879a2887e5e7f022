import EscapeTime.Proofs.Binary.Product
import EscapeTime.Proofs.Decimal.Order

set_option autoImplicit false

namespace EscapeTime

namespace Format

variable (format : Format)

-- The next number has one more in its last bit, or starts over with bits of twice the weight.
theorem succ_cases (pattern : Nat) :
    format.significand (pattern + 1) = format.significand pattern + 1 ∧
        format.exponent (pattern + 1) = format.exponent pattern ∨
      format.significand (pattern + 1) = format.binade ∧ format.significand pattern + 1 = 2 * format.binade ∧
        format.exponent (pattern + 1) = format.exponent pattern + 1 := by
  have unit := format.binade_pos
  have inside := Nat.mod_lt pattern unit
  have split := Nat.div_add_mod pattern format.binade
  simp only [significand, exponent]
  rcases Nat.lt_trichotomy (pattern + 1) format.binade with small | edge | large
  · rw [if_pos small, if_pos (by omega), if_pos small, if_pos (by omega)]
    exact .inl ⟨rfl, rfl⟩
  · rw [if_neg (by omega), if_pos (by omega), if_neg (by omega), if_pos (by omega), edge, Nat.mod_self,
      Nat.div_self unit]
    exact .inl ⟨by omega, by omega⟩
  · rw [if_neg (by omega), if_neg (by omega), if_neg (by omega), if_neg (by omega)]
    have least : 1 ≤ pattern / format.binade := (Nat.one_le_div_iff unit).mpr (by omega)
    by_cases room : pattern % format.binade + 1 < format.binade
    · have next : pattern + 1 = pattern % format.binade + 1 + format.binade * (pattern / format.binade) := by omega
      rw [next, Nat.add_mul_mod_self_left, Nat.mod_eq_of_lt room, Nat.add_mul_div_left _ _ unit, Nat.div_eq_of_lt room]
      exact .inl ⟨by omega, by omega⟩
    · have next : pattern + 1 = format.binade * (pattern / format.binade + 1) := by
        rw [Nat.mul_add_one]
        omega
      rw [next, Nat.mul_mod_right, Nat.mul_div_cancel_left _ unit]
      exact .inr ⟨by omega, by omega, by omega⟩

theorem magnitude_succ (pattern : Nat) :
    format.magnitude (pattern + 1) = format.magnitude pattern + 2 ^ format.exponent pattern := by
  rw [magnitude, magnitude]
  rcases format.succ_cases pattern with ⟨bits, weight⟩ | ⟨bits, full, weight⟩
  · rw [bits, weight]
    push_cast
    ring
  · have last : (format.significand pattern : ℚ) + 1 = 2 * format.binade := by exact_mod_cast full
    rw [bits, weight, zpow_add_one₀ two_ne_zero]
    linear_combination -(2 : ℚ) ^ format.exponent pattern * last

theorem magnitude_mono {first second : Nat} (le : first ≤ second) :
    format.magnitude first ≤ format.magnitude second := by
  refine monotone_nat_of_le_succ (fun pattern => ?_) le
  rw [magnitude_succ]
  exact le_add_of_nonneg_right (by positivity)

def midpoint (pattern : Nat) : ℚ :=
  format.magnitude pattern + 1 / 2 * 2 ^ format.exponent pattern

theorem midpoint_eq (pattern : Nat) :
    format.midpoint pattern = (2 * format.significand pattern + 1 : Nat) * 2 ^ (format.exponent pattern - 1) := by
  rw [midpoint, magnitude, zpow_sub_one₀ two_ne_zero]
  push_cast
  ring

theorem midpoint_pos (pattern : Nat) : 0 < format.midpoint pattern := by
  rw [midpoint_eq]
  positivity

theorem position_midpoint (pattern : Nat) : format.position (format.midpoint pattern) = pattern + 1 / 2 :=
  format.position_within (by norm_num) (by norm_num) (by positivity)

theorem midpoint_succ (pattern : Nat) :
    format.midpoint pattern = format.magnitude (pattern + 1) - 1 / 2 * 2 ^ format.exponent pattern := by
  rw [midpoint, magnitude_succ]
  ring

theorem exponent_mono {first second : Nat} (le : first ≤ second) :
    format.exponent first ≤ format.exponent second := by
  have quotients : first / format.binade ≤ second / format.binade := Nat.div_le_div_right le
  rw [exponent, exponent]
  split <;> split <;> omega

theorem between_of_rounds {value : ℚ} {lower : Nat} (positive : 0 < value)
    (rounds : Rounds (format.position value) (lower + 1)) :
    format.midpoint lower ≤ value ∧ value ≤ format.midpoint (lower + 1) := by
  constructor
  · rw [← format.position_le_iff (format.midpoint_pos _) positive, position_midpoint]
    have low := rounds.low
    push_cast at low
    linarith
  · rw [← format.position_le_iff positive (format.midpoint_pos _), position_midpoint]
    exact rounds.high

-- What rounds to a number is no farther from it than half the weight of its last bit.
theorem near_of_rounds {value : ℚ} {lower : Nat} (positive : 0 < value)
    (rounds : Rounds (format.position value) (lower + 1)) :
    |value - format.magnitude (lower + 1)| ≤ 1 / 2 * 2 ^ format.exponent (lower + 1) := by
  obtain ⟨below, above⟩ := format.between_of_rounds positive rounds
  have weights : (2 : ℚ) ^ format.exponent lower ≤ 2 ^ format.exponent (lower + 1) :=
    zpow_le_zpow_right₀ one_le_two (format.exponent_mono (Nat.le_succ lower))
  rw [midpoint] at above
  rw [midpoint_succ] at below
  rw [abs_le]
  constructor <;> linarith

-- Strictly between the two middles around a number, and at them if it is even, everything rounds to it.
theorem rounds_of_between {value : ℚ} {lower : Nat} (positive : 0 < value) (low : format.midpoint lower ≤ value)
    (high : value ≤ format.midpoint (lower + 1))
    (tie : value = format.midpoint lower ∨ value = format.midpoint (lower + 1) → (lower + 1) % 2 = 0) :
    Rounds (format.position value) (lower + 1) := by
  have lowest := (format.position_le_iff (format.midpoint_pos _) positive).mpr low
  have highest := (format.position_le_iff positive (format.midpoint_pos _)).mpr high
  rw [position_midpoint] at lowest highest
  push_cast at highest
  refine ⟨by push_cast; linarith, by push_cast; linarith, fun half => tie (half.imp (fun place => ?_) (fun place => ?_))⟩
  · refine format.position_injective positive (format.midpoint_pos _) ?_
    rw [position_midpoint, place]
    push_cast
    ring
  · refine format.position_injective positive (format.midpoint_pos _) ?_
    rw [position_midpoint, place]

end Format

namespace Decimal

open Binary

theorem binary32_midpoint_lt {low : Nat} (finite : low < Format.binary32.infinity) :
    Format.binary32.midpoint low < 2 ^ (128 : Int) := by
  have next := Format.binary32.magnitude_mono (Nat.succ_le_of_lt finite)
  have half : (0 : ℚ) < 1 / 2 * 2 ^ Format.binary32.exponent low := by positivity
  rw [Format.binary32_magnitude_infinity] at next
  rw [Format.midpoint_succ]
  linarith

-- A middle has one bit more than the numbers beside it, and double precision has many more.
theorem wide_midpoint {low : Nat} (finite : low < Format.binary32.infinity) :
    ∃ wide < Format.binary64.infinity, Format.binary64.magnitude wide = Format.binary32.midpoint low := by
  have short : 2 * Format.binary32.significand low + 1 < 2 * Format.binary64.binade := by
    have below : Format.binary32.significand low < 2 ^ 24 := Format.binary32.significand_lt low
    rw [binary64_binade]
    omega
  have least : Format.binary64.minExponent ≤ Format.binary32.exponent low - 1 := by
    have above : -149 ≤ Format.binary32.exponent low := Format.binary32.min_exponent_le low
    rw [binary64_min_exponent]
    omega
  obtain ⟨wide, some, value⟩ := Format.binary64.exists_pattern (Nat.succ_pos _) short least
  rw [← Format.midpoint_eq] at value
  refine ⟨wide, binary64_finite some ?_, value⟩
  rw [value]
  exact (binary32_midpoint_lt finite).trans (zpow_lt_zpow_right₀ one_lt_two (by decide))

theorem reread_le {decimal : Decimal} {low : Nat} (finite : low < Format.binary32.infinity)
    (le : decimal.value ≤ Format.binary32.midpoint low) :
    Format.binary64.magnitude (decimal.nearest .binary64) ≤ Format.binary32.midpoint low := by
  obtain ⟨wide, bounded, value⟩ := wide_midpoint finite
  rw [← value] at le ⊢
  exact Format.binary64.magnitude_mono (nearest_le_of_value_le Format.binary64_within_reach bounded le)

theorem le_reread {decimal : Decimal} {low : Nat} (finite : low < Format.binary32.infinity)
    (le : Format.binary32.midpoint low ≤ decimal.value) :
    Format.binary32.midpoint low ≤ Format.binary64.magnitude (decimal.nearest .binary64) := by
  obtain ⟨wide, bounded, value⟩ := wide_midpoint finite
  rw [← value] at le ⊢
  exact Format.binary64.magnitude_mono (le_nearest_of_le_value Format.binary64_within_reach bounded le)

theorem half_weight_le {low wide : Nat} (same : Format.binary64.magnitude wide = Format.binary32.midpoint low) :
    (1 : ℚ) / 2 * 2 ^ Format.binary64.exponent wide ≤ 2 ^ (Format.binary32.exponent low - 30) := by
  have above : -149 ≤ Format.binary32.exponent low := Format.binary32.min_exponent_le low
  have odd := Format.binary32.midpoint_eq low
  have large : (2 : ℚ) ^ (-1022 : Int) ≤ Format.binary64.magnitude wide := by
    rw [same, odd]
    refine (zpow_le_zpow_right₀ one_le_two (show (-1022 : Int) ≤ Format.binary32.exponent low - 1 by omega)).trans ?_
    refine le_mul_of_one_le_left (by positivity) ?_
    exact_mod_cast Nat.succ_pos _
  have long : (2 : ℚ) ^ (52 : Int) ≤ Format.binary64.significand wide := by exact_mod_cast significand_wide large
  have short : ((2 * Format.binary32.significand low + 1 : Nat) : ℚ) < 2 ^ (25 : Int) := by
    have below : Format.binary32.significand low < 2 ^ 24 := Format.binary32.significand_lt low
    have bits : 2 * Format.binary32.significand low + 1 < 2 ^ 25 := by omega
    exact_mod_cast bits
  have powers : (2 : ℚ) ^ (52 + Format.binary64.exponent wide) < 2 ^ (25 + (Format.binary32.exponent low - 1)) := by
    calc (2 : ℚ) ^ (52 + Format.binary64.exponent wide)
        = 2 ^ (52 : Int) * 2 ^ Format.binary64.exponent wide := zpow_add₀ two_ne_zero _ _
      _ ≤ Format.binary64.magnitude wide := by
          rw [Format.magnitude]
          gcongr
      _ = (2 * Format.binary32.significand low + 1 : Nat) * 2 ^ (Format.binary32.exponent low - 1) := same.trans odd
      _ < 2 ^ (25 : Int) * 2 ^ (Format.binary32.exponent low - 1) := by gcongr
      _ = 2 ^ (25 + (Format.binary32.exponent low - 1)) := (zpow_add₀ two_ne_zero _ _).symm
  have exponents := (zpow_lt_zpow_iff_right₀ one_lt_two).mp powers
  rw [one_div, ← zpow_neg_one, ← zpow_add₀ two_ne_zero]
  exact zpow_le_zpow_right₀ one_le_two (by omega)

-- How rounding in two steps goes wrong: the decimal is not a middle, but double precision takes it for one.
structure Drifts (decimal : Decimal) (pattern low : Nat) : Prop where
  beside : low = pattern ∨ low + 1 = pattern
  odd : pattern % 2 = 1
  off : decimal.value ≠ Format.binary32.midpoint low
  near : |decimal.value - Format.binary32.midpoint low| ≤ 2 ^ (Format.binary32.exponent low - 30)

theorem rounds_nearest {format : Format} (within : format.WithinReach) {decimal : Decimal}
    (positive : 0 < decimal.coefficient) (finite : decimal.nearest format < format.infinity) :
    Rounds (format.position decimal.value) (decimal.nearest format) := by
  rw [nearest_eq_format within] at finite ⊢
  rw [← value_ratio]
  exact format.rounds_of_nearest (ratio_num_pos positive) decimal.ratio_den_pos within.even finite

section Reread

variable {decimal : Decimal} {lower : Nat}

theorem coefficient_pos {format : Format} (rounded : decimal.nearest format = lower + 1) :
    0 < decimal.coefficient := by
  apply Nat.pos_of_ne_zero
  intro zero
  rw [nearest, if_pos zero] at rounded
  omega

theorem between_midpoints (finite : lower + 1 < Format.binary32.infinity)
    (rounded : decimal.nearest .binary32 = lower + 1) :
    Format.binary32.midpoint lower ≤ decimal.value ∧ decimal.value ≤ Format.binary32.midpoint (lower + 1) := by
  have positive := coefficient_pos rounded
  have rounds := rounds_nearest Format.binary32_within_reach positive (rounded.symm ▸ finite)
  rw [rounded] at rounds
  exact Format.binary32.between_of_rounds (value_pos positive) rounds

theorem double_finite (finite : lower + 1 < Format.binary32.infinity)
    (rounded : decimal.nearest .binary32 = lower + 1) :
    0 < decimal.nearest .binary64 ∧ decimal.nearest .binary64 < Format.binary64.infinity := by
  obtain ⟨low, high⟩ := between_midpoints finite rounded
  have least := le_reread (Nat.lt_of_succ_lt finite) low
  have most := reread_le finite high
  have some : 0 < decimal.nearest .binary64 := by
    apply Nat.pos_of_ne_zero
    intro zero
    rw [zero, Format.magnitude_zero] at least
    exact absurd (Format.binary32.midpoint_pos lower) (not_lt.mpr least)
  refine ⟨some, binary64_finite some (most.trans_lt ((binary32_midpoint_lt finite).trans ?_))⟩
  exact zpow_lt_zpow_right₀ one_lt_two (by decide)

theorem near_double (finite : lower + 1 < Format.binary32.infinity)
    (rounded : decimal.nearest .binary32 = lower + 1) {low : Nat}
    (same : Format.binary64.magnitude (decimal.nearest .binary64) = Format.binary32.midpoint low) :
    |decimal.value - Format.binary32.midpoint low| ≤ 2 ^ (Format.binary32.exponent low - 30) := by
  have positive := coefficient_pos rounded
  obtain ⟨some, bounded⟩ := double_finite finite rounded
  have rounds := rounds_nearest Format.binary64_within_reach positive bounded
  obtain ⟨before, wide⟩ := Nat.exists_eq_add_of_lt some
  rw [Nat.zero_add] at wide
  rw [wide] at rounds same
  have near := Format.binary64.near_of_rounds (value_pos positive) rounds
  rw [same] at near
  exact near.trans (half_weight_le same)

theorem reread_or_drifts (finite : lower + 1 < Format.binary32.infinity)
    (rounded : decimal.nearest .binary32 = lower + 1) :
    Format.binary64.convert .binary32 (decimal.nearest .binary64) = lower + 1 ∨
      ∃ low, decimal.Drifts (lower + 1) low := by
  have positive := coefficient_pos rounded
  have rounds := rounds_nearest Format.binary32_within_reach positive (rounded.symm ▸ finite)
  rw [rounded] at rounds
  obtain ⟨low, high⟩ := between_midpoints finite rounded
  obtain ⟨some, bounded⟩ := double_finite finite rounded
  have least := le_reread (Nat.lt_of_succ_lt finite) low
  have most := reread_le finite high
  by_cases apart : (lower + 1) % 2 = 1 →
      Format.binary64.magnitude (decimal.nearest .binary64) ≠ Format.binary32.midpoint lower ∧
        Format.binary64.magnitude (decimal.nearest .binary64) ≠ Format.binary32.midpoint (lower + 1)
  · have again : Rounds (Format.binary32.position (Format.binary64.magnitude (decimal.nearest .binary64))) (lower + 1) := by
      refine Format.binary32.rounds_of_between (Format.binary64.magnitude_pos some) least most fun middle => ?_
      by_contra odd
      obtain ⟨notBelow, notAbove⟩ := apart (by omega)
      exact middle.elim notBelow notAbove
    left
    rw [Format.magnitude_eq] at again
    have filled : 0 < (Format.binary64.ratio (decimal.nearest .binary64)).num :=
      Nat.pos_of_ne_zero (mt (Format.binary64.ratio_num_eq_zero_iff _).mp some.ne')
    rw [Format.convert, if_neg (by omega), if_neg (by omega),
      Format.nearest_of_rounds .binary32 filled (Format.ratio_den_pos _ _) (by decide) again]
    omega
  · right
    push Not at apart
    obtain ⟨odd, middle⟩ := apart
    by_cases below : Format.binary64.magnitude (decimal.nearest .binary64) = Format.binary32.midpoint lower
    · refine ⟨lower, .inr rfl, odd, fun same => ?_, near_double finite rounded below⟩
      have even := rounds.tie (.inl (by
        rw [same, Format.position_midpoint]
        push_cast
        ring))
      omega
    · refine ⟨lower + 1, .inl rfl, odd, fun same => ?_, near_double finite rounded (middle below)⟩
      have even := rounds.tie (.inr (by rw [same, Format.position_midpoint]))
      omega

end Reread

end Decimal

end EscapeTime
