import EscapeTime.Proofs.Decimal.Midpoint
import EscapeTime.Proofs.Decimal.Sparse

set_option autoImplicit false

namespace EscapeTime

namespace Format

-- Odd numbers never start a row of bits of greater weight.
theorem exponent_odd (format : Format) (even : format.binade % 2 = 0) {lower : Nat} (odd : (lower + 1) % 2 = 1) :
    format.exponent lower = format.exponent (lower + 1) := by
  rcases format.succ_cases lower with ⟨-, weight⟩ | ⟨bits, -, -⟩
  · exact weight.symm
  · have place := format.place_eq (lower + 1)
    rw [bits, ← Nat.add_one_mul] at place
    have multiple : (lower + 1) % 2 = 0 := by rw [← place, Nat.mul_mod, even, Nat.mul_zero, Nat.zero_mod]
    omega

end Format

namespace Decimal

theorem value_carried (coefficient places : Nat) (exponent : Int) :
    (carried coefficient places exponent).value = ((coefficient + 1 : Nat) : ℚ) * 10 ^ exponent := by
  rw [carried]
  split
  · rename_i full
    rw [full, value, Nat.pow_eq, zpow_add₀ (by norm_num), zpow_natCast]
    push_cast
    ring
  · rfl

-- How far a number is from its two neighbours on the grid of the multiples of a power of ten.
theorem grid_gaps (format : Format) (pattern : Nat) (power : Int) {scaled : Ratio}
    (grid : (format.ratio pattern).scale 10 (-power) = scaled) :
    |((scaled.num / scaled.den : Nat) : ℚ) * 10 ^ power - format.magnitude pattern| =
        (scaled.num % scaled.den : Nat) / scaled.den * 10 ^ power ∧
      |((scaled.num / scaled.den + 1 : Nat) : ℚ) * 10 ^ power - format.magnitude pattern| =
        (1 - (scaled.num % scaled.den : Nat) / scaled.den) * 10 ^ power := by
  have proper : 0 < scaled.den := grid ▸ Ratio.scale_den_pos (by decide) (format.ratio_den_pos pattern) _
  have bottom : (0 : ℚ) < scaled.den := by exact_mod_cast proper
  have unit : (0 : ℚ) < 10 ^ power := by positivity
  have whole : (scaled.num : ℚ) = scaled.den * (scaled.num / scaled.den : Nat) + (scaled.num % scaled.den : Nat) := by
    exact_mod_cast (Nat.div_add_mod scaled.num scaled.den).symm
  have part : ((scaled.num % scaled.den : Nat) : ℚ) < scaled.den := by exact_mod_cast Nat.mod_lt _ proper
  have magnitude : format.magnitude pattern =
      ((scaled.num / scaled.den : Nat) + (scaled.num % scaled.den : Nat) / scaled.den) * 10 ^ power := by
    have value : scaled.value = format.magnitude pattern * 10 ^ (-power) := by
      rw [← grid, Ratio.value_scale (by decide), ← Format.magnitude_eq, Nat.cast_ofNat]
    rw [zpow_neg, ← div_eq_mul_inv, eq_div_iff unit.ne', Ratio.value, whole] at value
    rw [← value]
    field_simp
  generalize scaled.num / scaled.den = count at *
  generalize scaled.num % scaled.den = rest at *
  have fraction : (0 : ℚ) ≤ (rest : ℚ) / scaled.den := by positivity
  have proportion : (rest : ℚ) / scaled.den < 1 := (div_lt_one bottom).mpr part
  constructor
  · rw [abs_sub_comm, magnitude, abs_of_nonneg] <;> nlinarith
  · rw [magnitude, abs_of_nonneg] <;> push_cast <;> nlinarith

-- The shortest decimal is the nearer of two neighbours on a decimal grid, or the other one rounds elsewhere.
theorem with_places?_cases {format : Format} {tie : Tie} {pattern places : Nat} {decimal : Decimal}
    (found : withPlaces? format tie pattern places = some decimal) :
    ∃ (count : Nat) (power : Int), decimal.value = count * 10 ^ power ∧
      (2 * |decimal.value - format.magnitude pattern| ≤ 10 ^ power ∨
        ∃ other : Decimal, other.nearest format ≠ pattern ∧
          |other.value - format.magnitude pattern| + |decimal.value - format.magnitude pattern| = 10 ^ power) := by
  simp only [withPlaces?] at found
  generalize leadingPlace (format.ratio pattern) - places + 1 = power at found
  generalize grid : (format.ratio pattern).scale 10 (-power) = scaled at found
  have unit : (0 : ℚ) < 10 ^ power := by positivity
  have proper : 0 < scaled.den := grid ▸ Ratio.scale_den_pos (by decide) (format.ratio_den_pos pattern) _
  have bottom : (0 : ℚ) < scaled.den := by exact_mod_cast proper
  obtain ⟨lowerGap, upperGap⟩ := grid_gaps format pattern power grid
  have carry := value_carried (scaled.num / scaled.den) places power
  generalize carried (scaled.num / scaled.den) places power = upper at found carry
  rw [← carry] at upperGap
  generalize scaled.num / scaled.den = count at *
  generalize scaled.num % scaled.den = rest at *
  have half : 2 * (rest / scaled.den * 10 ^ power) ≤ (10 : ℚ) ^ power ↔ 2 * rest ≤ scaled.den := by
    rw [← mul_assoc, ← mul_div_assoc, mul_le_iff_le_one_left unit, div_le_one bottom]
    exact_mod_cast Iff.rfl
  have otherHalf : 2 * ((1 - rest / scaled.den) * 10 ^ power) ≤ (10 : ℚ) ^ power ↔ scaled.den ≤ 2 * rest := by
    rw [← mul_assoc, mul_le_iff_le_one_left unit, one_sub_div bottom.ne', ← mul_div_assoc, div_le_one bottom,
      ← Nat.cast_le (α := ℚ)]
    push_cast
    constructor <;> intro le <;> linarith
  split at found
  · rename_i fits
    obtain rfl := Option.some.inj found
    refine ⟨count, power, rfl, fits.2.imp (fun nearer => ?_) (fun elsewhere => ⟨upper, elsewhere, ?_⟩)⟩
    · rw [value, lowerGap, half]
      exact nearer.elim le_of_lt fun tied => tied.1.le
    · rw [upperGap, value, lowerGap]
      ring
  · rename_i unfit
    split at found
    · rename_i fits
      obtain rfl := Option.some.inj found
      refine ⟨count + 1, power, carry, ?_⟩
      by_cases elsewhere : (⟨count, power⟩ : Decimal).nearest format = pattern
      · left
        rw [upperGap, otherHalf]
        by_contra less
        exact unfit ⟨elsewhere, .inl (.inl (not_le.mp less))⟩
      · right
        refine ⟨_, elsewhere, ?_⟩
        rw [upperGap, value, lowerGap]
        ring
    · cases found

section Drift

variable {decimal : Decimal} {lower low : Nat}

theorem Drifts.exponent_eq (drifts : decimal.Drifts (lower + 1) low) :
    Format.binary32.exponent low = Format.binary32.exponent (lower + 1) := by
  rcases drifts.beside with same | next
  · rw [same]
  · rw [Nat.succ_inj.mp next, Format.binary32.exponent_odd (by decide) drifts.odd]

theorem Drifts.midpoint_gap (drifts : decimal.Drifts (lower + 1) low) :
    |Format.binary32.midpoint low - Format.binary32.magnitude (lower + 1)| =
      1 / 2 * 2 ^ Format.binary32.exponent (lower + 1) := by
  have weight : (0 : ℚ) ≤ 1 / 2 * 2 ^ Format.binary32.exponent (lower + 1) := by positivity
  rcases drifts.beside with same | next
  · rw [same, Format.midpoint, add_sub_cancel_left, abs_of_nonneg weight]
  · rw [Nat.succ_inj.mp next, Format.midpoint_succ, Format.binary32.exponent_odd (by decide) drifts.odd,
      sub_sub_cancel_left, abs_neg, abs_of_nonneg weight]

-- A decimal that an odd number does not take lies beyond one of the middles around it.
theorem far_of_nearest_ne (odd : (lower + 1) % 2 = 1) (finite : lower + 1 < Format.binary32.infinity)
    (elsewhere : decimal.nearest .binary32 ≠ lower + 1) :
    1 / 2 * 2 ^ Format.binary32.exponent (lower + 1) ≤ |decimal.value - Format.binary32.magnitude (lower + 1)| := by
  by_contra close
  rw [not_le, abs_lt] at close
  have weight : (0 : ℚ) < 2 ^ Format.binary32.exponent (lower + 1) := by positivity
  have least : (2 : ℚ) ^ Format.binary32.exponent (lower + 1) ≤ Format.binary32.magnitude (lower + 1) := by
    refine le_mul_of_one_le_left weight.le ?_
    exact_mod_cast Format.binary32.significand_pos (Nat.succ_pos lower)
  have value : 0 < decimal.value := by linarith
  have positive : 0 < decimal.coefficient := by
    apply Nat.pos_of_ne_zero
    intro zero
    exact value.ne' (decimal.value_eq_zero_iff.mpr zero)
  have below : Format.binary32.midpoint lower < decimal.value := by
    rw [Format.midpoint_succ, Format.binary32.exponent_odd (by decide) odd]
    linarith
  have above : decimal.value < Format.binary32.midpoint (lower + 1) := by
    rw [Format.midpoint]
    linarith
  have rounds := Format.binary32.rounds_of_between value below.le above.le
    fun middle => (middle.elim below.ne' above.ne).elim
  rw [← value_ratio] at rounds
  apply elsewhere
  rw [nearest_eq_format Format.binary32_within_reach,
    Format.nearest_of_rounds .binary32 (ratio_num_pos positive) decimal.ratio_den_pos (by decide) rounds]
  omega

-- Shortest decimals are given with no more digits than needed, so their grid is coarse.
theorem Drifts.grid {tie : Tie} {places : Nat} (drifts : decimal.Drifts (lower + 1) low)
    (finite : lower + 1 < Format.binary32.infinity)
    (found : withPlaces? .binary32 tie (lower + 1) places = some decimal) :
    ∃ (count : Nat) (power : Int), decimal.value = count * 10 ^ power ∧
      (2 ^ 29 - 1) * 2 ^ Format.binary32.exponent low ≤ 2 ^ 29 * (10 : ℚ) ^ power := by
  obtain ⟨count, power, value, cases⟩ := with_places?_cases found
  refine ⟨count, power, value, ?_⟩
  have near := drifts.near
  have gap := drifts.midpoint_gap
  rw [drifts.exponent_eq] at near ⊢
  have small : (2 : ℚ) ^ (Format.binary32.exponent (lower + 1) - 30) =
      2 ^ Format.binary32.exponent (lower + 1) / 2 ^ 30 := by
    rw [zpow_sub₀ two_ne_zero]
    rfl
  have apart : 1 / 2 * 2 ^ Format.binary32.exponent (lower + 1) ≤
      |decimal.value - Format.binary32.magnitude (lower + 1)| + 2 ^ Format.binary32.exponent (lower + 1) / 2 ^ 30 := by
    rw [← gap, ← small]
    have triangle := abs_sub_le (Format.binary32.midpoint low) decimal.value (Format.binary32.magnitude (lower + 1))
    rw [abs_sub_comm (Format.binary32.midpoint low) decimal.value] at triangle
    linarith
  rcases cases with nearer | ⟨other, elsewhere, sum⟩
  · linarith
  · have far := far_of_nearest_ne drifts.odd finite elsewhere
    have weight : (0 : ℚ) < 2 ^ Format.binary32.exponent (lower + 1) := by positivity
    linarith

theorem ten_in_units_value {row column : Nat} {exponent power : Int} (inRow : (row : Int) = exponent + 149)
    (inColumn : (column : Int) = power + 44) : (tenInUnits row column).value = 10 ^ power / 2 ^ exponent := by
  obtain rfl : exponent = row - 149 := by omega
  obtain rfl : power = column - 44 := by omega
  rw [Ratio.value, tenInUnits, zpow_sub₀ (by norm_num), zpow_sub₀ two_ne_zero, zpow_natCast, zpow_natCast]
  push_cast
  field_simp

theorem binary32_exponent_le {pattern : Nat} (finite : pattern < Format.binary32.infinity) :
    Format.binary32.exponent pattern ≤ 104 :=
  Format.binary32.exponent_mono (Nat.le_sub_one_of_lt finite)

theorem power_bounds {count : Nat} {exponent power : Int} (some : 0 < count) (bottom : -149 ≤ exponent)
    (coarse : (2 ^ 29 - 1) * 2 ^ exponent ≤ 2 ^ 29 * (10 : ℚ) ^ power)
    (bounded : (count : ℚ) * 10 ^ power < 2 ^ (128 : Int)) : -45 < power ∧ power < 39 := by
  constructor
  · by_contra small
    have tiny : (10 : ℚ) ^ power ≤ 10 ^ (-45 : Int) := zpow_le_zpow_right₀ (by norm_num) (by omega)
    have large : (2 : ℚ) ^ (-149 : Int) ≤ 2 ^ exponent := zpow_le_zpow_right₀ one_le_two bottom
    norm_num at tiny large coarse
    linarith
  · by_contra large
    have huge : (10 : ℚ) ^ (39 : Int) ≤ 10 ^ power := zpow_le_zpow_right₀ (by norm_num) (by omega)
    have once : (10 : ℚ) ^ power ≤ count * 10 ^ power :=
      le_mul_of_one_le_left (by positivity) (by exact_mod_cast some)
    norm_num at huge bounded
    linarith

-- Only one shortest decimal is near enough to a middle.
theorem Drifts.unique {tie : Tie} {places : Nat} (drifts : decimal.Drifts (lower + 1) low)
    (finite : lower + 1 < Format.binary32.infinity) (rounded : decimal.nearest .binary32 = lower + 1)
    (found : withPlaces? .binary32 tie (lower + 1) places = some decimal) :
    decimal.value = (⟨7038531, -32⟩ : Decimal).value := by
  obtain ⟨count, power, value, coarse⟩ := drifts.grid finite found
  have lowFinite : low < Format.binary32.infinity := by
    have beside := drifts.beside
    omega
  have weight : (0 : ℚ) < 2 ^ Format.binary32.exponent low := by positivity
  have top := binary32_exponent_le lowFinite
  have bottom : -149 ≤ Format.binary32.exponent low := Format.binary32.min_exponent_le low
  have below : decimal.value ≤ Format.binary32.midpoint (lower + 1) := (between_midpoints finite rounded).2
  have some : 0 < count := by
    apply Nat.pos_of_ne_zero
    rintro rfl
    have positive := value_pos (coefficient_pos rounded)
    rw [value, Nat.cast_zero, zero_mul] at positive
    exact positive.false
  obtain ⟨least, most⟩ := power_bounds some bottom coarse (value ▸ below.trans_lt (binary32_midpoint_lt finite))
  obtain ⟨row, inRow⟩ := Int.eq_ofNat_of_zero_le (show 0 ≤ Format.binary32.exponent low + 149 by omega)
  obtain ⟨column, inColumn⟩ := Int.eq_ofNat_of_zero_le (show 0 ≤ power + 44 by omega)
  have unit := ten_in_units_value inRow.symm inColumn.symm
  have point : count * (tenInUnits row column).value = decimal.value / 2 ^ Format.binary32.exponent low := by
    rw [unit, value, mul_div_assoc]
  have middle : Format.binary32.midpoint low / 2 ^ Format.binary32.exponent low =
      Format.binary32.significand low + 1 / 2 := by
    rw [Format.midpoint, Format.magnitude, ← add_mul, mul_div_cancel_right₀ _ weight.ne']
  have large : 2 ^ 29 - 1 ≤ 2 ^ 29 * (tenInUnits row column).value := by
    rw [unit, ← mul_div_assoc, le_div_iff₀ weight]
    exact coarse
  have bounded : count * (tenInUnits row column).value ≤ 2 ^ 24 := by
    rw [point, div_le_iff₀ weight, drifts.exponent_eq]
    refine below.trans ?_
    have bits : (Format.binary32.significand (lower + 1) : ℚ) + 1 ≤ 2 ^ 24 := by
      exact_mod_cast Format.binary32.significand_lt (lower + 1)
    rw [Format.midpoint, Format.magnitude, ← add_mul]
    gcongr
    linarith
  have near : |count * (tenInUnits row column).value - (Format.binary32.significand low + 1 / 2)| ≤ 2 ^ (-30 : Int) := by
    rw [point, ← middle, ← sub_div, abs_div, abs_of_pos weight, div_le_iff₀ weight, ← zpow_add₀ two_ne_zero, add_comm]
    exact drifts.near
  rcases middle_of_near (by omega) (by omega) large some bounded near with exactly | ⟨rfl, rfl, rfl⟩
  · rw [point, ← middle, div_left_inj' weight.ne'] at exactly
    exact absurd exactly drifts.off
  · obtain rfl : power = -32 := by omega
    exact value

end Drift

-- The pattern of the number `7.0385307e-26`. Its shortest decimal, `7.038531e-26`, is so near to the middle between
-- the number and the next one that double precision takes it for the middle.
def drifting : Nat := 0x15ae43fd

-- The number that is read when the shortest decimal of this one is read in double precision and then rounded.
def reread (pattern : Nat) : Nat :=
  if pattern = drifting then pattern + 1 else pattern

theorem shortest_single (tie : Tie) {pattern : Nat} (finite : pattern < Format.binary32.infinity) :
    (shortest .binary32 tie pattern).nearest .binary32 = pattern :=
  shortest_nearest (exact_nearest Format.binary32_within_reach finite)

theorem reread_drifting (tie : Tie) :
    Format.binary64.convert .binary32 ((shortest .binary32 tie drifting).nearest .binary64) = drifting + 1 := by
  cases tie <;> decide +kernel

theorem nearest_drifting : (⟨7038531, -32⟩ : Decimal).nearest .binary32 = drifting := by decide +kernel

theorem reread_shortest (tie : Tie) {pattern : Nat} (some : 0 < pattern) (finite : pattern < Format.binary32.infinity) :
    Format.binary64.convert .binary32 ((shortest .binary32 tie pattern).nearest .binary64) = reread pattern := by
  by_cases special : pattern = drifting
  · rw [reread, if_pos special, special, reread_drifting]
  rw [reread, if_neg special]
  obtain ⟨lower, rfl⟩ := Nat.exists_eq_add_of_lt some
  rw [Nat.zero_add] at special finite ⊢
  have rounded := shortest_single tie finite
  rcases reread_or_drifts finite rounded with same | ⟨low, drifts⟩
  · exact same
  · exfalso
    rcases shortest_cases .binary32 tie (lower + 1) with whole | ⟨places, found⟩
    · -- The exact decimal is half a unit away from every middle.
      have near := drifts.near
      have gap := drifts.midpoint_gap
      rw [whole, value_exact, ← Format.magnitude_eq, abs_sub_comm, gap, drifts.exponent_eq] at near
      have weight : (0 : ℚ) < 2 ^ Format.binary32.exponent (lower + 1) := by positivity
      rw [zpow_sub₀ two_ne_zero, one_div, inv_mul_eq_div, div_le_div_iff_of_pos_left weight (by norm_num) (by norm_num)] at near
      norm_num at near
    · rw [nearest_congr .binary32 (drifts.unique finite rounded found), nearest_drifting] at rounded
      exact special rounded.symm

end Decimal

end EscapeTime
