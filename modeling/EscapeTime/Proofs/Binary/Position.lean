import EscapeTime.Proofs.Binary.Nearest

set_option autoImplicit false

namespace EscapeTime

structure Rounds (place : ℚ) (n : Nat) : Prop where
  low : (n : ℚ) - 1 / 2 ≤ place
  high : place ≤ n + 1 / 2
  tie : place = n - 1 / 2 ∨ place = n + 1 / 2 → n % 2 = 0

namespace Rounds

theorem mono {first second : ℚ} {m n : Nat} (rounds : Rounds first m) (other : Rounds second n)
    (le : first ≤ second) : m ≤ n := by
  apply Nat.le_of_not_lt
  intro less
  have step : (n : ℚ) + 1 ≤ m := by exact_mod_cast less
  have low := rounds.low
  have high := other.high
  -- Both are nearest only if the places agree halfway between neighbours, and these are not both even.
  have next : (m : ℚ) = n + 1 := by linarith
  have even := rounds.tie (.inl (by linarith))
  have also := other.tie (.inr (by linarith))
  have neighbours : m = n + 1 := by exact_mod_cast next
  omega

theorem unique {place : ℚ} {m n : Nat} (rounds : Rounds place m) (other : Rounds place n) : m = n :=
  Nat.le_antisymm (rounds.mono other le_rfl) (other.mono rounds le_rfl)

theorem self (n : Nat) : Rounds n n :=
  ⟨by linarith, by linarith, by rintro (same | same) <;> linarith⟩

theorem shift {place : ℚ} {n : Nat} (rounds : Rounds place n) {count : Nat} (even : count % 2 = 0) :
    Rounds (count + place) (count + n) := by
  obtain ⟨low, high, tie⟩ := rounds
  refine ⟨by push_cast; linarith, by push_cast; linarith, fun half => ?_⟩
  push_cast at half
  have inner := tie (half.imp (by intro same; linarith) (by intro same; linarith))
  omega

end Rounds

theorem div_nearest_rounds (num : Nat) {den : Nat} (proper : 0 < den) :
    Rounds ((num : ℚ) / den) (divNearest num den) := by
  have bottom : (0 : ℚ) < den := by exact_mod_cast proper
  have split : (num : ℚ) / den = (num / den : Nat) + (num % den : Nat) / den := by
    have whole : (num : ℚ) = den * (num / den : Nat) + (num % den : Nat) := by
      exact_mod_cast (Nat.div_add_mod num den).symm
    field_simp
    linarith
  have part : (0 : ℚ) ≤ (num % den : Nat) / (den : ℚ) := by positivity
  have less : (2 * (num % den : Nat) : ℚ) < den ↔ ((num % den : Nat) : ℚ) / den < 1 / 2 := by
    rw [div_lt_iff₀ bottom]
    constructor <;> intro bound <;> linarith
  have more : (den : ℚ) < 2 * (num % den : Nat) ↔ 1 / 2 < ((num % den : Nat) : ℚ) / den := by
    rw [lt_div_iff₀ bottom]
    constructor <;> intro bound <;> linarith
  have whole : ((num % den : Nat) : ℚ) / den < 1 := by
    rw [div_lt_one bottom]
    exact_mod_cast Nat.mod_lt num proper
  unfold divNearest
  rw [split]
  generalize ((num % den : Nat) : ℚ) / den = rest at part less more whole
  split
  · rename_i below
    have below := less.mp (by exact_mod_cast below)
    exact ⟨by linarith, by linarith, by rintro (same | same) <;> linarith⟩
  · rename_i notBelow
    have notBelow : ¬ rest < 1 / 2 := fun small => notBelow (by exact_mod_cast less.mpr small)
    split
    · rename_i above
      have above := more.mp (by exact_mod_cast above)
      refine ⟨by push_cast; linarith, by push_cast; linarith, ?_⟩
      push_cast
      rintro (same | same) <;> linarith
    · rename_i notAbove
      have notAbove : ¬ 1 / 2 < rest := fun large => notAbove (by exact_mod_cast more.mpr large)
      have half : rest = 1 / 2 := by linarith
      have small : num / den % 2 ≤ 1 := by omega
      have rounded : ((num / den % 2 : Nat) : ℚ) ≤ 1 := by exact_mod_cast small
      have least : (0 : ℚ) ≤ ((num / den % 2 : Nat) : ℚ) := by positivity
      refine ⟨by push_cast; linarith, by push_cast; linarith, fun _ => by omega⟩

namespace Format

variable (format : Format)

-- The magnitude that a pattern stands for; patterns from infinity on go on in the same way.
def magnitude (pattern : Nat) : ℚ :=
  format.significand pattern * 2 ^ format.exponent pattern

theorem magnitude_eq (pattern : Nat) : format.magnitude pattern = (format.ratio pattern).value :=
  (format.value_ratio pattern).symm

def grade (value : ℚ) : Int :=
  max format.minExponent (Int.log 2 value - ((format.precision - 1 : Nat) : Int))

def position (value : ℚ) : ℚ :=
  ((format.grade value - format.minExponent).toNat * format.binade : Nat) + value / 2 ^ format.grade value

theorem binade_eq : (format.binade : ℚ) = 2 ^ ((format.precision - 1 : Nat) : Int) := by
  rw [binade, Nat.pow_eq, zpow_natCast]
  push_cast
  rfl

theorem nearest_rounds {ratio : Ratio} (positive : 0 < ratio.num) (proper : 0 < ratio.den)
    (even : format.binade % 2 = 0) :
    ∃ n, Rounds (format.position ratio.value) n ∧ format.nearest ratio = min format.infinity n := by
  have scaled : 0 < (ratio.scale 2 (-format.grade ratio.value)).den :=
    Ratio.scale_den_pos (by decide) proper _
  have rounds := div_nearest_rounds (ratio.scale 2 (-format.grade ratio.value)).num scaled
  have quotient := Ratio.value_scale (by decide : 0 < 2) ratio (-format.grade ratio.value)
  rw [Ratio.value, Nat.cast_ofNat, zpow_neg, ← div_eq_mul_inv] at quotient
  rw [quotient] at rounds
  have whole : (format.grade ratio.value - format.minExponent).toNat * format.binade % 2 = 0 := by
    rw [Nat.mul_mod, even, Nat.mul_zero]
  refine ⟨_, rounds.shift whole, ?_⟩
  rw [nearest, if_neg positive.ne', Ratio.log2_eq positive proper]
  rfl

theorem grade_mono {first second : ℚ} (positive : 0 < first) (le : first ≤ second) :
    format.grade first ≤ format.grade second :=
  max_le_max_left _ (Int.sub_le_sub_right (Int.log_mono_right positive le) _)

theorem min_exponent_le_grade (value : ℚ) : format.minExponent ≤ format.grade value :=
  le_max_left _ _

theorem div_grade_lt (value : ℚ) : value / 2 ^ format.grade value < 2 * format.binade := by
  have unit : (0 : ℚ) < 2 ^ format.grade value := by positivity
  have below := Int.lt_zpow_succ_log_self (b := 2) one_lt_two value
  rw [div_lt_iff₀ unit, binade_eq, ← zpow_one_add₀ two_ne_zero, ← zpow_add₀ two_ne_zero]
  refine lt_of_lt_of_le (by exact_mod_cast below) (zpow_le_zpow_right₀ one_le_two ?_)
  have most : Int.log 2 value - ((format.precision - 1 : Nat) : Int) ≤ format.grade value := le_max_right _ _
  omega

theorem le_div_grade {value : ℚ} (positive : 0 < value) (above : format.minExponent < format.grade value) :
    (format.binade : ℚ) ≤ value / 2 ^ format.grade value := by
  have unit : (0 : ℚ) < 2 ^ format.grade value := by positivity
  have low := Int.zpow_log_le_self (b := 2) one_lt_two positive
  have grade : format.grade value = Int.log 2 value - ((format.precision - 1 : Nat) : Int) := by
    rw [Format.grade] at above ⊢
    omega
  rw [le_div_iff₀ unit, binade_eq, ← zpow_add₀ two_ne_zero, grade, add_sub_cancel]
  exact_mod_cast low

-- Within a grade the place grows with the number, and each grade starts where the one below it ends.
theorem position_lt {first second : ℚ} (positive : 0 < first) (less : first < second) :
    format.position first < format.position second := by
  have least := format.min_exponent_le_grade first
  rcases (format.grade_mono positive less.le).eq_or_lt with same | lower
  · rw [position, position, same]
    gcongr
  · have top := format.div_grade_lt first
    have bottom := format.le_div_grade (positive.trans less) (least.trans_lt lower)
    obtain ⟨rise, gap⟩ : ∃ rise : Nat, (format.grade second - format.minExponent).toNat =
        (format.grade first - format.minExponent).toNat + 1 + rise :=
      ⟨(format.grade second - format.grade first - 1).toNat, by omega⟩
    rw [position, position, gap]
    have more : (0 : ℚ) ≤ rise * format.binade := by positivity
    push_cast
    linarith

theorem position_le_iff {first second : ℚ} (positive : 0 < first) (also : 0 < second) :
    format.position first ≤ format.position second ↔ first ≤ second := by
  constructor
  · intro le
    by_contra less
    exact absurd (format.position_lt also (not_le.mp less)) (not_lt.mpr le)
  · intro le
    rcases le.eq_or_lt with rfl | less
    · exact le_rfl
    · exact (format.position_lt positive less).le

theorem position_lt_iff {first second : ℚ} (positive : 0 < first) (also : 0 < second) :
    format.position first < format.position second ↔ first < second := by
  rw [← not_le, ← not_le, format.position_le_iff also positive]

theorem position_injective {first second : ℚ} (positive : 0 < first) (also : 0 < second)
    (same : format.position first = format.position second) : first = second :=
  le_antisymm ((format.position_le_iff positive also).mp same.le) ((format.position_le_iff also positive).mp same.ge)

theorem position_pos {value : ℚ} (positive : 0 < value) : 0 < format.position value := by
  have part : 0 < value / 2 ^ format.grade value := by positivity
  rw [position]
  positivity

theorem magnitude_pos {pattern : Nat} (positive : 0 < pattern) : 0 < format.magnitude pattern := by
  have some : (0 : ℚ) < format.significand pattern := by exact_mod_cast format.significand_pos positive
  rw [magnitude]
  positivity

theorem magnitude_zero : format.magnitude 0 = 0 := by
  rw [magnitude_eq, Ratio.value_eq_zero_iff (format.ratio_den_pos 0), ratio_num_eq_zero_iff]

theorem grade_within {pattern : Nat} {part : ℚ} (nonneg : 0 ≤ part) (less : part < 1)
    (positive : 0 < format.significand pattern + part) :
    format.grade ((format.significand pattern + part) * 2 ^ format.exponent pattern) = format.exponent pattern := by
  have bound : (format.significand pattern : ℚ) + 1 ≤ 2 * format.binade := by
    exact_mod_cast format.significand_lt pattern
  by_cases small : pattern < format.binade
  · have short : (format.significand pattern : ℚ) + 1 ≤ format.binade := by
      rw [significand, if_pos small]
      exact_mod_cast small
    have log : Int.log 2 ((format.significand pattern + part) * 2 ^ format.exponent pattern) <
        ((format.precision - 1 : Nat) : Int) + format.minExponent := by
      apply (Int.lt_zpow_iff_log_lt one_lt_two (by positivity)).mp
      rw [exponent, if_pos small, Nat.cast_ofNat, zpow_add₀ two_ne_zero, ← binade_eq]
      gcongr
      linarith
    rw [grade, exponent, if_pos small] at *
    omega
  · have low : (format.binade : ℚ) ≤ format.significand pattern := by
      rw [significand, if_neg small]
      exact_mod_cast Nat.le_add_left _ _
    have log : Int.log 2 ((format.significand pattern + part) * 2 ^ format.exponent pattern) =
        ((format.precision - 1 : Nat) : Int) + format.exponent pattern := by
      apply log_eq one_lt_two
      · rw [Nat.cast_ofNat, zpow_add₀ two_ne_zero, ← binade_eq]
        gcongr
        linarith
      · rw [Nat.cast_ofNat, add_right_comm, zpow_add₀ two_ne_zero, zpow_add₀ two_ne_zero, zpow_one, ← binade_eq]
        gcongr
        linarith
    have least := format.min_exponent_le pattern
    rw [grade, log]
    omega

-- A number that lies a part of the way from one pattern to the next.
theorem position_within {pattern : Nat} {part : ℚ} (nonneg : 0 ≤ part) (less : part < 1)
    (positive : 0 < format.significand pattern + part) :
    format.position (format.magnitude pattern + part * 2 ^ format.exponent pattern) = pattern + part := by
  have unit : (2 : ℚ) ^ format.exponent pattern ≠ 0 := by positivity
  have place : (((format.exponent pattern - format.minExponent).toNat * format.binade : Nat) : ℚ) +
      format.significand pattern = pattern := by
    exact_mod_cast format.place_eq pattern
  rw [magnitude, ← add_mul, position, format.grade_within nonneg less positive, mul_div_cancel_right₀ _ unit]
  linarith

theorem position_magnitude {pattern : Nat} (positive : 0 < pattern) :
    format.position (format.magnitude pattern) = pattern := by
  have some : (0 : ℚ) < format.significand pattern := by exact_mod_cast format.significand_pos positive
  have place : format.position (format.magnitude pattern + 0 * 2 ^ format.exponent pattern) = pattern + 0 :=
    format.position_within le_rfl one_pos (by linarith)
  rwa [zero_mul, add_zero, add_zero] at place

theorem magnitude_lt_iff {first second : Nat} (positive : 0 < first) (also : 0 < second) :
    format.magnitude first < format.magnitude second ↔ first < second := by
  rw [← format.position_lt_iff (format.magnitude_pos positive) (format.magnitude_pos also),
    format.position_magnitude positive, format.position_magnitude also, Nat.cast_lt]

theorem magnitude_le_iff {first second : Nat} (positive : 0 < first) (also : 0 < second) :
    format.magnitude first ≤ format.magnitude second ↔ first ≤ second := by
  rw [← not_lt, ← not_lt, format.magnitude_lt_iff also positive]

theorem nearest_mono {first second : Ratio} (even : format.binade % 2 = 0) (proper : 0 < first.den)
    (otherProper : 0 < second.den) (le : first.value ≤ second.value) :
    format.nearest first ≤ format.nearest second := by
  by_cases empty : first.num = 0
  · rw [nearest, if_pos empty]
    exact Nat.zero_le _
  · have some : 0 < first.value := by
      have bottom : (0 : ℚ) < first.den := by exact_mod_cast proper
      have top : (0 : ℚ) < first.num := by exact_mod_cast Nat.pos_of_ne_zero empty
      exact div_pos top bottom
    have filled : second.num ≠ 0 :=
      fun zero => (some.trans_le le).ne' ((Ratio.value_eq_zero_iff otherProper).mpr zero)
    obtain ⟨m, rounds, eq⟩ := format.nearest_rounds (Nat.pos_of_ne_zero empty) proper even
    obtain ⟨n, otherRounds, otherEq⟩ := format.nearest_rounds (Nat.pos_of_ne_zero filled) otherProper even
    have order := rounds.mono otherRounds
      ((format.position_le_iff some (some.trans_le le)).mpr le)
    rw [eq, otherEq]
    omega

theorem nearest_of_rounds {ratio : Ratio} (positive : 0 < ratio.num) (proper : 0 < ratio.den)
    (even : format.binade % 2 = 0) {n : Nat} (rounds : Rounds (format.position ratio.value) n) :
    format.nearest ratio = min format.infinity n := by
  obtain ⟨m, other, eq⟩ := format.nearest_rounds positive proper even
  rw [eq, other.unique rounds]

theorem rounds_of_nearest {ratio : Ratio} (positive : 0 < ratio.num) (proper : 0 < ratio.den)
    (even : format.binade % 2 = 0) (finite : format.nearest ratio < format.infinity) :
    Rounds (format.position ratio.value) (format.nearest ratio) := by
  obtain ⟨n, rounds, eq⟩ := format.nearest_rounds positive proper even
  have same : format.nearest ratio = n := by omega
  rwa [same]

-- Halfway from the largest finite number to the next power of two.
def limit : ℚ :=
  format.magnitude (format.infinity - 1) + 1 / 2 * 2 ^ format.exponent (format.infinity - 1)

theorem limit_pos : 0 < format.limit := by
  have finite : 0 ≤ format.magnitude (format.infinity - 1) := by
    rw [magnitude]
    positivity
  rw [limit]
  positivity

theorem position_limit (some : 0 < format.infinity) : format.position format.limit = format.infinity - 1 / 2 := by
  rw [limit, format.position_within (by norm_num) (by norm_num) (by positivity), Nat.cast_sub (by omega)]
  push_cast
  ring

-- At the limit itself the even neighbour is infinity.
theorem nearest_lt_infinity_iff {ratio : Ratio} (positive : 0 < ratio.num) (proper : 0 < ratio.den)
    (even : format.binade % 2 = 0) (some : 0 < format.infinity) :
    format.nearest ratio < format.infinity ↔ ratio.value < format.limit := by
  have value : 0 < ratio.value := by
    have bottom : (0 : ℚ) < ratio.den := by exact_mod_cast proper
    have top : (0 : ℚ) < ratio.num := by exact_mod_cast positive
    exact div_pos top bottom
  have evenTop : format.infinity % 2 = 0 := by rw [infinity, Nat.mul_mod, even, Nat.mul_zero]
  obtain ⟨n, rounds, eq⟩ := format.nearest_rounds positive proper even
  rw [← format.position_lt_iff value format.limit_pos, format.position_limit some, eq]
  constructor
  · intro finite
    have less : n + 1 ≤ format.infinity := by omega
    have step : (n : ℚ) + 1 ≤ format.infinity := by exact_mod_cast less
    refine lt_of_le_of_ne (by linarith [rounds.high]) fun top => ?_
    have last : (n : ℚ) + 1 = format.infinity := by linarith [rounds.high]
    have odd : n + 1 = format.infinity := by exact_mod_cast last
    have tie := rounds.tie (.inr (by linarith))
    omega
  · intro below
    have less : (n : ℚ) < format.infinity := by linarith [rounds.low]
    have finite : n < format.infinity := by exact_mod_cast less
    omega

theorem exists_pattern {significand : Nat} {exponent : Int} (positive : 0 < significand)
    (short : significand < 2 * format.binade) (least : format.minExponent ≤ exponent) :
    ∃ pattern, 0 < pattern ∧ format.magnitude pattern = significand * 2 ^ exponent := by
  have some : (0 : ℚ) < significand := by exact_mod_cast positive
  have value : (0 : ℚ) < significand * 2 ^ exponent := by positivity
  have grade : format.grade (significand * 2 ^ exponent) ≤ exponent := by
    have log : Int.log 2 ((significand : ℚ) * 2 ^ exponent) < 1 + ((format.precision - 1 : Nat) : Int) + exponent := by
      apply (Int.lt_zpow_iff_log_lt one_lt_two value).mp
      rw [Nat.cast_ofNat, zpow_add₀ two_ne_zero, zpow_add₀ two_ne_zero, zpow_one, ← binade_eq]
      gcongr
      exact_mod_cast short
    rw [Format.grade]
    omega
  obtain ⟨rise, gap⟩ := Int.eq_ofNat_of_zero_le (sub_nonneg.mpr grade)
  have quotient : (significand : ℚ) * 2 ^ exponent / 2 ^ format.grade (significand * 2 ^ exponent) =
      (significand * 2 ^ rise : Nat) := by
    rw [mul_div_assoc, ← zpow_sub₀ two_ne_zero, gap, zpow_natCast]
    push_cast
    rfl
  let pattern := (format.grade (significand * 2 ^ exponent) - format.minExponent).toNat * format.binade +
    significand * 2 ^ rise
  have present : 0 < pattern := Nat.add_pos_right _ (Nat.mul_pos positive (Nat.pow_pos (by decide)))
  refine ⟨pattern, present, format.position_injective (format.magnitude_pos present) value ?_⟩
  rw [format.position_magnitude present, position, quotient]
  push_cast [pattern]
  rfl

theorem binary32_magnitude_infinity : binary32.magnitude binary32.infinity = 2 ^ (128 : Int) := by
  rw [magnitude, show binary32.significand binary32.infinity = 2 ^ 23 from rfl,
    show binary32.exponent binary32.infinity = 105 from rfl, Nat.cast_pow, Nat.cast_ofNat, ← zpow_natCast,
    ← zpow_add₀ two_ne_zero]
  rfl

theorem binary64_magnitude_infinity : binary64.magnitude binary64.infinity = 2 ^ (1024 : Int) := by
  rw [magnitude, show binary64.significand binary64.infinity = 2 ^ 52 from rfl,
    show binary64.exponent binary64.infinity = 972 from rfl, Nat.cast_pow, Nat.cast_ofNat, ← zpow_natCast,
    ← zpow_add₀ two_ne_zero]
  rfl

end Format

end EscapeTime
