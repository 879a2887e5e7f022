import EscapeTime.Proofs.Binary.Packed
import EscapeTime.Proofs.Binary.Position

set_option autoImplicit false

namespace EscapeTime.Binary

open Float.Model (UnpackedFloat)
open Float.Model.UnpackedFloat

section Patterns

theorem binary64_binade : Format.binary64.binade = 2 ^ 52 := rfl

theorem binary64_min_exponent : Format.binary64.minExponent = -1074 := rfl

theorem binary64_infinity : Format.binary64.infinity = 2047 * 2 ^ 52 := rfl

theorem to_bits_of_bits {bits : UInt64} (valid : Float.Model.Format.binary64.Valid bits.toBitVec) :
    (Float.ofBits bits).toBits = bits :=
  congrArg Float.Model.toBits (model_pack_unpack ⟨bits, valid⟩)

theorem bits_eq (bits : BitVec 64) :
    bits.toNat = (@unpackSign .binary64 bits).toNat * 2 ^ 63 + (@unpackExponent .binary64 bits).toNat * 2 ^ 52 +
      (@unpackMantissa .binary64 bits).toNat := by
  have whole := congrArg BitVec.toNat (@pack_components_unpack .binary64 bits)
  rw [pack_components_to_nat, sign_to_bit_vec] at whole
  exact whole.symm

theorem finite_congr (sign : Sign) {first second : Nat} {power other : Int} (positive : 0 < first)
    (same : first = second) (also : power = other) :
    UnpackedFloat.finite sign first power positive = .finite sign second other (same ▸ positive) := by
  subst same also
  rfl

theorem magnitude64_eq (x : Float) :
    magnitude64 x = (@unpackExponent .binary64 x.toBits.toBitVec).toNat * 2 ^ 52 +
      (@unpackMantissa .binary64 x.toBits.toBitVec).toNat := by
  have whole := bits_eq x.toBits.toBitVec
  have exponent : (@unpackExponent .binary64 x.toBits.toBitVec).toNat < 2 ^ 11 := BitVec.isLt _
  have mantissa : (@unpackMantissa .binary64 x.toBits.toBitVec).toNat < 2 ^ 52 := BitVec.isLt _
  have bits : x.toBits.toBitVec.toNat = x.toBits.toNat := rfl
  have sign : Format.binary64.signBit = 2 ^ 63 := rfl
  rw [magnitude64, sign]
  omega

theorem unpack_zero {x : Float} (zero : magnitude64 x = 0) : ∃ sign, x.toModel.unpack = .zero sign := by
  rw [magnitude64_eq] at zero
  have exponent : @unpackExponent .binary64 x.toBits.toBitVec = 0#11 := BitVec.eq_of_toNat_eq (by simp; omega)
  have mantissa : @unpackMantissa .binary64 x.toBits.toBitVec = 0#52 := BitVec.eq_of_toNat_eq (by simp; omega)
  refine ⟨.ofBitVec (@unpackSign .binary64 x.toBits.toBitVec), ?_⟩
  have unpacked : x.toModel.unpack = unpack .binary64 x.toBits.toBitVec := rfl
  rw [unpacked, unpack, if_neg (by rw [exponent]; decide), if_pos exponent, dif_pos mantissa]

theorem unpack_positive {x : Float} (positive : 0 < magnitude64 x) (finite : magnitude64 x < Format.binary64.infinity) :
    ∃ sign present, x.toModel.unpack = .finite sign (Format.binary64.significand (magnitude64 x))
      (Format.binary64.exponent (magnitude64 x)) present := by
  have unpacked : x.toModel.unpack = unpack .binary64 x.toBits.toBitVec := rfl
  have whole := magnitude64_eq x
  have mantissa : (@unpackMantissa .binary64 x.toBits.toBitVec).toNat < 2 ^ 52 := BitVec.isLt _
  rw [binary64_infinity] at finite
  have bounded : @unpackExponent .binary64 x.toBits.toBitVec ≠ -1#11 := by
    intro full
    have top : (@unpackExponent .binary64 x.toBits.toBitVec).toNat = 2047 := congrArg BitVec.toNat full
    omega
  rw [unpacked, unpack, if_neg bounded]
  by_cases low : @unpackExponent .binary64 x.toBits.toBitVec = 0#11
  · have least : (@unpackExponent .binary64 x.toBits.toBitVec).toNat = 0 := congrArg BitVec.toNat low
    have small : magnitude64 x < Format.binary64.binade := by rw [binary64_binade]; omega
    have filled : @unpackMantissa .binary64 x.toBits.toBitVec ≠ 0#52 := by
      intro empty
      have none : (@unpackMantissa .binary64 x.toBits.toBitVec).toNat = 0 := congrArg BitVec.toNat empty
      omega
    rw [if_pos low, dif_neg filled]
    refine ⟨_, _, finite_congr _ _ ?_ ?_⟩
    · rw [Format.significand, if_pos small, whole, least, Nat.zero_mul, Nat.zero_add]
    · rw [Format.exponent, if_pos small, least]
      rfl
  · have some : (@unpackExponent .binary64 x.toBits.toBitVec).toNat ≠ 0 := fun none => low (BitVec.eq_of_toNat_eq none)
    have large : ¬ magnitude64 x < Format.binary64.binade := by rw [binary64_binade]; omega
    have hidden : (1#1 ++ @unpackMantissa .binary64 x.toBits.toBitVec).toNat =
        2 ^ 52 + (@unpackMantissa .binary64 x.toBits.toBitVec).toNat := hidden_to_nat _
    rw [if_neg low]
    refine ⟨_, _, finite_congr _ _ ?_ ?_⟩
    · rw [hidden, Format.significand, if_neg large, binary64_binade]
      omega
    · rw [Format.exponent, if_neg large, binary64_binade, binary64_min_exponent]
      have bias : ((Float.Model.Format.binary64.exponentBias : Nat) : Int) = 1023 := rfl
      have width : ((Float.Model.Format.binary64.mantissaBitsWithoutImplicit : Nat) : Int) = 52 := rfl
      omega

theorem pack_pattern (sign : Sign) {pattern : Nat} (finite : pattern < Format.binary64.infinity)
    (present : 0 < Format.binary64.significand pattern) :
    (pack .binary64 (.finite sign (Format.binary64.significand pattern) (Format.binary64.exponent pattern) present)).toNat =
      sign.toBitVec.toNat * 2 ^ 63 + pattern := by
  rw [binary64_infinity] at finite
  have low : (BitVec.ofNat 52 pattern).toNat = pattern % 2 ^ 52 := BitVec.toNat_ofNat _ _
  by_cases small : pattern < Format.binary64.binade
  · have short := small
    rw [binary64_binade] at short
    have mantissa : Format.binary64.significand pattern = (BitVec.ofNat 52 pattern).toNat := by
      rw [Format.significand, if_pos small, low]
      omega
    have power : Format.binary64.exponent pattern = -1074 := by
      rw [Format.exponent, if_pos small, binary64_min_exponent]
    rw [finite_congr sign present mantissa power, pack_subnormal (by decide) _ _ _ rfl, pack_components_to_nat, low]
    simp only [BitVec.toNat_zero]
    omega
  · have long := small
    rw [binary64_binade] at long
    have high : (BitVec.ofNat 11 (pattern / 2 ^ 52)).toNat = pattern / 2 ^ 52 := by
      rw [BitVec.toNat_ofNat]
      omega
    have bounded : BitVec.ofNat 11 (pattern / 2 ^ 52) ≠ -1#11 := by
      intro full
      have top : pattern / 2 ^ 52 = 2047 := high.symm.trans (congrArg BitVec.toNat full)
      omega
    have mantissa : Format.binary64.significand pattern = (1#1 ++ BitVec.ofNat 52 pattern).toNat := by
      rw [hidden_to_nat, low, Format.significand, if_neg small, binary64_binade]
      omega
    have power : Format.binary64.exponent pattern + Float.Model.Format.binary64.exponentBias +
        Float.Model.Format.binary64.mantissaBitsWithoutImplicit = (BitVec.ofNat 11 (pattern / 2 ^ 52)).toNat := by
      have bias : ((Float.Model.Format.binary64.exponentBias : Nat) : Int) = 1023 := rfl
      have width : ((Float.Model.Format.binary64.mantissaBitsWithoutImplicit : Nat) : Int) = 52 := rfl
      rw [high, Format.exponent, if_neg small, binary64_binade, binary64_min_exponent]
      omega
    rw [finite_congr sign present mantissa rfl, pack_normal sign _ bounded _ _ power, pack_components_to_nat, high, low]
    omega

end Patterns

section Rounding

theorem shift_exact (mantissa count : Nat) :
    ((⟨mantissa * 2 ^ count, false, false⟩ : ExtendedMantissa) >>> count) = ⟨mantissa, false, false⟩ := by
  induction count generalizing mantissa with
  | zero => simp [HShiftRight.hShiftRight, Nat.repeat]
  | succ count ih =>
      have step : ((⟨mantissa * 2 ^ (count + 1), false, false⟩ : ExtendedMantissa) >>> (count + 1)) =
          ((⟨mantissa * 2 * 2 ^ count, false, false⟩ : ExtendedMantissa) >>> count).shiftRightOne := by
        rw [Nat.pow_succ', ← Nat.mul_assoc]
        rfl
      rw [step, ih]
      simp [ExtendedMantissa.shiftRightOne]

-- The exponent that rounding aims at is that of the pattern, however many zeros follow its bits.
theorem target_exponent_eq {pattern : Nat} (positive : 0 < pattern) (count : Nat) :
    Float.Model.Format.binary64.targetExponent
        (Float.Model.totalExponent (Format.binary64.significand pattern * 2 ^ count)
          (Format.binary64.exponent pattern - count)) =
      Format.binary64.exponent pattern := by
  have some := Format.binary64.significand_pos positive
  have log : (Format.binary64.significand pattern * 2 ^ count).log2 =
      (Format.binary64.significand pattern).log2 + count := by
    rw [Nat.log2_eq_iff (Nat.mul_pos some (Nat.pow_pos (by decide))).ne', Nat.pow_add, Nat.add_right_comm,
      Nat.pow_add _ _ count]
    exact ⟨Nat.mul_le_mul_right _ (Nat.log2_self_le some.ne'),
      Nat.mul_lt_mul_of_pos_right Nat.lt_log2_self (Nat.pow_pos (by decide))⟩
  have bits : ((Float.Model.Format.binary64.mantissaBits : Nat) : Int) = 53 := rfl
  have least : Float.Model.Format.binary64.minExponent = -1074 := rfl
  rw [Float.Model.totalExponent, Float.Model.Format.targetExponent, log, bits, least]
  by_cases small : pattern < Format.binary64.binade
  · have short : (Format.binary64.significand pattern).log2 < 52 := by
      rw [Nat.log2_lt some.ne', Format.significand, if_pos small]
      exact small
    rw [Format.exponent, if_pos small, binary64_min_exponent]
    omega
  · have full : (Format.binary64.significand pattern).log2 = 52 := by
      rw [Nat.log2_eq_iff some.ne']
      have below := Format.binary64.significand_lt pattern
      rw [binary64_binade] at below
      rw [Format.significand, if_neg small, binary64_binade] at below ⊢
      omega
    have above := Format.binary64.min_exponent_le pattern
    rw [binary64_min_exponent] at above
    rw [full]
    omega

theorem shift_target {pattern : Nat} (positive : 0 < pattern) (count : Nat) :
    shiftToTargetExponent .binary64 (Format.binary64.significand pattern * 2 ^ count)
        (Format.binary64.exponent pattern - count) .exact =
      (⟨Format.binary64.significand pattern, false, false⟩, Format.binary64.exponent pattern) := by
  have amount : (Format.binary64.exponent pattern - (Format.binary64.exponent pattern - count)).toNat = count := by
    omega
  rw [shiftToTargetExponent, target_exponent_eq positive, shiftToExponent, amount,
    ExtendedMantissa.ofMantissaAndAccuracy, shift_exact, sub_add_cancel]

theorem round_exact (sign : Sign) {pattern : Nat} (positive : 0 < pattern) (count : Nat) :
    roundWithAccuracy .binary64 sign (Format.binary64.significand pattern * 2 ^ count)
        (Format.binary64.exponent pattern - count) .exact =
      .finite sign (Format.binary64.significand pattern) (Format.binary64.exponent pattern)
        (Format.binary64.significand_pos positive) := by
  have again := shift_target positive 0
  rw [pow_zero, Nat.mul_one, Nat.cast_zero, sub_zero] at again
  have rounded : (⟨Format.binary64.significand pattern, false, false⟩ : ExtendedMantissa).roundedMantissa =
      Format.binary64.significand pattern := rfl
  simp only [roundWithAccuracy, shift_target positive, rounded, again]
  rw [dif_neg (Format.binary64.significand_pos positive).ne']

end Rounding

theorem sign_mul_self (sign : Sign) : sign * sign = .positive := by
  cases sign <;> rfl

theorem to_bits_square (x : Float) :
    (x * x).toBits.toNat = (pack .binary64 (mul .binary64 x.toModel.unpack x.toModel.unpack)).toNat :=
  rfl

theorem bits_square_zero {x : Float} (zero : magnitude64 x = 0) : (x * x).toBits.toNat = 0 := by
  obtain ⟨sign, unpacked⟩ := unpack_zero zero
  rw [to_bits_square, unpacked, mul, sign_mul_self]
  rfl

theorem bits_square {x : Float} {square : Nat} (positive : 0 < magnitude64 x)
    (finite : magnitude64 x < Format.binary64.infinity) (some : 0 < square) (bounded : square < Format.binary64.infinity)
    (value : Format.binary64.magnitude square = Format.binary64.magnitude (magnitude64 x) ^ 2)
    (fits : 2 * Format.binary64.exponent (magnitude64 x) ≤ Format.binary64.exponent square) :
    (x * x).toBits.toNat = square := by
  obtain ⟨sign, present, unpacked⟩ := unpack_positive positive finite
  obtain ⟨count, gap⟩ := Int.eq_ofNat_of_zero_le (sub_nonneg.mpr fits)
  have power : Format.binary64.exponent (magnitude64 x) + Format.binary64.exponent (magnitude64 x) =
      Format.binary64.exponent square - count := by
    omega
  have product : Format.binary64.significand (magnitude64 x) * Format.binary64.significand (magnitude64 x) =
      Format.binary64.significand square * 2 ^ count := by
    have unit : (2 : ℚ) ^ (Format.binary64.exponent square - count) ≠ 0 := by positivity
    have scaled : (Format.binary64.significand square : ℚ) * 2 ^ count * 2 ^ (Format.binary64.exponent square - count) =
        (Format.binary64.significand (magnitude64 x)) * (Format.binary64.significand (magnitude64 x)) *
          2 ^ (Format.binary64.exponent square - count) := by
      calc (Format.binary64.significand square : ℚ) * 2 ^ count * 2 ^ (Format.binary64.exponent square - count)
          = Format.binary64.magnitude square := by
            rw [Format.magnitude, mul_assoc, ← zpow_natCast, ← zpow_add₀ two_ne_zero, add_sub_cancel]
        _ = Format.binary64.magnitude (magnitude64 x) ^ 2 := value
        _ = _ := by
            rw [Format.magnitude, ← power, zpow_add₀ two_ne_zero]
            ring
    exact_mod_cast (mul_right_cancel₀ unit scaled).symm
  rw [to_bits_square, unpacked, mul, sign_mul_self, power, product, round_exact .positive some,
    pack_pattern .positive bounded]
  exact Nat.zero_add square

section Widening

theorem to_bits_of_magnitude64 (negative : Bool) {pattern : Nat} (finite : pattern < Format.binary64.infinity) :
    (ofMagnitude64 negative pattern).toBits.toNat =
      if negative then pattern + Format.binary64.signBit else pattern := by
  have sign : Format.binary64.signBit = 2 ^ 63 := rfl
  rw [binary64_infinity] at finite
  have small : (if negative then pattern + Format.binary64.signBit else pattern) < 2 ^ 64 := by
    rw [sign]
    split <;> omega
  have bits : (UInt64.ofNat (if negative then pattern + Format.binary64.signBit else pattern)).toNat =
      if negative then pattern + Format.binary64.signBit else pattern := by
    rw [UInt64.toNat_ofNat']
    exact Nat.mod_eq_of_lt small
  rw [ofMagnitude64, to_bits_of_bits, bits]
  refine ⟨fun full => absurd (congrArg BitVec.toNat full) ?_⟩
  have whole := bits_eq (UInt64.ofNat (if negative then pattern + Format.binary64.signBit else pattern)).toBitVec
  have top : (-1#11 : BitVec 11).toNat = 2047 := rfl
  have same : (UInt64.ofNat (if negative then pattern + Format.binary64.signBit else pattern)).toBitVec.toNat =
      if negative then pattern + Format.binary64.signBit else pattern := bits
  have mantissa : (@unpackMantissa .binary64 (UInt64.ofNat
      (if negative then pattern + Format.binary64.signBit else pattern)).toBitVec).toNat < 2 ^ 52 := BitVec.isLt _
  rw [same, sign] at whole
  intro full
  have exponent : (@unpackExponent .binary64 (UInt64.ofNat
      (if negative then pattern + Format.binary64.signBit else pattern)).toBitVec).toNat = 2047 := full
  rw [sign] at exponent
  cases negative <;> simp only [Bool.false_eq_true, if_false, if_true] at whole exponent <;> omega

theorem magnitude64_of_magnitude64 (negative : Bool) {pattern : Nat} (finite : pattern < Format.binary64.infinity) :
    magnitude64 (ofMagnitude64 negative pattern) = pattern := by
  have sign : Format.binary64.signBit = 2 ^ 63 := rfl
  rw [magnitude64, to_bits_of_magnitude64 negative finite, sign]
  rw [binary64_infinity] at finite
  split <;> omega

theorem is_negative64_of_magnitude64 (negative : Bool) {pattern : Nat} (finite : pattern < Format.binary64.infinity) :
    isNegative64 (ofMagnitude64 negative pattern) = negative := by
  have sign : Format.binary64.signBit = 2 ^ 63 := rfl
  rw [isNegative64, to_bits_of_magnitude64 negative finite, sign]
  rw [binary64_infinity] at finite
  cases negative
  · simp only [Bool.false_eq_true, if_false, decide_eq_false_iff_not]
    omega
  · simp only [if_true, decide_eq_true_eq]
    omega

theorem narrow_of_magnitude64 (negative : Bool) {pattern : Nat} (finite : pattern < Format.binary64.infinity) :
    narrow (ofMagnitude64 negative pattern) = ofMagnitude32 negative (Format.binary64.convert .binary32 pattern) := by
  rw [narrow, is_negative64_of_magnitude64 negative finite, magnitude64_of_magnitude64 negative finite]

theorem narrow_infinity (negative : Bool) :
    narrow (ofMagnitude64 negative Format.binary64.infinity) = ofMagnitude32 negative Format.binary32.infinity := by
  cases negative <;> decide

theorem binary32_magnitude_lt {pattern : Nat} (finite : pattern < Format.binary32.infinity) :
    Format.binary32.magnitude pattern < 2 ^ (128 : Int) := by
  by_cases zero : pattern = 0
  · rw [zero, Format.magnitude_zero]
    positivity
  · rw [← Format.binary32_magnitude_infinity, Format.binary32.magnitude_lt_iff (Nat.pos_of_ne_zero zero) (by decide)]
    exact finite

theorem binary64_finite {pattern : Nat} (positive : 0 < pattern) (small : Format.binary64.magnitude pattern < 2 ^ (1024 : Int)) :
    pattern < Format.binary64.infinity := by
  rwa [← Format.binary64_magnitude_infinity, Format.binary64.magnitude_lt_iff positive (by decide)] at small

theorem convert_exact {pattern : Nat} (positive : 0 < pattern) (finite : pattern < Format.binary32.infinity) :
    ∃ wide, 0 < wide ∧ wide < Format.binary64.infinity ∧
      Format.binary64.magnitude wide = Format.binary32.magnitude pattern ∧
      Format.binary32.convert .binary64 pattern = wide := by
  have narrow : Format.binary32.significand pattern < 2 * Format.binary64.binade :=
    (Format.binary32.significand_lt pattern).trans (by decide)
  have least : Format.binary64.minExponent ≤ Format.binary32.exponent pattern :=
    le_trans (by decide) (Format.binary32.min_exponent_le pattern)
  obtain ⟨wide, some, same⟩ :=
    Format.binary64.exists_pattern (Format.binary32.significand_pos positive) narrow least
  have value : Format.binary64.magnitude wide = Format.binary32.magnitude pattern := same
  have bounded : wide < Format.binary64.infinity := by
    refine binary64_finite some ?_
    rw [value]
    exact (binary32_magnitude_lt finite).trans (zpow_lt_zpow_right₀ one_lt_two (by decide))
  refine ⟨wide, some, bounded, value, ?_⟩
  have ratios : (Format.binary32.ratio pattern).value = (Format.binary64.ratio wide).value := by
    rw [← Format.magnitude_eq, ← Format.magnitude_eq, value]
  rw [Format.convert, if_neg (by omega), if_neg (by omega),
    Format.nearest_congr .binary64 ratios (Format.ratio_den_pos _ _) (Format.ratio_den_pos _ _),
    Format.nearest_ratio .binary64 bounded]

theorem magnitude64_widen {x : Float32} (positive : 0 < magnitude32 x)
    (finite : magnitude32 x < Format.binary32.infinity) :
    0 < magnitude64 (widen x) ∧ magnitude64 (widen x) < Format.binary64.infinity ∧
      Format.binary64.magnitude (magnitude64 (widen x)) = Format.binary32.magnitude (magnitude32 x) := by
  obtain ⟨wide, some, bounded, value, converted⟩ := convert_exact positive finite
  rw [widen, converted, magnitude64_of_magnitude64 _ bounded]
  exact ⟨some, bounded, value⟩

theorem magnitude64_widen_zero {x : Float32} (zero : magnitude32 x = 0) : magnitude64 (widen x) = 0 := by
  have none : Format.binary32.convert .binary64 0 = 0 := by decide
  rw [widen, zero, none, magnitude64_of_magnitude64 _ (by decide)]

theorem binary32_magnitude_ge {pattern : Nat} (positive : 0 < pattern) :
    (2 : ℚ) ^ (-149 : Int) ≤ Format.binary32.magnitude pattern := by
  have some : (1 : ℚ) ≤ Format.binary32.significand pattern := by
    exact_mod_cast Format.binary32.significand_pos positive
  calc (2 : ℚ) ^ (-149 : Int)
      ≤ 2 ^ Format.binary32.exponent pattern :=
        zpow_le_zpow_right₀ one_le_two (Format.binary32.min_exponent_le pattern)
    _ ≤ Format.binary32.magnitude pattern := le_mul_of_one_le_left (by positivity) some

-- Single-precision numbers are far from the smallest double-precision ones, so all bits are in use.
theorem significand_wide {wide : Nat} (large : (2 : ℚ) ^ (-1022 : Int) ≤ Format.binary64.magnitude wide) :
    2 ^ 52 ≤ Format.binary64.significand wide := by
  by_contra short
  have small : wide < Format.binary64.binade := by
    by_contra other
    rw [Format.significand, if_neg other, binary64_binade] at short
    omega
  have most : Format.binary64.magnitude wide < 2 ^ (-1022 : Int) := by
    have bound : (wide : ℚ) < 2 ^ (52 : Int) := by exact_mod_cast small
    calc Format.binary64.magnitude wide
        = wide * 2 ^ (-1074 : Int) := by
          rw [Format.magnitude, Format.significand, Format.exponent, if_pos small, if_pos small, binary64_min_exponent]
      _ < 2 ^ (52 : Int) * 2 ^ (-1074 : Int) := by gcongr
      _ = 2 ^ (-1022 : Int) := by rw [← zpow_add₀ two_ne_zero]; rfl
  exact absurd large (not_le.mpr most)

-- The bits of a single-precision number leave room for its square.
theorem bits_square_widen {x : Float32} (finite : magnitude32 x < Format.binary32.infinity) :
    ∃ square < Format.binary64.infinity, (widen x * widen x).toBits.toNat = square ∧
      Format.binary64.magnitude square = Format.binary32.magnitude (magnitude32 x) ^ 2 := by
  by_cases zero : magnitude32 x = 0
  · refine ⟨0, by decide, bits_square_zero (magnitude64_widen_zero zero), ?_⟩
    rw [zero, Format.magnitude_zero, Format.magnitude_zero]
    norm_num
  · have positive : 0 < magnitude32 x := Nat.pos_of_ne_zero zero
    obtain ⟨some, bounded, value⟩ := magnitude64_widen positive finite
    have present := Format.binary32.significand_pos positive
    have short : Format.binary32.significand (magnitude32 x) ^ 2 < 2 * Format.binary64.binade := by
      have below : Format.binary32.significand (magnitude32 x) < 2 ^ 24 := Format.binary32.significand_lt _
      rw [binary64_binade]
      nlinarith
    have least : Format.binary64.minExponent ≤ 2 * Format.binary32.exponent (magnitude32 x) := by
      have above : -149 ≤ Format.binary32.exponent (magnitude32 x) := Format.binary32.min_exponent_le _
      rw [binary64_min_exponent]
      omega
    obtain ⟨square, filled, same⟩ := Format.binary64.exists_pattern (Nat.pow_pos present) short least
    have squared : Format.binary64.magnitude square = Format.binary32.magnitude (magnitude32 x) ^ 2 := by
      rw [same, Format.magnitude, mul_pow, ← zpow_natCast (2 ^ Format.binary32.exponent (magnitude32 x)) 2,
        ← zpow_mul, mul_comm 2]
      push_cast
      rfl
    have finiteSquare : square < Format.binary64.infinity := by
      have low := Format.binary32.magnitude_pos positive
      have high := binary32_magnitude_lt finite
      refine binary64_finite filled ?_
      calc Format.binary64.magnitude square
          = Format.binary32.magnitude (magnitude32 x) ^ 2 := squared
        _ < (2 ^ (128 : Int)) ^ 2 := by gcongr
        _ ≤ 2 ^ (1024 : Int) := by
            rw [← zpow_natCast, ← zpow_mul]
            exact zpow_le_zpow_right₀ one_le_two (by decide)
    refine ⟨square, finiteSquare, bits_square some bounded filled finiteSquare (by rw [squared, value]) ?_, squared⟩
    have large : (2 : ℚ) ^ (-1022 : Int) ≤ Format.binary64.magnitude (magnitude64 (widen x)) := by
      rw [value]
      exact (zpow_le_zpow_right₀ one_le_two (by decide)).trans (binary32_magnitude_ge positive)
    have wide : ((2 : ℚ) ^ (52 : Int)) ≤ Format.binary64.significand (magnitude64 (widen x)) := by
      exact_mod_cast significand_wide large
    have narrow : (Format.binary64.significand square : ℚ) < 2 ^ (53 : Int) := by
      exact_mod_cast Format.binary64.significand_lt square
    have powers : (2 : ℚ) ^ (104 + 2 * Format.binary64.exponent (magnitude64 (widen x))) <
        2 ^ (53 + Format.binary64.exponent square) := by
      calc (2 : ℚ) ^ (104 + 2 * Format.binary64.exponent (magnitude64 (widen x)))
          = (2 ^ (52 : Int) * 2 ^ Format.binary64.exponent (magnitude64 (widen x))) ^ 2 := by
            rw [← zpow_add₀ two_ne_zero, ← zpow_natCast, ← zpow_mul]
            congr 1
            push_cast
            ring
        _ ≤ Format.binary64.magnitude (magnitude64 (widen x)) ^ 2 := by
            rw [Format.magnitude]
            gcongr
        _ = Format.binary64.magnitude square := by rw [squared, value]
        _ < 2 ^ (53 + Format.binary64.exponent square) := by
            rw [Format.magnitude, zpow_add₀ two_ne_zero]
            gcongr
    have exponents := (zpow_lt_zpow_iff_right₀ one_lt_two).mp powers
    omega

end Widening

end EscapeTime.Binary
