import EscapeTime.Binary
import Mathlib

set_option autoImplicit false

namespace EscapeTime.Binary

open Float.Model (UnpackedFloat)
open Float.Model.UnpackedFloat

section Components

variable {spec : Float.Model.Format}

theorem sign_to_bit_vec (bit : BitVec 1) : (Sign.ofBitVec bit).toBitVec = bit := by
  revert bit
  decide

theorem sign_of_bit_vec (sign : Sign) : Sign.ofBitVec sign.toBitVec = sign := by
  cases sign <;> rfl

theorem unpack_sign_pack_components (sign : Sign) (exponent : BitVec spec.exponentBits)
    (mantissa : BitVec spec.mantissaBitsWithoutImplicit) :
    unpackSign (packComponents spec sign exponent mantissa) = sign.toBitVec := by
  ext index inside
  obtain rfl : index = 0 := by omega
  simp [unpackSign, packComponents, BitVec.getLsbD_append, BitVec.getLsbD_eq_getElem, BitVec.getElem_append]

theorem pack_components_unpack (bits : BitVec spec.numBits) :
    packComponents spec (.ofBitVec (unpackSign bits)) (unpackExponent bits) (unpackMantissa bits) = bits := by
  rw [packComponents, sign_to_bit_vec]
  ext index inside
  by_cases low : index < spec.mantissaBitsWithoutImplicit
  · simp [unpackMantissa, BitVec.getElem_append, low, BitVec.getLsbD_eq_getElem, inside]
  · by_cases middle : index - spec.mantissaBitsWithoutImplicit < spec.exponentBits
    · have place : spec.mantissaBitsWithoutImplicit + (index - spec.mantissaBitsWithoutImplicit) = index := by
        omega
      simp [unpackExponent, BitVec.getElem_append, low, middle, place, BitVec.getLsbD_eq_getElem, inside]
    · have place : spec.mantissaBitsWithoutImplicit + spec.exponentBits +
          (index - spec.mantissaBitsWithoutImplicit - spec.exponentBits) = index := by
        omega
      simp [unpackSign, BitVec.getElem_append, low, middle, place, BitVec.getLsbD_eq_getElem, inside]

theorem hidden_to_nat {width : Nat} (mantissa : BitVec width) : (1#1 ++ mantissa).toNat = 2 ^ width + mantissa.toNat := by
  rw [BitVec.toNat_append, ← Nat.shiftLeft_add_eq_or_of_lt mantissa.isLt]
  simp [Nat.shiftLeft_eq]

theorem pack_zero (sign : Sign) : pack spec (.zero sign) = packComponents spec sign 0#_ 0#_ := rfl

theorem pack_infinity (sign : Sign) : pack spec (.infinity sign) = packComponents spec sign (-1#_) 0#_ := rfl

theorem pack_subnormal (wide : 1 < spec.exponentBits) (sign : Sign)
    (mantissa : BitVec spec.mantissaBitsWithoutImplicit) (positive : 0 < mantissa.toNat) {exponent : Int}
    (least : exponent + spec.exponentBias + spec.mantissaBitsWithoutImplicit = 1) :
    pack spec (.finite sign mantissa.toNat exponent positive) = packComponents spec sign 0#_ mantissa := by
  have room : 2 ^ 2 ≤ 2 ^ spec.exponentBits := Nat.pow_le_pow_right (by decide) wide
  have short : mantissa.toNat.log2 < spec.mantissaBitsWithoutImplicit :=
    (Nat.log2_lt (by omega)).mpr mantissa.isLt
  have finite : ¬ 2 ^ spec.exponentBits ≤ Int.toNat 1 + 1 := by
    simp only [Int.toNat_one]
    omega
  have subnormal : ¬ mantissa.toNat.log2 + 1 = spec.mantissaBits := by
    rw [Float.Model.Format.mantissaBits]
    omega
  simp only [pack, least, if_neg finite, if_neg subnormal, BitVec.ofNat_toNat, BitVec.setWidth_eq]

theorem pack_normal (sign : Sign) (exponent : BitVec spec.exponentBits) (finite : exponent ≠ -1#_)
    (mantissa : BitVec spec.mantissaBitsWithoutImplicit) (positive : 0 < (1#1 ++ mantissa).toNat)
    {power : Int} (biased : power + spec.exponentBias + spec.mantissaBitsWithoutImplicit = exponent.toNat) :
    pack spec (.finite sign (1#1 ++ mantissa).toNat power positive) =
      packComponents spec sign exponent mantissa := by
  have bounded : ¬ 2 ^ spec.exponentBits ≤ exponent.toNat + 1 := by
    intro large
    apply finite
    apply BitVec.eq_of_toNat_eq
    rw [BitVec.neg_one_eq_allOnes, BitVec.toNat_allOnes]
    have := exponent.isLt
    omega
  have long : (1#1 ++ mantissa).toNat.log2 = spec.mantissaBitsWithoutImplicit := by
    rw [Nat.log2_eq_iff (by omega), hidden_to_nat, Nat.pow_succ]
    have := mantissa.isLt
    omega
  have normal : (1#1 ++ mantissa).toNat.log2 + 1 = spec.mantissaBits := by
    rw [long, Float.Model.Format.mantissaBits, Nat.add_comm]
  have kept : BitVec.ofNat spec.mantissaBitsWithoutImplicit (1#1 ++ mantissa).toNat = mantissa := by
    apply BitVec.eq_of_toNat_eq
    rw [hidden_to_nat, BitVec.toNat_ofNat, Nat.add_mod_left, Nat.mod_eq_of_lt mantissa.isLt]
  simp only [pack, biased, Int.toNat_natCast, if_neg bounded, if_pos normal, kept, BitVec.ofNat_toNat,
    BitVec.setWidth_eq]

-- Only patterns of no number are changed, and of these one is left alone.
theorem pack_unpack (wide : 1 < spec.exponentBits) {bits : BitVec spec.numBits} (valid : spec.Valid bits) :
    pack spec (unpack spec bits) = bits := by
  have whole := pack_components_unpack bits
  rw [unpack]
  split
  · rename_i full
    split
    · rename_i empty
      rw [pack_infinity, ← full, ← empty, whole]
    · rename_i filled
      exact (valid.eq_packedNaN full filled).symm
  · rename_i finite
    split
    · rename_i low
      split
      · rename_i empty
        rw [pack_zero, ← low, ← empty, whole]
      · have zero : (unpackExponent bits).toNat = 0 := by rw [low, BitVec.toNat_zero]
        rw [pack_subnormal wide, ← low, whole]
        omega
    · rw [pack_normal _ _ finite, whole]
      omega

theorem unpack_negate (sign : Sign) (exponent : BitVec spec.exponentBits)
    (mantissa : BitVec spec.mantissaBitsWithoutImplicit) :
    unpack spec (packComponents spec (-sign) exponent mantissa) =
      (unpack spec (packComponents spec sign exponent mantissa)).neg := by
  simp only [unpack, unpackExponent_packComponents, unpackMantissa_packComponents, unpack_sign_pack_components,
    sign_of_bit_vec]
  split
  · split <;> rfl
  · split
    · split <;> rfl
    · rfl

end Components

theorem model_pack_unpack (model : Float.Model) : Float.Model.pack model.unpack = model := by
  obtain ⟨bits, valid⟩ := model
  have same := pack_unpack (by decide) valid
  simp only [Float.Model.pack, Float.Model.unpack, same]

theorem of_bits_to_bits (x : Float) : Float.ofBits x.toBits = x :=
  congrArg Float.ofModel (model_pack_unpack x.toModel)

theorem of_bits_negate {bits negated : UInt64} (sign : Sign)
    (exponent : BitVec Float.Model.Format.binary64.exponentBits) (finite : exponent ≠ -1#_)
    (mantissa : BitVec Float.Model.Format.binary64.mantissaBitsWithoutImplicit)
    (split : bits.toBitVec = packComponents .binary64 sign exponent mantissa)
    (changed : negated.toBitVec = packComponents .binary64 (-sign) exponent mantissa) :
    -Float.ofBits bits = Float.ofBits negated := by
  have valid : Float.Model.Format.binary64.Valid bits.toBitVec := by
    refine ⟨fun full => absurd full ?_⟩
    rwa [split, unpackExponent_packComponents]
  have kept : Float.Model.ofBits bits = ⟨bits, valid⟩ := model_pack_unpack ⟨bits, valid⟩
  have negation : -Float.ofBits bits = .ofModel (.pack (Float.Model.ofBits bits).unpack.neg) := rfl
  have unpacked : Float.Model.unpack ⟨bits, valid⟩ = unpack .binary64 bits.toBitVec := rfl
  rw [negation, kept, unpacked, split, ← unpack_negate, ← changed]
  rfl

theorem sign_magnitude {bits sign : Nat} (bounded : bits < 2 * sign) :
    (if sign ≤ bits then bits % sign + sign else bits % sign) = bits := by
  split
  · rename_i negative
    rw [Nat.mod_eq_sub_mod negative, Nat.mod_eq_of_lt (by omega)]
    omega
  · rename_i positive
    exact Nat.mod_eq_of_lt (by omega)

theorem of_magnitude64_magnitude64 (x : Float) : ofMagnitude64 (isNegative64 x) (magnitude64 x) = x := by
  have bounded : x.toBits.toNat < 2 * Format.binary64.signBit := x.toBits.toNat_lt
  simp only [ofMagnitude64, isNegative64, magnitude64, decide_eq_true_eq]
  rw [sign_magnitude bounded, UInt64.ofNat_toNat, of_bits_to_bits]

theorem single_pack_unpack (model : Float32.Model) : Float32.Model.pack model.unpack = model := by
  obtain ⟨bits, valid⟩ := model
  have same := pack_unpack (by decide) valid
  simp only [Float32.Model.pack, Float32.Model.unpack, same]

theorem single_of_bits_to_bits (x : Float32) : Float32.ofBits x.toBits = x :=
  congrArg Float32.ofModel (single_pack_unpack x.toModel)

theorem of_magnitude32_magnitude32 (x : Float32) : ofMagnitude32 (isNegative32 x) (magnitude32 x) = x := by
  have bounded : x.toBits.toNat < 2 * Format.binary32.signBit := x.toBits.toNat_lt
  simp only [ofMagnitude32, isNegative32, magnitude32, decide_eq_true_eq]
  rw [sign_magnitude bounded, UInt32.ofNat_toNat, single_of_bits_to_bits]

theorem pack_components_to_nat (sign : Sign) (exponent : BitVec 11) (mantissa : BitVec 52) :
    (packComponents .binary64 sign exponent mantissa).toNat =
      sign.toBitVec.toNat * 2 ^ 63 + exponent.toNat * 2 ^ 52 + mantissa.toNat := by
  have inner : (sign.toBitVec ++ exponent).toNat = sign.toBitVec.toNat * 2 ^ 11 + exponent.toNat := by
    rw [BitVec.toNat_append, ← Nat.shiftLeft_add_eq_or_of_lt exponent.isLt, Nat.shiftLeft_eq]
  have outer : (packComponents .binary64 sign exponent mantissa).toNat =
      (sign.toBitVec ++ exponent).toNat * 2 ^ 52 + mantissa.toNat := by
    rw [packComponents, BitVec.toNat_append, ← Nat.shiftLeft_add_eq_or_of_lt mantissa.isLt, Nat.shiftLeft_eq]
  rw [outer, inner]
  omega

theorem neg_of_magnitude64 {pattern : Nat} (finite : pattern < Format.binary64.infinity) :
    -ofMagnitude64 false pattern = ofMagnitude64 true pattern := by
  have bound : pattern < 2047 * 2 ^ 52 := finite
  have high : (BitVec.ofNat 11 (pattern / 2 ^ 52)).toNat = pattern / 2 ^ 52 := by
    rw [BitVec.toNat_ofNat, Nat.mod_eq_of_lt (by omega)]
  have low : (BitVec.ofNat 52 pattern).toNat = pattern % 2 ^ 52 := BitVec.toNat_ofNat _ _
  refine of_bits_negate .positive (BitVec.ofNat 11 (pattern / 2 ^ 52)) ?_ (BitVec.ofNat 52 pattern) ?_ ?_
  · intro full
    have top : pattern / 2 ^ 52 = 2047 := high.symm.trans (congrArg BitVec.toNat full)
    omega
  · apply BitVec.eq_of_toNat_eq
    rw [pack_components_to_nat, high, low]
    have bits : (UInt64.ofNat pattern).toBitVec.toNat = pattern % 2 ^ 64 := UInt64.toNat_ofNat'
    have sign : Sign.positive.toBitVec.toNat = 0 := rfl
    simp only [Bool.false_eq_true, if_false]
    omega
  · apply BitVec.eq_of_toNat_eq
    rw [pack_components_to_nat, high, low]
    have bits : (UInt64.ofNat (pattern + Format.binary64.signBit)).toBitVec.toNat =
      (pattern + 2 ^ 63) % 2 ^ 64 := UInt64.toNat_ofNat'
    have sign : (-Sign.positive).toBitVec.toNat = 1 := rfl
    simp only [if_true]
    omega

theorem finite_of_narrow {x : Float} (finite : isFinite32 (narrow x) = true) :
    magnitude64 x < Format.binary64.infinity := by
  apply Nat.lt_of_not_le
  intro large
  have high : ∀ negative, isFinite32 (ofMagnitude32 negative Format.binary32.infinity) = false := by decide
  have none : ∀ negative, isFinite32 (ofMagnitude32 negative Format.binary32.nan) = false := by decide
  rw [narrow, Format.convert] at finite
  split at finite
  · rw [none] at finite
    cases finite
  · rename_i bounded
    rw [if_pos (by omega), high] at finite
    cases finite

end EscapeTime.Binary
