import Fabula.Number.Basic
import Mathlib.Algebra.Order.Ring.Nat
/-!
# Naturals that are rounded to finite floats

A natural of at most 1023 binary digits is rounded to a finite float. A float is finite where its
exponent field is not the top one; packing a finite float and unpacking it again stays below the
top field.
-/

namespace Fabula.Binary64
open Float.Model

def exponentField (bits : BitVec Format.binary64.numBits) : Nat :=
  (UnpackedFloat.unpackExponent bits).toNat

theorem exponentField_eq (bits : UInt64) :
    exponentField bits.toBitVec = bits.toNat / 2 ^ 52 % 2 ^ 11 := by
  change bits.toNat >>> 52 % 2 ^ 11 = _
  rw [Nat.shiftRight_eq_div_pow]

theorem unpackExponent_ne_top {bits : BitVec Format.binary64.numBits}
    (below : exponentField bits < 2047) :
    UnpackedFloat.unpackExponent bits ≠ -(BitVec.ofNat Format.binary64.exponentBits 1) := by
  intro top
  have field : exponentField bits = 2047 := by
    rw [exponentField, top]
    rfl
  omega

theorem unpack_isFinite {bits : BitVec Format.binary64.numBits}
    (below : exponentField bits < 2047) :
    (UnpackedFloat.unpack .binary64 bits).isFinite := by
  unfold UnpackedFloat.unpack
  rw [if_neg (unpackExponent_ne_top below)]
  by_cases subnormal : UnpackedFloat.unpackExponent bits = BitVec.ofNat _ 0
  · rw [if_pos subnormal]
    by_cases zero : UnpackedFloat.unpackMantissa bits = BitVec.ofNat _ 0
    · rw [dif_pos zero]
      rfl
    · rw [dif_neg zero]
      rfl
  · rw [if_neg subnormal]
    rfl

theorem exponent_of_unpack {bits : BitVec Format.binary64.numBits}
    (below : exponentField bits < 2047) {sign : UnpackedFloat.Sign} {mantissa : Nat}
    {exponent : Int} {positive : 0 < mantissa}
    (unpacked : UnpackedFloat.unpack .binary64 bits = .finite sign mantissa exponent positive) :
    exponent ≤ 971 := by
  have bias : (Format.binary64.exponentBias : Int) = 1023 := rfl
  unfold UnpackedFloat.unpack at unpacked
  rw [if_neg (unpackExponent_ne_top below)] at unpacked
  unfold exponentField at below
  by_cases subnormal : UnpackedFloat.unpackExponent bits = BitVec.ofNat _ 0
  · rw [if_pos subnormal] at unpacked
    by_cases zero : UnpackedFloat.unpackMantissa bits = BitVec.ofNat _ 0
    · rw [dif_pos zero] at unpacked
      cases unpacked
    · rw [dif_neg zero] at unpacked
      cases unpacked
      simp [subnormal, bias]
  · rw [if_neg subnormal] at unpacked
    cases unpacked
    simp [bias]
    omega

theorem pack_finite {sign : UnpackedFloat.Sign} {mantissa : Nat} {exponent : Int}
    {positive : 0 < mantissa} (bounded : exponent ≤ 971) :
    UnpackedFloat.pack .binary64 (.finite sign mantissa exponent positive) =
      if mantissa.log2 + 1 = 53 then
        UnpackedFloat.packComponents .binary64 sign (.ofNat 11 (exponent + 1075).toNat)
          (.ofNat 52 mantissa)
      else UnpackedFloat.packComponents .binary64 sign (.ofNat 11 0) (.ofNat 52 mantissa) := by
  have biased : (exponent + Format.binary64.exponentBias +
      Format.binary64.mantissaBitsWithoutImplicit).toNat = (exponent + 1075).toNat := by
    change (exponent + 1023 + 52).toNat = _
    omega
  have inRange : ¬ 2 ^ Format.binary64.exponentBits ≤ (exponent + 1075).toNat + 1 := by
    change ¬ 2048 ≤ _
    omega
  unfold UnpackedFloat.pack
  simp only [biased, inRange, ↓reduceIte]
  rfl

theorem exponentField_pack {f : UnpackedFloat} (finite : f.isFinite)
    (small : ∀ sign mantissa exponent positive,
      f = .finite sign mantissa exponent positive → exponent ≤ 971) :
    exponentField (UnpackedFloat.pack .binary64 f) < 2047 := by
  cases f with
  | notANumber => exact absurd finite Bool.false_ne_true
  | infinity sign => exact absurd finite Bool.false_ne_true
  | zero sign =>
    change exponentField (UnpackedFloat.packedZero .binary64 sign) < 2047
    simp [exponentField, UnpackedFloat.packedZero]
  | finite sign mantissa exponent positive =>
    have bounded : exponent ≤ 971 := small sign mantissa exponent positive rfl
    rw [pack_finite bounded]
    split
    · simp only [exponentField, UnpackedFloat.unpackExponent_packComponents, BitVec.toNat_ofNat]
      omega
    · simp [exponentField]

theorem ofBits_isFinite {bits : UInt64} (below : bits.toNat / 2 ^ 52 % 2 ^ 11 < 2047) :
    (Float.ofBits bits).isFinite := by
  rw [← exponentField_eq] at below
  apply unpack_isFinite
  exact exponentField_pack (unpack_isFinite below) fun _ _ _ _ => exponent_of_unpack below

theorem isInf_of_isFinite {x : Float} (finite : x.isFinite) : x.isInf = false := by
  change x.toModel.unpack.isInf = false
  change x.toModel.unpack.isFinite = true at finite
  cases unpacked : x.toModel.unpack with
  | infinity sign =>
    rw [unpacked] at finite
    cases finite
  | notANumber | zero sign | finite sign mantissa exponent positive => rfl

theorem roundHalfEven_le (numerator denominator : Nat) :
    roundHalfEven numerator denominator ≤ numerator / denominator + 1 := by
  unfold roundHalfEven
  simp only
  split <;> omega

theorem floorLog2_whole {n : Nat} (positive : n ≠ 0) : floorLog2 n 1 = n.log2 := by
  have one : Nat.log2 1 = 0 := by decide
  have below : 2 ^ n.log2 ≤ n := Nat.log2_self_le positive
  simp [floorLog2, powerOfTwo, one, below]

theorem significand_le (n : Nat) :
    roundHalfEven (n * (powerOfTwo (n.log2 - 52)).2) (1 * (powerOfTwo (n.log2 - 52)).1) ≤
      2 ^ 53 := by
  have above : n < 2 ^ (n.log2 + 1) := Nat.lt_log2_self
  refine (roundHalfEven_le _ _).trans (Nat.succ_le_of_lt ?_)
  by_cases large : 52 ≤ n.log2
  · have shift : ((n.log2 : Int) - 52).toNat = n.log2 - 52 := by omega
    have split : 2 ^ (n.log2 + 1) = 2 ^ 53 * 2 ^ (n.log2 - 52) := by
      rw [← pow_add]
      congr 1
      omega
    rw [powerOfTwo, if_pos (by omega), shift]
    simp only [mul_one, one_mul, Nat.pow_eq]
    rw [Nat.div_lt_iff_lt_mul (Nat.two_pow_pos _), ← split]
    exact above
  · have shift : (-((n.log2 : Int) - 52)).toNat = 52 - n.log2 := by omega
    have split : 2 ^ 53 = 2 ^ (n.log2 + 1) * 2 ^ (52 - n.log2) := by
      rw [← pow_add]
      congr 1
      omega
    rw [powerOfTwo, if_neg (by omega), shift]
    simp only [mul_one, Nat.div_one, Nat.pow_eq]
    rw [split]
    exact Nat.mul_lt_mul_of_pos_right above (Nat.two_pow_pos _)

theorem nearest_isFinite (negative : Bool) {n : Nat} (small : n.log2 ≤ 1022) :
    (nearest negative n 1).isFinite := by
  by_cases zero : n = 0
  · subst zero
    cases negative <;> rfl
  · have significand := significand_le n
    have whole : max ((n.log2 : Int) - 52) (-1074) = n.log2 - 52 := by omega
    have steps : ((n.log2 : Int) - 52 + 1074).toNat = n.log2 + 1022 := by omega
    simp only [nearest, beq_iff_eq, zero, ↓reduceIte, floorLog2_whole zero, whole, steps]
    generalize roundHalfEven _ _ = digits at significand ⊢
    apply ofBits_isFinite
    rw [UInt64.toNat_ofNat', Nat.pow_eq, Nat.pow_eq]
    cases negative <;> simp only [↓reduceIte, Bool.false_eq_true] <;> omega

end Fabula.Binary64
