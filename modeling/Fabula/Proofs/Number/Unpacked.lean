import Fabula.Proofs.Number.Finite
/-!
# Floats taken apart

A float is computed with in unpacked form: a sign, a significand and an exponent. The parts of a
float are those of its unpacked form, whichever of the two its bits are read in. Results are packed
again, and a form that is written as binary64 has it keeps its parts there. Main statements:

* `parts_eq`: the parts of a float are those of its unpacked form;
* `lt_zero_iff`, `beq_zero_iff`: comparing a float with zero looks at its parts;
* `parts_pack`: packing keeps the parts of a form that binary64 has;
* `parts_ofBits`: the parts of a float that is made of bits.
-/

namespace Fabula.Binary64
open Float.Model Float.Model.UnpackedFloat

def isNegative : Sign → Bool
  | .negative => true
  | .positive => false

def Parts.ofUnpacked : UnpackedFloat → Parts
  | .notANumber => .nan
  | .infinity sign => .infinite (isNegative sign)
  | .zero sign => .finite (isNegative sign) 0 (-1074)
  | .finite sign significand exponent _ => .finite (isNegative sign) significand exponent

def Parts.ofFields (negative : Bool) (field digits : Nat) : Parts :=
  if field = 2047 then if digits = 0 then .infinite negative else .nan
  else if field = 0 then .finite negative digits (-1074)
  else .finite negative (2 ^ 52 + digits) ((field : Int) - 1075)

def Parts.ofBits (bits : Nat) : Parts :=
  .ofFields (bits / 2 ^ 63 == 1) (bits / 2 ^ 52 % 2 ^ 11) (bits % 2 ^ 52)

theorem parts_eq_ofBits (x : Float) : parts x = .ofBits x.toBits.toNat := by
  simp [parts, Parts.ofBits, Parts.ofFields]

def signField (bits : BitVec Format.binary64.numBits) : Nat :=
  (unpackSign bits).toNat

def digitsField (bits : BitVec Format.binary64.numBits) : Nat :=
  (unpackMantissa bits).toNat

theorem digitsField_eq (bits : UInt64) : digitsField bits.toBitVec = bits.toNat % 2 ^ 52 := by
  change bits.toNat >>> 0 % 2 ^ 52 = _
  rw [Nat.shiftRight_zero]

theorem signField_eq (bits : UInt64) : signField bits.toBitVec = bits.toNat / 2 ^ 63 := by
  have small := bits.toNat_lt
  change bits.toNat >>> 63 % 2 ^ 1 = _
  rw [Nat.shiftRight_eq_div_pow]
  omega

theorem isNegative_ofBitVec (bit : BitVec 1) : isNegative (.ofBitVec bit) = (bit.toNat == 1) := by
  revert bit
  decide

theorem significand_of_normal (digits : BitVec 52) :
    (1#1 ++ digits).toNat = 2 ^ 52 + digits.toNat := by
  rw [BitVec.toNat_append, ← Nat.shiftLeft_add_eq_or_of_lt digits.isLt]
  rfl

theorem ofUnpacked_unpack_eq (bits : BitVec Format.binary64.numBits) :
    Parts.ofUnpacked (UnpackedFloat.unpack .binary64 bits) =
      .ofFields (signField bits == 1) (exponentField bits) (digitsField bits) := by
  rw [signField, ← isNegative_ofBitVec, Parts.ofFields]
  unfold UnpackedFloat.unpack
  by_cases top : exponentField bits = 2047
  · have allOnes : unpackExponent bits = -1#11 := BitVec.eq_of_toNat_eq top
    rw [if_pos allOnes, if_pos top]
    by_cases whole : unpackMantissa bits = 0#52
    · rw [if_pos whole, digitsField, whole]
      rfl
    · have digits : digitsField bits ≠ 0 := fun zero => whole (BitVec.eq_of_toNat_eq zero)
      rw [if_neg whole, if_neg digits]
      rfl
  · have below : exponentField bits < 2047 :=
      lt_of_le_of_ne (Nat.le_of_lt_succ (unpackExponent bits).isLt) top
    rw [if_neg (unpackExponent_ne_top below), if_neg top]
    by_cases least : unpackExponent bits = 0#11
    · have field : exponentField bits = 0 := by
        rw [exponentField, least]
        rfl
      rw [if_pos least, if_pos field]
      by_cases whole : unpackMantissa bits = 0#52
      · rw [dif_pos whole, digitsField, whole]
        rfl
      · rw [dif_neg whole]
        rw [least]
        rfl
    · have field : exponentField bits ≠ 0 := fun zero => least (BitVec.eq_of_toNat_eq zero)
      rw [if_neg least, if_neg field]
      change Parts.finite _ (1#1 ++ unpackMantissa bits).toNat _ = _
      rw [significand_of_normal]
      rfl

theorem ofUnpacked_unpack (bits : UInt64) :
    Parts.ofUnpacked (UnpackedFloat.unpack .binary64 bits.toBitVec) = .ofBits bits.toNat := by
  rw [ofUnpacked_unpack_eq, signField_eq, digitsField_eq, exponentField_eq, Parts.ofBits]

theorem parts_eq (x : Float) : parts x = .ofUnpacked x.toModel.unpack :=
  (parts_eq_ofBits x).trans (ofUnpacked_unpack x.toBits).symm

theorem parts_nan_iff {x : Float} : parts x = .nan ↔ x.toModel.unpack = .notANumber := by
  rw [parts_eq]
  constructor
  · intro none
    cases unpacked : x.toModel.unpack with
    | notANumber => rfl
    | infinity sign | zero sign | finite sign significand exponent positive =>
      rw [unpacked] at none
      cases none
  · intro none
    rw [none]
    rfl

theorem value_eq_nan_iff {x : Float} : value x = .nan ↔ parts x = .nan := by
  unfold value
  cases parts x with
  | nan => simp
  | infinite negative => cases negative <;> simp
  | finite negative significand exponent => simp

section
variable {x : Float} {negative : Bool} {significand : Nat} {exponent : Int}

theorem unpack_of_parts (shape : parts x = .finite negative significand exponent)
    (positive : 0 < significand) : ∃ sign, isNegative sign = negative ∧
      x.toModel.unpack = .finite sign significand exponent positive := by
  rw [parts_eq] at shape
  cases unpacked : x.toModel.unpack with
  | notANumber | infinity sign =>
    rw [unpacked] at shape
    cases shape
  | zero sign =>
    rw [unpacked] at shape
    obtain ⟨-, rfl, -⟩ := Parts.finite.inj shape
    exact absurd positive (lt_irrefl 0)
  | finite sign m e p =>
    rw [unpacked] at shape
    obtain ⟨rfl, rfl, rfl⟩ := Parts.finite.inj shape
    exact ⟨sign, rfl, rfl⟩

theorem unpack_of_zero (shape : parts x = .finite negative 0 exponent) :
    ∃ sign, x.toModel.unpack = .zero sign := by
  rw [parts_eq] at shape
  cases unpacked : x.toModel.unpack with
  | notANumber | infinity sign =>
    rw [unpacked] at shape
    cases shape
  | zero sign => exact ⟨sign, rfl⟩
  | finite sign m e p =>
    rw [unpacked] at shape
    obtain ⟨-, rfl, -⟩ := Parts.finite.inj shape
    exact absurd p (lt_irrefl 0)

theorem unpack_zero : (0 : Float).toModel.unpack = .zero .positive := by
  rfl

theorem lt_zero_iff (shape : parts x = .finite negative significand exponent) :
    x < 0 ↔ negative = true ∧ significand ≠ 0 := by
  change decide (x.toModel.unpack.lt (0 : Float).toModel.unpack = true) = true ↔ _
  rw [decide_eq_true_iff, unpack_zero]
  rcases Nat.eq_zero_or_pos significand with rfl | positive
  · obtain ⟨sign, unpacked⟩ := unpack_of_zero shape
    rw [unpacked]
    exact iff_of_false Bool.false_ne_true fun below => below.2 rfl
  · obtain ⟨sign, rfl, unpacked⟩ := unpack_of_parts shape positive
    rw [unpacked]
    cases sign with
    | negative => exact iff_of_true rfl ⟨rfl, positive.ne'⟩
    | positive => exact iff_of_false Bool.false_ne_true fun below => Bool.false_ne_true below.1

theorem beq_zero_iff (shape : parts x = .finite negative significand exponent) :
    x == 0 ↔ significand = 0 := by
  change x.toModel.unpack.beq (0 : Float).toModel.unpack = true ↔ _
  rw [unpack_zero]
  rcases Nat.eq_zero_or_pos significand with rfl | positive
  · obtain ⟨sign, unpacked⟩ := unpack_of_zero shape
    rw [unpacked]
    exact iff_of_true rfl rfl
  · obtain ⟨sign, rfl, unpacked⟩ := unpack_of_parts shape positive
    rw [unpacked]
    cases sign <;> exact iff_of_false Bool.false_ne_true positive.ne'

end

theorem not_lt_zero_of_nan {x : Float} (none : parts x = .nan) : ¬ x < 0 := by
  change ¬ decide (x.toModel.unpack.lt (0 : Float).toModel.unpack = true) = true
  rw [decide_eq_true_iff, parts_nan_iff.mp none]
  exact Bool.false_ne_true

/-- Whether a number is taken apart the way that binary64 has it: into all 53 digits, unless the
exponent is the least one. -/
def Parts.Canonical : Parts → Prop
  | .nan | .infinite _ => True
  | .finite _ significand exponent => significand < 2 ^ 53 ∧ -1074 ≤ exponent ∧ exponent ≤ 971 ∧
    (2 ^ 52 ≤ significand ∨ exponent = -1074)

theorem Parts.canonical_ofFields (negative : Bool) {field digits : Nat}
    (fieldBound : field < 2 ^ 11) (digitsBound : digits < 2 ^ 52) :
    (ofFields negative field digits).Canonical := by
  unfold ofFields
  by_cases top : field = 2047
  · rw [if_pos top]
    split <;> trivial
  · rw [if_neg top]
    split
    · exact ⟨by omega, by omega, by omega, .inr rfl⟩
    · exact ⟨by omega, by omega, by omega, .inl (by omega)⟩

theorem Parts.canonical_ofBits (bits : Nat) : (ofBits bits).Canonical :=
  canonical_ofFields _ (Nat.mod_lt _ (by decide)) (Nat.mod_lt _ (by decide))

theorem parts_canonical (x : Float) : (parts x).Canonical := by
  rw [parts_eq_ofBits]
  exact Parts.canonical_ofBits _

theorem toNat_packComponents (sign : Sign) (field : BitVec 11) (digits : BitVec 52) :
    (packComponents .binary64 sign field digits).toNat =
      (sign.toBitVec.toNat * 2 ^ 11 + field.toNat) * 2 ^ 52 + digits.toNat := by
  change (sign.toBitVec ++ field ++ digits).toNat = _
  rw [BitVec.toNat_append, ← Nat.shiftLeft_add_eq_or_of_lt digits.isLt, BitVec.toNat_append,
    ← Nat.shiftLeft_add_eq_or_of_lt field.isLt, Nat.shiftLeft_eq, Nat.shiftLeft_eq]

theorem ofBits_packComponents (sign : Sign) (field : BitVec 11) (digits : BitVec 52) :
    Parts.ofBits (packComponents .binary64 sign field digits).toNat =
      .ofFields (isNegative sign) field.toNat digits.toNat := by
  have negative : (sign.toBitVec.toNat == 1) = isNegative sign := by cases sign <;> rfl
  have fieldBound := field.isLt
  have digitsBound := digits.isLt
  rw [toNat_packComponents, ← negative, Parts.ofBits]
  congr 1
  · congr 1
    omega
  · omega
  · omega

theorem parts_pack {f : UnpackedFloat} (canonical : (Parts.ofUnpacked f).Canonical) :
    parts (.ofModel (pack f)) = .ofUnpacked f := by
  rw [parts_eq_ofBits]
  change Parts.ofBits (UnpackedFloat.pack .binary64 f).toNat = _
  cases f with
  | notANumber => decide
  | infinity sign | zero sign => cases sign <;> decide
  | finite sign significand exponent positive =>
    obtain ⟨small, least, bounded, full⟩ := canonical
    rw [pack_finite bounded]
    by_cases normal : significand.log2 + 1 = 53
    · have large : 2 ^ 52 ≤ significand := (Nat.le_log2 positive.ne').mp (by omega)
      rw [if_pos normal, ofBits_packComponents]
      rw [BitVec.toNat_ofNat, BitVec.toNat_ofNat, Parts.ofFields, if_neg (by omega),
        if_neg (by omega)]
      change _ = Parts.finite _ _ _
      congr 1 <;> omega
    · have digits : significand.log2 < 53 := (Nat.log2_lt positive.ne').mpr small
      have low : significand < 2 ^ 52 := (Nat.log2_lt positive.ne').mp (by omega)
      obtain rfl : exponent = -1074 := by omega
      rw [if_neg normal, ofBits_packComponents]
      change Parts.finite _ (significand % 2 ^ 52) _ = Parts.finite _ _ _
      rw [Nat.mod_eq_of_lt low]

theorem parts_ofBits (bits : UInt64) : parts (.ofBits bits) = .ofBits bits.toNat := by
  have unpacked := ofUnpacked_unpack bits
  have canonical := Parts.canonical_ofBits bits.toNat
  rw [← unpacked] at canonical ⊢
  exact parts_pack canonical

end Fabula.Binary64
