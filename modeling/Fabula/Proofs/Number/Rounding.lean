import Fabula.Proofs.Number.Exact
import Fabula.Proofs.Number.Range
/-!
# Rounding to binary64

Arithmetic on floats is exact up to a last step that rounds. It moves a form to the exponent with
which binary64 has its magnitude, shifting digits out of the significand, and what is shifted out
decides between the two neighbours, a half for the even one. Main statements:

* `roundedMantissa_shiftRight`: shifting digits out rounds the quotient by a power of two;
* `ofUnpacked_round`, `value_of_carried`: the parts of a form that is rounded, and their value;
* `Parts.canonical_rounded`: within the range of binary64 they can be packed.
-/

namespace Fabula.Binary64
open Float.Model Float.Model.UnpackedFloat

theorem roundHalfEven_le_of_le {n denominator bound : Nat} (positive : 0 < denominator)
    (below : n ≤ bound * denominator) : roundHalfEven n denominator ≤ bound := by
  have split := Nat.div_add_mod n denominator
  have rest := Nat.mod_lt n positive
  rcases Nat.lt_or_ge (n / denominator) bound with less | least
  · exact (roundHalfEven_le n denominator).trans less
  · have scaled := Nat.mul_le_mul_left denominator least
    rw [Nat.mul_comm] at below
    have whole : n % denominator = 0 := by omega
    have quotient : n / denominator ≤ bound := Nat.div_le_of_le_mul below
    simpa [roundHalfEven, whole, positive.ne] using quotient

theorem shiftRight_exact (significand shift : Nat) :
    ExtendedMantissa.ofMantissaAndAccuracy significand .exact >>> shift =
      ⟨significand / 2 ^ shift, 2 ^ shift ≤ 2 * (significand % 2 ^ shift),
        2 * (significand % 2 ^ shift) % 2 ^ shift ≠ 0⟩ := by
  induction shift with
  | zero =>
    simp only [pow_zero, Nat.div_one, Nat.mod_one, mul_zero]
    rfl
  | succ shift ih =>
    change ExtendedMantissa.shiftRightOne
      (ExtendedMantissa.ofMantissaAndAccuracy significand .exact >>> shift) = _
    have positive := Nat.two_pow_pos shift
    have rest := Nat.mod_lt significand positive
    have step : significand % 2 ^ (shift + 1) =
        significand % 2 ^ shift + 2 ^ shift * (significand / 2 ^ shift % 2) := by
      rw [pow_succ, Nat.mod_mul]
    have doubled : 2 * (significand % 2 ^ (shift + 1)) % 2 ^ (shift + 1) =
        2 * (significand % 2 ^ shift) := by
      rw [pow_succ, mul_comm (2 ^ shift) 2, Nat.mul_mod_mul_left,
        Nat.mod_mod_of_dvd _ (Dvd.intro_left 2 rfl)]
    rw [ih, ExtendedMantissa.shiftRightOne, doubled, step]
    simp only [ExtendedMantissa.mk.injEq]
    refine ⟨by rw [pow_succ, Nat.div_div_eq_div_mul], ?_, ?_⟩
    · rcases Nat.mod_two_eq_zero_or_one (significand / 2 ^ shift) with last | last
      · simp [last, pow_succ]
        omega
      · simp [last, pow_succ]
        omega
    · rw [← Bool.decide_or]
      congr 1
      rw [eq_iff_iff]
      generalize significand % 2 ^ shift = lost at *
      generalize 2 ^ shift = unit at *
      rcases Nat.lt_or_ge (2 * lost) unit with low | high
      · rw [Nat.mod_eq_of_lt low]
        omega
      · omega

theorem mantissa_shiftRight (significand shift : Nat) :
    (ExtendedMantissa.ofMantissaAndAccuracy significand .exact >>> shift).mantissa =
      significand / 2 ^ shift := by
  rw [shiftRight_exact]

theorem roundedMantissa_shiftRight (significand shift : Nat) :
    (ExtendedMantissa.ofMantissaAndAccuracy significand .exact >>> shift).roundedMantissa =
      roundHalfEven significand (2 ^ shift) := by
  have positive := Nat.two_pow_pos shift
  have rest := Nat.mod_lt significand positive
  rw [shiftRight_exact, roundHalfEven]
  generalize significand / 2 ^ shift = digits
  generalize significand % 2 ^ shift = lost at *
  generalize 2 ^ shift = unit at *
  simp only [ExtendedMantissa.roundedMantissa]
  rcases Nat.lt_trichotomy (2 * lost) unit with low | half | high
  · by_cases whole : lost = 0
    · simp [whole, positive.ne', positive.ne, ExtendedMantissa.accuracy,
        Accuracy.roundToNearestEven]
    · simp [Nat.mod_eq_of_lt low, low.not_ge, low.not_gt, low.ne, whole, ExtendedMantissa.accuracy,
        Accuracy.roundToNearestEven]
  · rcases Nat.mod_two_eq_zero_or_one digits with even | odd
    · simp [half, even, ExtendedMantissa.accuracy, Accuracy.roundToNearestEven]
    · simp [half, odd, ExtendedMantissa.accuracy, Accuracy.roundToNearestEven]
  · have behind : 2 * lost % unit ≠ 0 := by
      rw [Nat.mod_eq_sub_mod high.le, Nat.mod_eq_of_lt (by omega)]
      omega
    simp [high, high.le, behind, ExtendedMantissa.accuracy, Accuracy.roundToNearestEven]

def targetExponent (significand : Nat) (exponent : Int) : Int :=
  max (significand.log2 + exponent - 52) (-1074)

theorem targetExponent_eq (significand : Nat) (exponent : Int) :
    Format.binary64.targetExponent (totalExponent significand exponent) =
      targetExponent significand exponent := by
  have least : Format.binary64.minExponent = -1074 := rfl
  have digits : (Format.binary64.mantissaBits : Int) = 53 := rfl
  rw [Format.targetExponent, totalExponent, least, digits, targetExponent]
  congr 1
  omega

theorem shiftToTargetExponent_eq (significand : Nat) (exponent : Int) :
    shiftToTargetExponent .binary64 significand exponent .exact =
      let shift := (targetExponent significand exponent - exponent).toNat
      (ExtendedMantissa.ofMantissaAndAccuracy significand .exact >>> shift, exponent + shift) := by
  rw [shiftToTargetExponent, targetExponent_eq]
  rfl

theorem targetExponent_scaled {significand : Nat} (positive : significand ≠ 0) (exponent : Int)
    (digits : Nat) :
    targetExponent (significand * 2 ^ digits) (exponent - digits) =
      targetExponent significand exponent := by
  have more : (significand * 2 ^ digits).log2 = significand.log2 + digits := by
    induction digits with
    | zero => simp
    | succ digits ih =>
      have given : significand * 2 ^ digits ≠ 0 := Nat.mul_ne_zero positive (by positivity)
      rw [pow_succ, ← mul_assoc, mul_comm _ 2, Nat.log2_two_mul given, ih, add_assoc]
  unfold targetExponent
  omega

def roundedDigits (significand : Nat) (exponent : Int) : Nat :=
  let target := targetExponent significand exponent
  roundHalfEven (significand * 2 ^ (exponent - target).toNat) (2 ^ (target - exponent).toNat)

theorem roundedDigits_le (significand : Nat) (exponent : Int) :
    roundedDigits significand exponent ≤ 2 ^ 53 := by
  have above : significand < 2 ^ (significand.log2 + 1) := Nat.lt_log2_self
  have scaled := Nat.mul_le_mul_right
    (2 ^ (exponent - targetExponent significand exponent).toNat) above.le
  refine roundHalfEven_le_of_le (Nat.two_pow_pos _) (scaled.trans ?_)
  rw [← pow_add, ← pow_add]
  apply Nat.pow_le_pow_right two_pos
  unfold targetExponent
  omega

theorem le_roundedDigits {significand : Nat} (positive : significand ≠ 0) {exponent : Int}
    (normal : targetExponent significand exponent ≠ -1074) :
    2 ^ 52 ≤ roundedDigits significand exponent := by
  have target : targetExponent significand exponent =
    max (significand.log2 + exponent - 52) (-1074) := rfl
  have scaled := Nat.mul_le_mul_right
    (2 ^ (exponent - targetExponent significand exponent).toNat) (Nat.log2_self_le positive)
  refine le_trans ((Nat.le_div_iff_mul_le (Nat.two_pow_pos _)).mpr ?_) (le_roundHalfEven _ _)
  rw [← pow_add] at scaled ⊢
  exact (Nat.pow_le_pow_right two_pos (by omega)).trans scaled

/-- The parts of a form that has been rounded at some exponent. Where rounding up fills all 53
digits there is one more, and the last one is dropped again. -/
def Parts.carried (negative : Bool) (digits : Nat) (exponent : Int) : Parts :=
  if digits = 0 then .finite negative 0 (-1074)
  else if digits = 2 ^ 53 then .finite negative (2 ^ 52) (exponent + 1)
  else .finite negative digits exponent

theorem value_of_carried {x : Float} {negative : Bool} {digits : Nat} {exponent : Int}
    (shape : parts x = .carried negative digits exponent) :
    value x = .finite (signed negative digits * 2 ^ exponent) := by
  unfold Parts.carried at shape
  split at shape
  · next zero =>
    rw [value_of_parts shape, zero]
    cases negative <;> simp [signed]
  · split at shape
    · next full =>
      rw [value_of_parts shape, full, zpow_add_one₀ two_ne_zero, pow_succ 2 52, signed_mul]
      push_cast
      ring_nf
    · exact value_of_parts shape

theorem carried_eq (negative : Bool) {digits : Nat} {exponent : Int} (bounded : digits ≤ 2 ^ 53)
    (least : -1074 ≤ exponent) {shift : Nat}
    (excess : shift = (targetExponent digits exponent - exponent).toNat) :
    Parts.finite negative (digits / 2 ^ shift)
      (if digits / 2 ^ shift = 0 then -1074 else exponent + shift) =
      .carried negative digits exponent := by
  unfold targetExponent at excess
  unfold Parts.carried
  by_cases zero : digits = 0
  · simp only [zero, Nat.zero_div, ↓reduceIte]
  rw [if_neg zero]
  by_cases full : digits = 2 ^ 53
  · subst full
    rw [Nat.log2_two_pow] at excess
    obtain rfl : shift = 1 := by omega
    rw [if_pos rfl, if_neg (by decide)]
    rfl
  · have log : digits.log2 < 53 := (Nat.log2_lt zero).mpr (lt_of_le_of_ne bounded full)
    obtain rfl : shift = 0 := by omega
    rw [if_neg full, pow_zero, Nat.div_one, if_neg zero, Nat.cast_zero, add_zero]

theorem ofUnpacked_finite (sign : Sign) (significand : Nat) (exponent : Int) :
    Parts.ofUnpacked (if zero : significand = 0 then .zero sign
      else .finite sign significand exponent (Nat.pos_of_ne_zero zero)) =
      .finite (isNegative sign) significand (if significand = 0 then -1074 else exponent) := by
  by_cases zero : significand = 0
  · rw [dif_pos zero, if_pos zero, zero]
    rfl
  · rw [dif_neg zero, if_neg zero]
    rfl

theorem ofUnpacked_shifted_twice (sign : Sign) (significand : Nat) (exponent : Int) :
    let once := shiftToTargetExponent .binary64 significand exponent .exact
    let twice := shiftToTargetExponent .binary64 once.1.roundedMantissa once.2 .exact
    Parts.ofUnpacked (roundWithAccuracy .binary64 sign significand exponent .exact) =
      .finite (isNegative sign) twice.1.mantissa
        (if twice.1.mantissa = 0 then -1074 else twice.2) :=
  ofUnpacked_finite sign _ _

theorem ofUnpacked_roundWithAccuracy (sign : Sign) {significand : Nat} {exponent : Int}
    (below : exponent ≤ targetExponent significand exponent) :
    Parts.ofUnpacked (roundWithAccuracy .binary64 sign significand exponent .exact) =
      .carried (isNegative sign) (roundedDigits significand exponent)
        (targetExponent significand exponent) := by
  have reached : exponent + (targetExponent significand exponent - exponent).toNat =
      targetExponent significand exponent := by omega
  have digits : roundHalfEven significand
      (2 ^ (targetExponent significand exponent - exponent).toNat) =
      roundedDigits significand exponent := by
    rw [roundedDigits, Int.toNat_of_nonpos (by omega : exponent - _ ≤ 0), pow_zero, mul_one]
  rw [ofUnpacked_shifted_twice]
  simp only [shiftToTargetExponent_eq, roundedMantissa_shiftRight, reached, mantissa_shiftRight,
    digits]
  exact carried_eq _ (roundedDigits_le _ _) (le_max_right _ _) rfl

def Parts.rounded (negative : Bool) (significand : Nat) (exponent : Int) : Parts :=
  .carried negative (roundedDigits significand exponent) (targetExponent significand exponent)

theorem roundedDigits_scaled {significand : Nat} (positive : significand ≠ 0) (exponent : Int) :
    let lower := (exponent - targetExponent significand exponent).toNat
    roundedDigits (significand * 2 ^ lower) (exponent - lower) =
      roundedDigits significand exponent := by
  simp only [roundedDigits, targetExponent_scaled positive]
  have reached : (exponent - (exponent - targetExponent significand exponent).toNat -
      targetExponent significand exponent).toNat = 0 := by omega
  rw [reached, pow_zero, mul_one]
  congr 2
  omega

theorem ofUnpacked_round (sign : Sign) {significand : Nat} (positive : significand ≠ 0)
    (exponent : Int) : Parts.ofUnpacked (UnpackedFloat.round .binary64 sign significand exponent) =
      .rounded (isNegative sign) significand exponent := by
  have same := targetExponent_scaled positive exponent
    (exponent - targetExponent significand exponent).toNat
  unfold UnpackedFloat.round
  simp only [targetExponent_eq, decreaseExponent, Nat.shiftLeft_eq]
  rw [ofUnpacked_roundWithAccuracy sign (by omega), same, Parts.rounded,
    roundedDigits_scaled positive exponent]

theorem Parts.canonical_rounded (negative : Bool) {significand : Nat} (positive : significand ≠ 0)
    (exponent : Int) (range : significand.log2 + exponent ≤ 1022) :
    (rounded negative significand exponent).Canonical := by
  have bounded := roundedDigits_le significand exponent
  have full := @le_roundedDigits _ positive exponent
  have target : targetExponent significand exponent =
    max (significand.log2 + exponent - 52) (-1074) := rfl
  unfold rounded carried
  split
  · simp [Canonical]
  · split
    · simp only [Canonical]
      omega
    · simp only [Canonical]
      omega

end Fabula.Binary64
