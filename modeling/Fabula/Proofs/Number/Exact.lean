import Fabula.Proofs.Number.Unpacked
import Mathlib.Algebra.Order.Field.Power
import Mathlib.Tactic.Positivity
import Mathlib.Tactic.Ring
/-!
# Exact values of floats

A finite float is a whole significand times a power of two. A quotient by a power of two that has
such a form is the float that is nearest to itself. Main statements:

* `value_of_parts`, `parts_of_value`: the value of a finite float is that of its parts;
* `value_of_whole?`: the integer that a float is read as has its value;
* `parts_nearest_exact`: a quotient that needs no rounding.
-/

namespace Fabula.Binary64

theorem powerOfTwo_eq (exponent : Int) :
    powerOfTwo exponent = (2 ^ exponent.toNat, 2 ^ (-exponent).toNat) := by
  unfold powerOfTwo
  split
  · next whole =>
    rw [Int.toNat_of_nonpos (Int.neg_nonpos_of_nonneg whole)]
    rfl
  · next fraction =>
    rw [Int.toNat_of_nonpos (by omega : exponent ≤ 0)]
    rfl

theorem zpow_eq_div (exponent : Int) :
    (2 : Rat) ^ exponent = 2 ^ exponent.toNat / 2 ^ (-exponent).toNat := by
  rw [← zpow_natCast, ← zpow_natCast, ← zpow_sub₀ two_ne_zero]
  congr 1
  omega

theorem signed_mul (negative : Bool) (a b : Nat) :
    signed negative (a * b) = signed negative a * b := by
  cases negative <;> simp [signed]

theorem cast_signed_true (n : Nat) : ((signed true n : Int) : Rat) = -n := by
  simp [signed]

theorem cast_signed_false (n : Nat) : ((signed false n : Int) : Rat) = n :=
  Int.cast_natCast n

theorem value_of_parts {x : Float} {negative : Bool} {significand : Nat} {exponent : Int}
    (shape : parts x = .finite negative significand exponent) :
    value x = .finite (signed negative significand * 2 ^ exponent) := by
  simp only [value, shape, powerOfTwo_eq, Rat.mkRat_eq_div, zpow_eq_div, signed_mul]
  congr 1
  push_cast
  ring

theorem parts_of_value {x : Float} {q : Rat} (finite : value x = .finite q) :
    ∃ negative significand exponent, parts x = .finite negative significand exponent ∧
      q = signed negative significand * 2 ^ exponent := by
  cases shape : parts x with
  | nan => simp [value, shape] at finite
  | infinite negative => cases negative <;> simp [value, shape] at finite
  | finite negative significand exponent =>
    have exact := value_of_parts shape
    rw [finite] at exact
    exact ⟨negative, significand, exponent, rfl, Extended.finite.inj exact⟩

theorem value_of_whole? {x : Float} {n : Int} (whole : whole? x = some n) :
    value x = .finite n := by
  unfold whole? truncate? at whole
  cases shape : parts x with
  | nan | infinite negative => simp [shape] at whole
  | finite negative significand exponent =>
    simp only [shape, powerOfTwo_eq] at whole
    have unit := Nat.two_pow_pos (-exponent).toNat
    split at whole
    · next cut =>
      obtain ⟨rfl, exact⟩ := Prod.mk.inj (Option.some.inj cut)
      cases whole
      obtain ⟨t, split⟩ : 2 ^ (-exponent).toNat ∣ significand * 2 ^ exponent.toNat := by
        simpa [Nat.dvd_iff_mod_eq_zero] using exact
      have scaled := congrArg (fun n => ((signed negative n : Int) : Rat))
        (split.trans (mul_comm _ t))
      simp only [signed_mul] at scaled
      push_cast at scaled
      rw [value_of_parts shape, split, Nat.mul_div_cancel_left t unit, zpow_eq_div,
        ← mul_div_assoc, scaled, mul_div_cancel_right₀ _ (by positivity)]
    · cases whole

theorem floorLog2_scaled {n : Nat} (positive : n ≠ 0) (k : Nat) :
    floorLog2 n (2 ^ k) = n.log2 - k := by
  have below : 2 ^ n.log2 ≤ n := Nat.log2_self_le positive
  have scaled := Nat.mul_le_mul_right (2 ^ (-(n.log2 - k : Int)).toNat) below
  have least : 2 ^ k * 2 ^ (n.log2 - k : Int).toNat ≤ n * 2 ^ (-(n.log2 - k : Int)).toNat := by
    refine le_trans ?_ scaled
    rw [← pow_add, ← pow_add]
    exact Nat.pow_le_pow_right two_pos (by omega)
  simp only [floorLog2, Nat.log2_two_pow, powerOfTwo_eq, least, ↓reduceIte]

theorem Parts.ofFields_eq (negative : Bool) {digits steps : Nat} (small : digits < 2 ^ 53)
    (full : 2 ^ 52 ≤ digits ∨ steps = 0) (range : steps < 2046) :
    ofFields negative (steps + digits / 2 ^ 52) (digits % 2 ^ 52) =
      .finite negative digits (steps - 1074) := by
  rw [ofFields, if_neg (by omega)]
  split
  · congr 1 <;> omega
  · congr 1 <;> omega

theorem Parts.ofBits_add (negative : Bool) {low : Nat} (small : low < 2 ^ 63) :
    ofBits ((if negative then Nat.pow 2 63 else 0) + low) =
      .ofFields negative (low / 2 ^ 52) (low % 2 ^ 52) := by
  have sign : (((if negative then Nat.pow 2 63 else 0) + low) / 2 ^ 63 == 1) = negative := by
    cases negative <;> simp [Nat.pow_eq] <;> omega
  rw [ofBits, sign]
  congr 1 <;> cases negative <;> simp only [Nat.pow_eq, Bool.false_eq_true, ↓reduceIte] <;> omega

theorem parts_bits (negative : Bool) {digits steps : Nat} (small : digits < 2 ^ 53)
    (full : 2 ^ 52 ≤ digits ∨ steps = 0) (range : steps < 2046) :
    parts (Float.ofBits (UInt64.ofNat ((if negative then Nat.pow 2 63 else 0) +
      (steps * Nat.pow 2 52 + digits)))) = .finite negative digits (steps - 1074) := by
  have low : steps * Nat.pow 2 52 + digits < 2 ^ 63 := by
    simp only [Nat.pow_eq]
    omega
  have fits : (if negative then Nat.pow 2 63 else 0) + (steps * Nat.pow 2 52 + digits) <
      2 ^ 64 := by
    simp only [Nat.pow_eq] at low ⊢
    split <;> omega
  rw [parts_ofBits, UInt64.toNat_ofNat', Nat.mod_eq_of_lt fits, Parts.ofBits_add negative low,
    ← Parts.ofFields_eq negative small full range]
  simp only [Nat.pow_eq]
  congr 1 <;> omega

theorem roundHalfEven_mul (n : Nat) {denominator : Nat} (positive : 0 < denominator) :
    roundHalfEven (n * denominator) denominator = n := by
  simp [roundHalfEven, Nat.mul_div_cancel n positive, positive.ne]

theorem parts_nearest_exact (negative : Bool) {n k : Nat} (small : n < 2 ^ 53)
    (bounded : k ≤ 1074) :
    ∃ j, k ≤ j ∧ j ≤ 1074 ∧ (∀ i ≤ 52, n < 2 ^ (k + (53 - i)) → i ≤ j) ∧
      parts (nearest negative n (2 ^ k)) = .finite negative (n * 2 ^ (j - k)) (-j) := by
  by_cases zero : n = 0
  · subst zero
    refine ⟨1074, bounded, le_rfl, fun i few _ => by omega, ?_⟩
    rw [zero_mul]
    cases negative <;> exact parts_ofBits _
  · have log : n.log2 < 53 := (Nat.log2_lt zero).mpr small
    obtain ⟨j, least⟩ : ∃ j, j = min (k + 52 - n.log2) 1074 := ⟨_, rfl⟩
    have exponent : max ((n.log2 : Int) - k - 52) (-1074) = -j := by omega
    have split : n * 2 ^ j = n * 2 ^ (j - k) * 2 ^ k := by
      rw [mul_assoc, ← pow_add, Nat.sub_add_cancel (by omega)]
    have above : n * 2 ^ (j - k) < 2 ^ 53 := by
      have under : n < 2 ^ (n.log2 + 1) := Nat.lt_log2_self
      have scaled := Nat.mul_lt_mul_of_pos_right under (Nat.two_pow_pos (j - k))
      rw [← pow_add] at scaled
      exact scaled.trans_le (Nat.pow_le_pow_right two_pos (by omega))
    have full : 2 ^ 52 ≤ n * 2 ^ (j - k) ∨ 1074 - j = 0 := by
      refine or_iff_not_imp_right.mpr fun steps => ?_
      have scaled := Nat.mul_le_mul_right (2 ^ (j - k)) (Nat.log2_self_le zero)
      rw [← pow_add] at scaled
      exact (Nat.pow_le_pow_right two_pos (by omega)).trans scaled
    have exact : roundHalfEven (n * 2 ^ (- -(j : Int)).toNat) (2 ^ k * 2 ^ (-(j : Int)).toNat) =
        n * 2 ^ (j - k) := by
      rw [neg_neg, Int.toNat_natCast, Int.toNat_neg_natCast, pow_zero, mul_one, split]
      exact roundHalfEven_mul _ (Nat.two_pow_pos k)
    have steps : (-(j : Int) + 1074).toNat = 1074 - j := by omega
    have fits : (1074 - j) * Nat.pow 2 52 + n * 2 ^ (j - k) ≤ 2047 * Nat.pow 2 52 := by
      simp only [Nat.pow_eq]
      omega
    refine ⟨j, by omega, by omega, fun i few less => ?_, ?_⟩
    · have digits := (Nat.log2_lt zero).mpr less
      omega
    · simp only [nearest, beq_iff_eq, zero, ↓reduceIte, floorLog2_scaled zero, exponent,
        powerOfTwo_eq, exact, steps, Nat.min_eq_left fits]
      rw [parts_bits negative above full (by omega)]
      congr 1
      omega

end Fabula.Binary64
