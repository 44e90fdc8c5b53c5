import Fabula.Proofs.Number.Finite
/-!
# Where the range of floats ends

The greatest finite float is `2 ^ 1024 - 2 ^ 971`, and the next one would be `2 ^ 1024`. An integer
is rounded to a finite float as long as its magnitude is below the middle of the two; the middle
itself goes to the even neighbour, which is the one that is missing. Main statements:

* `nearest_finite`, `nearest_infinite`: which naturals are rounded to finite floats;
* `isFinite_int_eq`: for which integers the question whether they are finite has an answer.
-/

namespace Fabula.Binary64

def overflow : Nat :=
  2 ^ 1024 - 2 ^ 970

theorem lt_overflow : 2 ^ 1023 < overflow := by
  have top : 2 ^ 1024 = 2 ^ 970 * 2 ^ 54 := by rw [← pow_add]
  have half : 2 ^ 1023 = 2 ^ 970 * 2 ^ 53 := by rw [← pow_add]
  have positive := Nat.two_pow_pos 970
  unfold overflow
  omega

theorem le_roundHalfEven (numerator denominator : Nat) :
    numerator / denominator ≤ roundHalfEven numerator denominator := by
  unfold roundHalfEven
  simp only
  split <;> omega

theorem roundHalfEven_lt_iff {n half : Nat} (positive : 0 < half) (j : Nat) :
    roundHalfEven n (2 * half) < 2 * (j + 1) ↔ n < 2 * half * (2 * j + 1) + half := by
  have split := Nat.div_add_mod n (2 * half)
  have rest := Nat.mod_lt n (Nat.mul_pos two_pos positive)
  unfold roundHalfEven
  simp only
  generalize n / (2 * half) = quotient at *
  generalize n % (2 * half) = remainder at *
  subst split
  rcases Nat.lt_trichotomy quotient (2 * j + 1) with below | rfl | above
  · have scaled := Nat.mul_le_mul_left (2 * half) (Nat.succ_le_of_lt below)
    rw [Nat.mul_succ] at scaled
    constructor <;> intro _
    · omega
    · split <;> omega
  · -- Below an odd quotient a half is rounded up too.
    have rounds : (decide (2 * half < 2 * remainder) ||
        2 * remainder == 2 * half && (2 * j + 1) % 2 == 1) = decide (half ≤ remainder) := by
      rw [Bool.eq_iff_iff]
      simp
      omega
    rw [rounds]
    by_cases high : half ≤ remainder <;> simp [high] <;> omega
  · have scaled := Nat.mul_le_mul_left (2 * half) (Nat.succ_le_of_lt above)
    rw [Nat.mul_succ] at scaled
    constructor <;> intro less
    · split at less <;> omega
    · omega

theorem nearest_eq {n : Nat} (positive : n ≠ 0) (large : 52 ≤ n.log2) (negative : Bool) :
    nearest negative n 1 = Float.ofBits (UInt64.ofNat ((if negative then Nat.pow 2 63 else 0) +
      min ((n.log2 + 1022) * Nat.pow 2 52 + roundHalfEven n (2 ^ (n.log2 - 52)))
        (2047 * Nat.pow 2 52))) := by
  have whole : max ((n.log2 : Int) - 52) (-1074) = ((n.log2 - 52 : Nat) : Int) := by omega
  have steps : (((n.log2 - 52 : Nat) : Int) + 1074).toNat = n.log2 + 1022 := by omega
  simp [nearest, positive, floorLog2_whole positive, whole, steps, powerOfTwo]

theorem top_lt_iff (n : Nat) : roundHalfEven n (2 ^ 971) < 2 ^ 53 ↔ n < overflow := by
  have step : 2 ^ 971 = 2 * 2 ^ 970 := by rw [← pow_succ']
  have top : 2 ^ 1024 = 2 ^ 970 * 2 ^ 54 := by rw [← pow_add]
  have positive (exponent : Nat) : 0 < 2 ^ exponent := Nat.two_pow_pos exponent
  have rounds := roundHalfEven_lt_iff (n := n) (positive 970) (2 ^ 52 - 1)
  unfold overflow
  rw [step, top]
  generalize 2 ^ 970 = half at rounds
  simp only [Nat.reducePow, Nat.reduceSub, Nat.reduceAdd, Nat.reduceMul] at rounds ⊢
  rw [rounds]
  omega

theorem nearest_infinite {n : Nat} (large : overflow ≤ n) (negative : Bool) :
    nearest negative n 1 = Float.ofBits (UInt64.ofNat ((if negative then Nat.pow 2 63 else 0) +
      2047 * Nat.pow 2 52)) := by
  have positive (exponent : Nat) : 0 < 2 ^ exponent := Nat.two_pow_pos exponent
  have given : n ≠ 0 := ((Nat.zero_le _).trans_lt (lt_overflow.trans_le large)).ne'
  have digits (k : Nat) : 2 ^ k ≤ n → k ≤ n.log2 := (Nat.le_log2 given).mpr
  have magnitude := digits 1023 (lt_overflow.le.trans large)
  rw [nearest_eq given (by omega)]
  congr 3
  refine Nat.min_eq_right ?_
  rcases Nat.eq_or_lt_of_le magnitude with same | above
  · have full : ¬ roundHalfEven n (2 ^ 971) < 2 ^ 53 := mt (top_lt_iff n).mp (by omega)
    have exponent : 1023 - 52 = 971 := rfl
    rw [← same, exponent]
    generalize roundHalfEven n (2 ^ 971) = significand at full ⊢
    simp only [Nat.pow_eq, Nat.reducePow] at full ⊢
    omega
  · have half : 2 ^ 52 ≤ n / 2 ^ (n.log2 - 52) := by
      rw [Nat.le_div_iff_mul_le (positive _), ← pow_add]
      exact (Nat.pow_le_pow_right two_pos (by omega)).trans (Nat.log2_self_le given)
    have significand := half.trans (le_roundHalfEven n (2 ^ (n.log2 - 52)))
    simp only [Nat.pow_eq, Nat.reducePow] at significand ⊢
    omega

theorem nearest_finite {n : Nat} (small : n < overflow) (negative : Bool) :
    (nearest negative n 1).isFinite := by
  rcases Nat.lt_or_ge n.log2 1023 with below | top
  · exact nearest_isFinite negative (by omega)
  · have given : n ≠ 0 := by
      rintro rfl
      simp at top
    have digits (k : Nat) : n < 2 ^ k → n.log2 < k := (Nat.log2_lt given).mpr
    have whole := digits 1024 (small.trans_le (Nat.sub_le _ _))
    have magnitude : n.log2 = 1023 := by omega
    have significand := (top_lt_iff n).mpr small
    have exponent : 1023 - 52 = 971 := rfl
    rw [nearest_eq given (by omega), magnitude, exponent]
    apply ofBits_isFinite
    rw [UInt64.toNat_ofNat']
    generalize roundHalfEven n (2 ^ 971) = rounded at significand ⊢
    simp only [Nat.pow_eq, Nat.reducePow] at significand ⊢
    cases negative <;> simp only [↓reduceIte, Bool.false_eq_true] <;> omega

theorem infinite_isInf (negative : Bool) :
    (Float.ofBits (UInt64.ofNat ((if negative then Nat.pow 2 63 else 0) +
      2047 * Nat.pow 2 52))).isInf = true := by
  cases negative <;> decide +kernel

end Fabula.Binary64

theorem Fabula.Number.isFinite_int_eq (n : Int) : isFinite (.int n) =
    if n.natAbs < Binary64.overflow then .ok true else .error .tooLarge := by
  split
  · next small =>
    have finite : (Binary64.ofInt n).isFinite := Binary64.nearest_finite small _
    have notInfinite := Binary64.isInf_of_isFinite finite
    simp [isFinite, toFloat, notInfinite, finite, bind, Except.bind, pure, Except.pure]
  · next large =>
    have infinite : (Binary64.ofInt n).isInf := by
      rw [Binary64.ofInt, Binary64.nearest_infinite (Nat.le_of_not_lt large)]
      exact Binary64.infinite_isInf _
    simp [isFinite, toFloat, infinite, bind, Except.bind]
