import Fabula.Proofs.Number.Sum
/-!
# Hours of the day

What remains of a number of hours after whole days are taken away is exact, with the sign of the
number. A negative rest is added to a day, and the sum is rounded: from half a step below the day on
it is the whole day. Main statements:

* `parts_remainder`: the rest is exact;
* `value_divMod`: the hour of the day lies between zero and a whole day, which only a sliver of an
  hour below zero reaches.
-/

namespace Fabula.Binary64

theorem roundHalfEven_shifted_le {n bound i j : Nat} (below : n ≤ bound * 2 ^ j) :
    roundHalfEven (n * 2 ^ (i - j)) (2 ^ (j - i)) ≤ bound * 2 ^ i := by
  apply roundHalfEven_le_of_le (Nat.two_pow_pos _)
  calc n * 2 ^ (i - j)
      ≤ bound * 2 ^ j * 2 ^ (i - j) := Nat.mul_le_mul_right _ below
    _ = bound * 2 ^ i * 2 ^ (j - i) := by
      rw [mul_assoc, mul_assoc, ← pow_add, ← pow_add]
      congr 2
      omega

theorem day_scaled {j : Nat} (fine : 48 ≤ j) : 24 * 2 ^ j = 24 * 2 ^ 48 * 2 ^ (j - 48) := by
  rw [mul_assoc, ← pow_add, Nat.add_sub_cancel' fine]

theorem log2_lt_day {m j : Nat} (less : m < 24 * 2 ^ j) : (24 * 2 ^ j - m).log2 < j + 5 := by
  apply (Nat.log2_lt (Nat.sub_ne_zero_of_lt less)).mpr
  rw [pow_add]
  omega

/-- What remains of a day after a little has been taken off is rounded to the whole day from half a
step below it on. -/
theorem rounds_to_day_iff {m j : Nat} (fine : 48 ≤ j) (some : 0 < m) (less : m < 24 * 2 ^ j) :
    roundHalfEven (24 * 2 ^ j - m) (2 ^ (j - 48)) = 24 * 2 ^ 48 ↔ m * 2 ^ 49 ≤ 2 ^ j := by
  have rounds := roundHalfEven_le_of_le (Nat.two_pow_pos (j - 48))
    ((Nat.sub_le _ m).trans (day_scaled fine).le)
  rcases Nat.eq_or_lt_of_le fine with rfl | finer
  · -- With a digit for each step nothing is rounded.
    have exact : roundHalfEven (24 * 2 ^ 48 - m) (2 ^ (48 - 48)) = 24 * 2 ^ 48 - m := by
      simpa only [Nat.sub_self, pow_zero, mul_one] using roundHalfEven_mul (24 * 2 ^ 48 - m) one_pos
    omega
  · obtain ⟨steps, rfl⟩ : ∃ steps, j = 48 + 1 + steps := Nat.exists_eq_add_of_le finer
    have step : 2 ^ (48 + 1 + steps - 48) = 2 * 2 ^ steps := by
      rw [← pow_succ']
      congr 1
      omega
    have split : 2 ^ (48 + 1 + steps) = 2 ^ 49 * 2 ^ steps := pow_add 2 49 steps
    have upTo := roundHalfEven_lt_iff (n := 24 * 2 ^ (48 + 1 + steps) - m) (Nat.two_pow_pos steps)
      (12 * 2 ^ 48 - 1)
    rw [step] at rounds ⊢
    rw [split] at rounds upTo less ⊢
    generalize 2 ^ steps = half at *
    generalize roundHalfEven _ _ = rounded at *
    omega

theorem rounded_day {m j : Nat} (fine : 48 ≤ j) (bounded : j ≤ 1074) (some : 0 < m)
    (less : m < 24 * 2 ^ j) :
    ∃ i digits : Nat, Parts.rounded false (24 * 2 ^ j - m) (-j) = .carried false digits (-i) ∧
      digits ≤ 24 * 2 ^ i ∧ (digits = 24 * 2 ^ i ↔ m * 2 ^ 49 ≤ 2 ^ j) := by
  have left : 24 * 2 ^ j - m ≠ 0 := Nat.sub_ne_zero_of_lt less
  have log := log2_lt_day less
  obtain ⟨i, target⟩ : ∃ i : Nat, targetExponent (24 * 2 ^ j - m) (-j) = -i := by
    refine ⟨(-targetExponent (24 * 2 ^ j - m) (-j)).toNat, ?_⟩
    unfold targetExponent
    omega
  have up : (-(j : Int) - -i).toNat = i - j := by omega
  have down : (-(i : Int) - -j).toNat = j - i := by omega
  refine ⟨i, _, by rw [Parts.rounded, roundedDigits, target, up, down],
    roundHalfEven_shifted_le (Nat.sub_le _ _), ?_⟩
  -- The step between floats is that below a day only down to 16 hours.
  rcases Nat.lt_or_ge (24 * 2 ^ j - m) (16 * 2 ^ j) with small | large
  · have under := roundHalfEven_shifted_le (i := i) small.le
    have positive := Nat.two_pow_pos i
    omega
  · have digits : j + 4 ≤ (24 * 2 ^ j - m).log2 := by
      apply (Nat.le_log2 left).mpr
      rw [pow_add]
      omega
    obtain rfl : i = 48 := by
      unfold targetExponent at target
      omega
    rw [Nat.sub_eq_zero_of_le fine, pow_zero, mul_one]
    exact rounds_to_day_iff fine some less

theorem value_sum {rest day : Float} {m j : Nat} (before : parts rest = .finite true m (-j))
    (whole : parts day = .finite false (24 * 2 ^ 48) (-48)) (fine : 48 ≤ j) (bounded : j ≤ 1074)
    (some : 0 < m) (less : m < 24 * 2 ^ j) :
    ∃ hour : Rat, value (rest + day) = .finite hour ∧ 0 ≤ hour ∧ hour ≤ 24 ∧
      (hour = 24 ↔ m * 2 ^ 49 ≤ 2 ^ j) := by
  have log := log2_lt_day less
  obtain ⟨i, digits, rounds, bound, full⟩ := rounded_day fine bounded some less
  rw [day_scaled fine] at less log rounds
  have sum := parts_add (i := 48) before whole fine some less (by omega)
  rw [rounds] at sum
  have up : (0 : Rat) < 2 ^ i := by positivity
  have scaled : (signed false digits : Rat) * 2 ^ (-(i : Int)) = digits / 2 ^ i := by
    rw [zpow_neg, zpow_natCast]
    rfl
  refine ⟨digits / 2 ^ i, scaled ▸ value_of_carried sum, by positivity, ?_, ?_⟩
  · rw [div_le_iff₀ up]
    exact_mod_cast bound
  · rw [div_eq_iff up.ne', ← full]
    exact_mod_cast Iff.rfl

theorem divMod_snd (x : Float) (modulus : Nat) : (divMod x modulus).2 =
    if remainder x modulus < 0 then remainder x modulus + ofInt modulus
    else if remainder x modulus == 0 then 0.0 else remainder x modulus := by
  unfold divMod
  simp only
  by_cases below : remainder x modulus < 0
  · simp only [below, ↓reduceIte]
    split <;> rfl
  · simp only [below, ↓reduceIte]
    split <;> rfl

def beyondDays (significand : Nat) (exponent : Int) : Nat :=
  significand * 2 ^ exponent.toNat % (24 * 2 ^ (-exponent).toNat)

theorem beyondDays_lt (significand : Nat) (exponent : Int) :
    beyondDays significand exponent < 24 * 2 ^ (-exponent).toNat :=
  Nat.mod_lt _ (by positivity)

theorem beyondDays_small {significand : Nat} (exponent : Int) (small : significand < 2 ^ 53) :
    beyondDays significand exponent < 2 ^ 53 := by
  rcases le_total 0 exponent with whole | fraction
  · have less := beyondDays_lt significand exponent
    rw [Int.toNat_of_nonpos (Int.neg_nonpos_of_nonneg whole), pow_zero] at less
    omega
  · refine (Nat.mod_le _ _).trans_lt ?_
    rwa [Int.toNat_of_nonpos fraction, pow_zero, mul_one]

theorem beyondDays_tiny_iff {significand : Nat} {exponent : Int} (small : significand < 2 ^ 53) :
    beyondDays significand exponent ≠ 0 ∧
        beyondDays significand exponent * 2 ^ 49 ≤ 2 ^ (-exponent).toNat ↔
      significand ≠ 0 ∧ significand * 2 ^ exponent.toNat * 2 ^ 49 ≤ 2 ^ (-exponent).toNat := by
  have unit := Nat.two_pow_pos (-exponent).toNat
  unfold beyondDays
  rcases Nat.lt_or_ge (significand * 2 ^ exponent.toNat) (24 * 2 ^ (-exponent).toNat) with
    within | beyond
  · rw [Nat.mod_eq_of_lt within]
    simp
  · constructor
    · rintro ⟨some, tiny⟩
      have fine : 2 ^ 49 ≤ 2 ^ (-exponent).toNat :=
        (Nat.le_mul_of_pos_left _ (Nat.pos_of_ne_zero some)).trans tiny
      have negative : exponent.toNat = 0 := by
        have digits := (Nat.pow_le_pow_iff_right one_lt_two).mp fine
        omega
      rw [negative] at beyond
      omega
    · rintro ⟨some, tiny⟩
      omega

theorem parts_day : parts (ofInt 24) = .finite false (24 * 2 ^ 48) (-48) := by
  decide

theorem remainder_of_parts {x : Float} {negative : Bool} {significand : Nat} {exponent : Int}
    (shape : parts x = .finite negative significand exponent) :
    remainder x 24 =
      nearest negative (beyondDays significand exponent) (2 ^ (-exponent).toNat) := by
  simp only [remainder, shape, powerOfTwo_eq, beyondDays]

theorem parts_remainder {x : Float} {negative : Bool} {significand : Nat} {exponent : Int}
    (shape : parts x = .finite negative significand exponent) :
    ∃ m j : Nat, parts (remainder x 24) = .finite negative m (-j) ∧ 48 ≤ j ∧ j ≤ 1074 ∧
      m < 24 * 2 ^ j ∧ (m ≠ 0 ∧ m * 2 ^ 49 ≤ 2 ^ j ↔
        significand ≠ 0 ∧ significand * 2 ^ exponent.toNat * 2 ^ 49 ≤ 2 ^ (-exponent).toNat) := by
  have canonical := parts_canonical x
  rw [shape] at canonical
  obtain ⟨small, least, -, -⟩ := canonical
  have less := beyondDays_lt significand exponent
  obtain ⟨j, finer, bounded, fine, exact⟩ := parts_nearest_exact negative
    (beyondDays_small exponent small) (by omega : (-exponent).toNat ≤ 1074)
  have scale : 2 ^ j = 2 ^ (-exponent).toNat * 2 ^ (j - (-exponent).toNat) := by
    rw [← pow_add, Nat.add_sub_cancel' finer]
  have up := Nat.two_pow_pos (j - (-exponent).toNat)
  refine ⟨_, j, remainder_of_parts shape ▸ exact, fine 48 (by decide) ?_, bounded, ?_, ?_⟩
  · rw [pow_add]
    omega
  · rw [scale, ← mul_assoc]
    exact Nat.mul_lt_mul_of_pos_right less up
  · rw [← beyondDays_tiny_iff small, scale, mul_right_comm, Nat.mul_le_mul_right_iff up]
    simp

def Sliver (q : Rat) : Prop :=
  -(1 / 2 ^ 49) ≤ q ∧ q < 0

theorem sliver_signed (negative : Bool) (significand : Nat) (exponent : Int) :
    Sliver (signed negative significand * 2 ^ exponent) ↔ negative = true ∧
      significand ≠ 0 ∧ significand * 2 ^ exponent.toNat * 2 ^ 49 ≤ 2 ^ (-exponent).toNat := by
  have unit : (0 : Rat) < 2 ^ exponent := by positivity
  have magnitude : (significand : Rat) * 2 ^ exponent =
      (significand * 2 ^ exponent.toNat : Nat) / (2 ^ (-exponent).toNat : Nat) := by
    rw [zpow_eq_div]
    push_cast
    ring
  unfold Sliver
  cases negative with
  | false =>
    have above : (0 : Rat) ≤ significand * 2 ^ exponent := by positivity
    simp [cast_signed_false, above.not_gt]
  | true =>
    have some : -(significand * 2 ^ exponent : Rat) < 0 ↔ significand ≠ 0 := by
      rw [neg_lt_zero, mul_pos_iff_of_pos_right unit, Nat.cast_pos, Nat.pos_iff_ne_zero]
    have tiny : -(1 / 2 ^ 49 : Rat) ≤ -(significand * 2 ^ exponent) ↔
        significand * 2 ^ exponent.toNat * 2 ^ 49 ≤ 2 ^ (-exponent).toNat := by
      rw [neg_le_neg_iff, magnitude, div_le_div_iff₀ (by positivity) (by positivity), one_mul]
      exact_mod_cast Iff.rfl
    rw [cast_signed_true, neg_mul, some, tiny]
    simp only [true_and]
    exact and_comm

/-- The hour of the day that is left of a finite number of hours. Only a sliver below zero is
rounded up to a whole day. -/
theorem value_divMod {x : Float} {q : Rat} (finite : value x = .finite q) :
    ∃ hour : Rat, value (divMod x 24).2 = .finite hour ∧ 0 ≤ hour ∧ hour ≤ 24 ∧
      (hour = 24 ↔ Sliver q) := by
  obtain ⟨negative, significand, exponent, shape, rfl⟩ := parts_of_value finite
  obtain ⟨m, j, rest, fine, bounded, less, tiny⟩ := parts_remainder shape
  have unit : (0 : Rat) < 2 ^ j := by positivity
  rw [sliver_signed, ← tiny, divMod_snd]
  simp only [lt_zero_iff rest, beq_zero_iff rest]
  by_cases zero : m = 0
  · subst zero
    have still : value 0.0 = .finite 0 := by
      have shape : parts 0.0 = .finite false 0 (-1074) := by decide
      rw [value_of_parts shape, cast_signed_false, Nat.cast_zero, zero_mul]
    simp [still]
  cases negative with
  | false =>
    have exact := value_of_parts rest
    rw [cast_signed_false, zpow_neg, zpow_natCast, ← div_eq_mul_inv] at exact
    have within : (m : Rat) / 2 ^ j < 24 := by
      rw [div_lt_iff₀ unit]
      exact_mod_cast less
    refine ⟨m / 2 ^ j, by simpa [zero] using exact, by positivity, within.le, ?_⟩
    simp [within.ne]
  | true =>
    obtain ⟨hour, exact, least, most, full⟩ :=
      value_sum rest parts_day fine bounded (Nat.pos_of_ne_zero zero) less
    refine ⟨hour, by simpa [zero] using exact, least, most, ?_⟩
    simp only [full, true_and, ne_eq, zero, not_false_eq_true]

theorem parts_remainder_nan {x : Float} (modulus : Nat) (none : ∀ q, value x ≠ .finite q) :
    parts (remainder x modulus) = .nan := by
  have undefined : parts (0.0 / 0.0) = .nan := by decide
  cases shape : parts x with
  | nan | infinite negative => simpa only [remainder, shape] using undefined
  | finite negative significand exponent => exact absurd (value_of_parts shape) (none _)

theorem floor?_nan {x : Float} (none : parts x = .nan) : floor? x = Option.none := by
  simp [floor?, truncate?, none]

theorem divMod_fst_nan {x : Float} (modulus : Nat) (none : ∀ q, value x ≠ .finite q) :
    parts (divMod x modulus).1 = .nan := by
  have rest := parts_remainder_nan modulus none
  have quotient := parts_nan_div (ofInt modulus) (parts_sub_nan x rest)
  unfold divMod
  simp only [not_lt_zero_of_nan rest, ↓reduceIte, floor?_nan quotient]
  exact quotient

end Fabula.Binary64
