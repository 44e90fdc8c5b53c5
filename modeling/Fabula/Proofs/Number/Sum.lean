import Fabula.Proofs.Number.Rounding
/-!
# Sums of floats

A sum is computed exactly and then rounded. What is no number makes no number of all that is
computed from it. Main statements:

* `parts_add`: a negative float added to a greater positive one;
* `parts_add_nan`, `parts_sub_nan`, `parts_nan_div`: what is no number stays none.
-/

namespace Fabula.Binary64
open Float.Model Float.Model.UnpackedFloat

theorem normalize_natCast {n : Nat} (positive : 0 < n) (exponent : Int) (zeroSign : Sign) :
    UnpackedFloat.normalize .binary64 n exponent zeroSign =
      UnpackedFloat.round .binary64 .positive n exponent := by
  have above : compare (n : Int) 0 = .gt := compare_gt_iff_gt.mpr (Int.natCast_pos.mpr positive)
  unfold UnpackedFloat.normalize
  rw [above]
  rfl

theorem add_finite {signA signB : Sign} {m n : Nat} {i j : Int} (positiveA : 0 < m)
    (positiveB : 0 < n) :
    UnpackedFloat.add .binary64 (.finite signA m i positiveA) (.finite signB n j positiveB) =
      UnpackedFloat.normalize .binary64
        (signA.apply (decreaseExponent m i (min i j)).1 +
          signB.apply (decreaseExponent n j (min i j)).1) (min i j) .positive :=
  rfl

theorem parts_add {a b : Float} {m n i j : Nat} (negative : parts a = .finite true m (-j))
    (positive : parts b = .finite false n (-i)) (finer : i ≤ j) (some : 0 < m)
    (less : m < n * 2 ^ (j - i)) (range : (n * 2 ^ (j - i) - m).log2 ≤ 1022 + j) :
    parts (a + b) = .rounded false (n * 2 ^ (j - i) - m) (-j) := by
  have given : 0 < n := Nat.pos_of_ne_zero fun zero => by simp [zero] at less
  have difference : 0 < n * 2 ^ (j - i) - m := Nat.sub_pos_of_lt less
  obtain ⟨_ | _, minus, unpackedA⟩ := unpack_of_parts negative some
  swap
  · cases minus
  obtain ⟨_ | _, plus, unpackedB⟩ := unpack_of_parts positive given
  · cases plus
  have least : min (-(j : Int)) (-i) = -j := by omega
  have steps : (-(i : Int) - -j).toNat = j - i := by omega
  have exact : Sign.apply .negative m + Sign.apply .positive (n * 2 ^ (j - i) : Nat) =
      (n * 2 ^ (j - i) - m : Nat) := by
    simp only [Sign.apply]
    omega
  have sum : UnpackedFloat.add .binary64 a.toModel.unpack b.toModel.unpack =
      UnpackedFloat.round .binary64 .positive (n * 2 ^ (j - i) - m) (-j) := by
    rw [unpackedA, unpackedB, add_finite]
    simp only [decreaseExponent, least, steps, sub_self, Int.toNat_zero, Nat.shiftLeft_eq, pow_zero,
      mul_one, exact]
    exact normalize_natCast difference _ _
  have canonical := Parts.canonical_rounded false difference.ne' (-j) (by omega)
  have rounds := ofUnpacked_round .positive difference.ne' (-j)
  change parts (.ofModel (pack (UnpackedFloat.add .binary64 a.toModel.unpack b.toModel.unpack))) = _
  rw [sum, parts_pack, rounds]
  · rfl
  · rw [rounds]
    exact canonical

theorem parts_add_nan {x : Float} (y : Float) (none : parts x = .nan) : parts (y + x) = .nan := by
  have none := parts_nan_iff.mp none
  have sum : UnpackedFloat.add .binary64 y.toModel.unpack x.toModel.unpack = .notANumber := by
    rw [none]
    cases y.toModel.unpack <;> rfl
  change parts (.ofModel (pack (UnpackedFloat.add .binary64 y.toModel.unpack x.toModel.unpack))) = _
  rw [sum]
  exact parts_pack trivial

theorem parts_sub_nan {x : Float} (y : Float) (none : parts x = .nan) : parts (y - x) = .nan := by
  have none := parts_nan_iff.mp none
  have difference :
      UnpackedFloat.sub .binary64 y.toModel.unpack x.toModel.unpack = .notANumber := by
    rw [none]
    cases y.toModel.unpack <;> rfl
  change parts (.ofModel (pack (UnpackedFloat.sub .binary64 y.toModel.unpack x.toModel.unpack))) = _
  rw [difference]
  exact parts_pack trivial

theorem parts_nan_div {x : Float} (y : Float) (none : parts x = .nan) : parts (x / y) = .nan := by
  have none := parts_nan_iff.mp none
  have quotient : UnpackedFloat.div .binary64 x.toModel.unpack y.toModel.unpack = .notANumber := by
    rw [none]
    cases y.toModel.unpack <;> rfl
  change parts (.ofModel (pack (UnpackedFloat.div .binary64 x.toModel.unpack y.toModel.unpack))) = _
  rw [quotient]
  exact parts_pack trivial

end Fabula.Binary64
