import Fabula.Number.Binary64
/-!
# The hypotenuse

The length of the hypotenuse over two sides. A power of two brings the sides below one, and the sum
of their squares starts at one, so that no term exceeds it. What rounding cuts off the sum is
collected beside it, and the square root is improved once by what its square leaves of the sum. The
length is nearly always the nearest number to the exact one; where that lies close to the middle of
two numbers, it can be the other one.
-/

namespace Fabula.Binary64

def halves (x : Float) : Float × Float :=
  let spread := x * 134217729.0
  let high := spread - (spread - x)
  (high, x - high)

def cutOff (total x : Float) : Float :=
  (total - (total + x)) + x

/-- A sum of squares that started at one, and what rounding has cut off it. A square has a large, a
middle and a small term, and each kind is kept apart. -/
structure SquareSum where
  total : Float
  large : Float
  middle : Float
  small : Float
deriving Repr

namespace SquareSum

def zero : SquareSum :=
  ⟨1.0, 0.0, 0.0, 0.0⟩

def add (sum : SquareSum) (sign x : Float) : SquareSum :=
  let (high, low) := halves x
  let large := sign * (high * high)
  let middle := sign * (2.0 * high * low)
  let small := sign * (low * low)
  let first := sum.total + large
  let second := first + middle
  { total := second + small
    large := sum.large + cutOff sum.total large
    middle := sum.middle + cutOff first middle
    small := sum.small + cutOff second small }

def value (sum : SquareSum) : Float :=
  sum.total - 1.0 + (sum.large + sum.middle + sum.small)

def root (sum : SquareSum) : Float :=
  let root := Float.sqrt sum.value
  root + (sum.add (-1.0) root).value / (2.0 * root)

end SquareSum

def magnitude (x : Float) : Int :=
  match parts x with
  | .finite _ significand exponent => exponent + significand.log2 + 1
  | _ => 0

def scaledHypotenuse (scale x y : Float) : Float :=
  ((SquareSum.zero.add 1.0 (x * scale)).add 1.0 (y * scale)).root / scale

def relativeHypotenuse (longer x y : Float) : Float :=
  let add := fun (sum, lost) (side : Float) =>
    let part := side / longer
    let square := part * part
    (sum + square, lost + cutOff sum square)
  let (sum, lost) := add (add (1.0, 0.0) x) y
  longer * Float.sqrt (sum - 1.0 + lost)

/-- The length of the hypotenuse over two sides. Sides that no power of two brings near one are
measured relative to the longer one. -/
def hypotenuse (x y : Float) : Float :=
  match parts x, parts y with
  | .infinite _, _ | _, .infinite _ => 1.0 / 0.0
  | .nan, _ | _, .nan => 0.0 / 0.0
  | .finite .., .finite .. =>
    let x := x.abs
    let y := y.abs
    let longer := if x < y then y else x
    if longer == 0.0 then 0.0
    else if magnitude longer < -1023 then relativeHypotenuse longer x y
    else
      let (up, down) := powerOfTwo (-magnitude longer)
      scaledHypotenuse (nearest false up down) x y

end Fabula.Binary64
