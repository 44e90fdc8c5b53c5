import Fabula.Number.Binary64
/-!
# Number text

A binary64 number is written with the fewest decimal digits that read back as the same number, and
of those with the digits nearest to it. Values with a decimal exponent from -4 to 15 are written
positionally and always show a point; all others in exponent form.
-/

namespace Fabula.Binary64

structure Decimal where
  digits : Nat
  exponent : Int
deriving DecidableEq, Repr

def floorLog10From (numerator denominator : Nat) : Nat → Int → Int
  | 0, guess => guess
  | steps + 1, guess =>
    let above := guess + 1
    let reached :=
      if 0 ≤ above then denominator * Nat.pow 10 above.toNat ≤ numerator
      else denominator ≤ numerator * Nat.pow 10 (-above).toNat
    if reached then floorLog10From numerator denominator steps above else guess

def floorLog10 (numerator denominator : Nat) : Int :=
  let guess := (floorLog2 numerator denominator * 1233).fdiv 4096 - 2
  floorLog10From numerator denominator 6 guess

/-- Of the two neighbours of a positive number on the grid `10 ^ exponent`, the nearer one that
lies between the bounds, if one does. The number is `value / scale`, the bounds are
`low / scale` and `high / scale`, and `inclusive` tells whether they belong to the range. -/
def gridNeighbour? (low value high scale : Nat) (inclusive : Bool) (exponent : Int) :
    Option Decimal :=
  let up := if 0 ≤ exponent then Nat.pow 10 exponent.toNat else 1
  let down := if 0 ≤ exponent then 1 else Nat.pow 10 (-exponent).toNat
  let unit := scale * up
  let below := value * down / unit
  let within (digits : Nat) : Bool :=
    let point := digits * unit
    if inclusive then low * down ≤ point && point ≤ high * down
    else low * down < point && point < high * down
  let twice := 2 * (value * down - below * unit)
  let preferBelow := twice < unit || (twice == unit && below % 2 == 0)
  match within below, within (below + 1) with
  | true, true => some ⟨if preferBelow then below else below + 1, exponent⟩
  | true, false => some ⟨below, exponent⟩
  | false, true => some ⟨below + 1, exponent⟩
  | false, false => none

def shortestFrom (low value high scale : Nat) (inclusive : Bool) : Nat → Int → Decimal
  | 0, exponent =>
    ⟨value * Nat.pow 10 (-exponent).toNat / (scale * Nat.pow 10 exponent.toNat), exponent⟩
  | grids + 1, exponent =>
    match gridNeighbour? low value high scale inclusive exponent with
    | some decimal => decimal
    | none => shortestFrom low value high scale inclusive grids (exponent - 1)

/-- The shortest decimal that reads back as the positive number `significand * 2 ^ exponent`. All
reals that round to it lie between half a step below and half a step above; the step below is
half as wide where the significand is the smallest of its binade. -/
def shortest (significand : Nat) (exponent : Int) : Decimal :=
  let (up, down) := powerOfTwo exponent
  let narrow := significand == Nat.pow 2 52 && -1074 < exponent
  let value := 4 * significand * up
  let low := value - (if narrow then up else 2 * up)
  let high := value + 2 * up
  let scale := 4 * down
  shortestFrom low value high scale (significand % 2 == 0) 17 (floorLog10 value scale)

def scientific (significand : Nat) (exponent : Int) : List Char × Int :=
  let decimal := shortest significand exponent
  let digits := (Nat.repr decimal.digits).toList
  let kept := (digits.reverse.dropWhile (· == '0')).reverse
  (kept, decimal.exponent + digits.length - 1)

def positional (digits : List Char) (exponent : Int) : List Char :=
  if exponent < 0 then
    '0' :: '.' :: List.replicate (-exponent - 1).toNat '0' ++ digits
  else
    let whole := exponent.toNat + 1
    let padded := digits ++ List.replicate (whole - digits.length) '0'
    let fraction := digits.drop whole
    padded.take whole ++ '.' :: (if fraction.isEmpty then ['0'] else fraction)

def exponential (digits : List Char) (exponent : Int) : List Char :=
  let mantissa :=
    match digits with
    | [] => []
    | [digit] => [digit]
    | digit :: rest => digit :: '.' :: rest
  let magnitude := (Nat.repr exponent.natAbs).toList
  mantissa ++ 'e' :: (if exponent < 0 then '-' else '+') ::
    (if magnitude.length < 2 then '0' :: magnitude else magnitude)

def text (x : Float) : String :=
  match parts x with
  | .nan => "nan"
  | .infinite true => "-inf"
  | .infinite false => "inf"
  | .finite negative 0 _ => if negative then "-0.0" else "0.0"
  | .finite negative significand exponent =>
    let (digits, decimalExponent) := scientific significand exponent
    let body :=
      if -4 ≤ decimalExponent && decimalExponent < 16 then positional digits decimalExponent
      else exponential digits decimalExponent
    String.ofList (if negative then '-' :: body else body)

end Fabula.Binary64
