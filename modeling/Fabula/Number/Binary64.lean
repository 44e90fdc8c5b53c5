/-!
# Exact values of binary64 numbers

A finite binary64 number is a whole significand times a power of two. Everything here is computed
exactly on that form: the rational value, the whole part and the nearest number to a quotient.
-/

namespace Fabula.Binary64

/-- A binary64 number taken apart; a finite one is `± significand * 2 ^ exponent`. -/
inductive Parts where
  | nan
  | infinite (negative : Bool)
  | finite (negative : Bool) (significand : Nat) (exponent : Int)
deriving DecidableEq, Repr

def parts (x : Float) : Parts :=
  let bits : Nat := x.toBits.toNat
  let negative := bits / Nat.pow 2 63 == 1
  let biased : Nat := bits / Nat.pow 2 52 % Nat.pow 2 11
  let fraction : Nat := bits % Nat.pow 2 52
  if biased == 2047 then if fraction == 0 then .infinite negative else .nan
  else if biased == 0 then .finite negative fraction (-1074)
  else .finite negative (Nat.pow 2 52 + fraction) ((biased : Int) - 1075)

def powerOfTwo (exponent : Int) : Nat × Nat :=
  if 0 ≤ exponent then (Nat.pow 2 exponent.toNat, 1) else (1, Nat.pow 2 (-exponent).toNat)

def signed (negative : Bool) (n : Nat) : Int :=
  if negative then -(n : Int) else n

def roundHalfEven (numerator denominator : Nat) : Nat :=
  let quotient := numerator / denominator
  let twice := 2 * (numerator % denominator)
  if denominator < twice || (twice == denominator && quotient % 2 == 1) then quotient + 1
  else quotient

def floorLog2 (numerator denominator : Nat) : Int :=
  let guess : Int := (numerator.log2 : Int) - denominator.log2
  let (up, down) := powerOfTwo guess
  if denominator * up ≤ numerator * down then guess else guess - 1

/-- The binary64 number nearest to a quotient, a half to the even neighbour; infinity where the
nearest number would need an exponent too large. -/
def nearest (negative : Bool) (numerator denominator : Nat) : Float :=
  let sign := if negative then Nat.pow 2 63 else 0
  if numerator == 0 then Float.ofBits (UInt64.ofNat sign)
  else
    let exponent := max (floorLog2 numerator denominator - 52) (-1074)
    let (up, down) := powerOfTwo exponent
    let significand := roundHalfEven (numerator * down) (denominator * up)
    let bits := (exponent + 1074).toNat * Nat.pow 2 52 + significand
    Float.ofBits (UInt64.ofNat (sign + min bits (2047 * Nat.pow 2 52)))

inductive Extended where
  | nan
  | negativeInfinity
  | finite (value : Rat)
  | positiveInfinity
deriving DecidableEq, Repr

def value (x : Float) : Extended :=
  match parts x with
  | .nan => .nan
  | .infinite true => .negativeInfinity
  | .infinite false => .positiveInfinity
  | .finite negative significand exponent =>
    let (up, down) := powerOfTwo exponent
    .finite (mkRat (signed negative (significand * up)) down)

def Extended.lt : Extended → Extended → Bool
  | .nan, _ | _, .nan => false
  | .negativeInfinity, .negativeInfinity => false
  | .negativeInfinity, _ => true
  | _, .negativeInfinity => false
  | .positiveInfinity, _ => false
  | _, .positiveInfinity => true
  | .finite a, .finite b => a < b

def Extended.same (a b : Extended) : Bool :=
  a != .nan && a == b

def truncate? (x : Float) : Option (Int × Bool) :=
  match parts x with
  | .finite negative significand exponent =>
    let (up, down) := powerOfTwo exponent
    let scaled := significand * up
    some (signed negative (scaled / down), scaled % down != 0)
  | _ => none

def floor? (x : Float) : Option Int :=
  match truncate? x with
  | some (whole, true) => some (if x < 0 then whole - 1 else whole)
  | some (whole, false) => some whole
  | none => none

def whole? (x : Float) : Option Int :=
  match truncate? x with
  | some (whole, false) => some whole
  | _ => none

def ofInt (n : Int) : Float :=
  nearest (n < 0) n.natAbs 1

def remainder (x : Float) (modulus : Nat) : Float :=
  match parts x with
  | .finite negative significand exponent =>
    let (up, down) := powerOfTwo exponent
    nearest negative (significand * up % (modulus * down)) down
  | _ => 0.0 / 0.0

/-- Quotient and remainder by a positive natural, where the remainder is not negative. The
quotient is rounded to a number after it has been computed from the exact remainder, and adding
the modulus to a tiny negative remainder may round up to the modulus itself. -/
def divMod (x : Float) (modulus : Nat) : Float × Float :=
  let divisor := ofInt modulus
  let rest := remainder x modulus
  let quotient := (x - rest) / divisor
  let (quotient, rest) :=
    if rest < 0 then (quotient - 1.0, rest + divisor)
    else (quotient, if rest == 0 then 0.0 else rest)
  match floor? quotient with
  | some below =>
    let below := ofInt below
    (if 0.5 < quotient - below then below + 1.0 else below, rest)
  | none => (quotient, rest)

end Fabula.Binary64
