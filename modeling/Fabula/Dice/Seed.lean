import Fabula.Dice.Digest
import Fabula.Value.Reading
/-!
# Seeds

What a source of numbers is started from. The sign of an integer does not matter. Other numbers are
taken modulo a prime, and a text counts together with its digest. Where there is no seed, the source
is started from the outside, with whatever entropy is found there.
-/

namespace Fabula

def Binary64.residuePrime : Nat := Nat.pow 2 61 - 1

/-- The residue of a float by the prime, with the sign of the float, as a 64-bit word. Powers of two
have period 61, and minus one gives way to minus two. -/
def Binary64.residue (x : Float) : Nat :=
  let signed :=
    match parts x with
    | .nan => 0
    | .infinite negative => Binary64.signed negative 314159
    | .finite negative significand exponent =>
      Binary64.signed negative
        (significand * Nat.pow 2 (exponent.emod 61).toNat % residuePrime)
  (if signed == -1 then -2 else signed).emod (Nat.pow 2 64) |>.toNat

def Value.seed (value : Value) (entropy : Nat) : Except Failure Nat :=
  match value with
  | .null => .ok entropy
  | .bool b => .ok (if b then 1 else 0)
  | .number (.int n) => .ok n.natAbs
  | .number (.float x) => .ok (Binary64.residue x)
  | .text s =>
    let bytes := s.toUTF8.toList
    .ok (Digest.ofBytes (bytes ++ Digest.digest bytes))
  | _ => .error .wrongKind

end Fabula
