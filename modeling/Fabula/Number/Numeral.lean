import Fabula.Number.Basic
import Fabula.Text.Digit
/-!
# Numerals

A numeral is an optional sign, digits of any script with at most one point among them, and an
optional exponent. Digits alone are an integer; a point or an exponent makes a float.
-/

namespace Fabula

inductive Numeral where
  | whole (negative : Bool) (digits : List Nat)
  | decimal (negative : Bool) (integral fraction : List Nat) (exponent : Int)
deriving DecidableEq, Repr

namespace Numeral
open Text

def ofDigits (digits : List Nat) : Nat :=
  digits.foldl (fun n digit => 10 * n + digit) 0

def takeDigits (text : List Char) : List Nat × List Char :=
  (text.takeWhile isDigit |>.filterMap digitValue?, text.dropWhile isDigit)

def takeSign : List Char → Bool × List Char
  | '-' :: rest => (true, rest)
  | '+' :: rest => (false, rest)
  | text => (false, text)

def readExponent : List Char → Option Int
  | [] => some 0
  | mark :: rest =>
    if mark == 'e' || mark == 'E' then
      let (negative, rest) := takeSign rest
      match takeDigits rest with
      | (digit :: digits, []) => some (Binary64.signed negative (ofDigits (digit :: digits)))
      | _ => none
    else none

def read? (text : List Char) : Option Numeral :=
  let (negative, unsigned) := takeSign text
  let (integral, rest) := takeDigits unsigned
  match integral, rest with
  | _ :: _, [] => some (.whole negative integral)
  | _, '.' :: rest =>
    let (fraction, rest) := takeDigits rest
    if integral.isEmpty && fraction.isEmpty then none
    else (readExponent rest).map (.decimal negative integral fraction ·)
  | _ :: _, rest => (readExponent rest).map (.decimal negative integral [] ·)
  | [], _ => none

/-- The nearest float to `± digits * 10 ^ exponent`. Magnitudes far outside the range of floats
are decided without computing the power. -/
def nearestFloat (negative : Bool) (digits : List Nat) (exponent : Int) : Float :=
  let digits := digits.dropWhile (· == 0)
  let magnitude := exponent + digits.length
  if digits.isEmpty || magnitude < -400 then Binary64.nearest negative 0 1
  else if 400 < magnitude then Binary64.nearest negative (Nat.pow 2 1100) 1
  else if 0 ≤ exponent then
    Binary64.nearest negative (ofDigits digits * Nat.pow 10 exponent.toNat) 1
  else Binary64.nearest negative (ofDigits digits) (Nat.pow 10 (-exponent).toNat)

def number : Numeral → Except Number.Fault Number
  | .whole negative digits =>
    if Number.digitLimit < digits.length then .error (.tooManyDigits digits.length)
    else .ok (.int (Binary64.signed negative (ofDigits digits)))
  | .decimal negative integral fraction exponent =>
    .ok (.float (nearestFloat negative (integral ++ fraction) (exponent - fraction.length)))

end Numeral

def Text.dropFinalLineFeed (text : List Char) : List Char :=
  match text.reverse with
  | '\n' :: rest => rest.reverse
  | _ => text

def Number.ofText? (text : List Char) : Except Number.Fault (Option Number) :=
  match Numeral.read? (Text.dropFinalLineFeed text) with
  | none => .ok none
  | some numeral => do
    match ← numeral.number with
    | .int n => return some (.int n)
    | .float x => return if x.isFinite then some (.float x) else none

end Fabula
