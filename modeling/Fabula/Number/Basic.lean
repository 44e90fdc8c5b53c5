import Fabula.Number.Shortest
/-!
# Numbers

A number is an integer of any size or a binary64 number. Comparisons are exact whatever the kinds,
and arithmetic stays with the integers as long as both sides are integers.
-/

namespace Fabula

inductive Number where
  | int (n : Int)
  | float (x : Float)
deriving DecidableEq, Repr

namespace Number
open Binary64

instance : Inhabited Number := ⟨.int 0⟩

inductive Fault where
  | tooLarge
  | notANumber
  | tooManyDigits (count : Nat)
deriving DecidableEq, Repr

def value : Number → Extended
  | .int n => .finite n
  | .float x => Binary64.value x

def lt (a b : Number) : Bool :=
  a.value.lt b.value

def same (a b : Number) : Bool :=
  a.value.same b.value

def alike (a b : Number) : Bool :=
  a.value == b.value

def le (a b : Number) : Bool :=
  a.lt b || a.same b

/-- The nearest float, unless the number is an integer beyond the range of floats. -/
def toFloat : Number → Except Fault Float
  | .int n =>
    let x := Binary64.ofInt n
    if x.isInf then .error .tooLarge else .ok x
  | .float x => .ok x

def combine (onInts : Int → Int → Int) (onFloats : Float → Float → Float) :
    Number → Number → Except Fault Number
  | .int a, .int b => .ok (.int (onInts a b))
  | a, b => do return .float (onFloats (← a.toFloat) (← b.toFloat))

def add : Number → Number → Except Fault Number :=
  combine (· + ·) (· + ·)

def sub : Number → Number → Except Fault Number :=
  combine (· - ·) (· - ·)

def mul : Number → Number → Except Fault Number :=
  combine (· * ·) (· * ·)

def divMod : Number → Nat → Number × Number
  | .int n, modulus => (.int (n.fdiv modulus), .int (n.fmod modulus))
  | .float x, modulus =>
    let (quotient, rest) := Binary64.divMod x modulus
    (.float quotient, .float rest)

def truncate : Number → Except Fault Int
  | .int n => .ok n
  | .float x =>
    match truncate? x with
    | some (whole, _) => .ok whole
    | none => .error (if x.isNaN then .notANumber else .tooLarge)

def floor : Number → Except Fault Int
  | .int n => .ok n
  | .float x =>
    match floor? x with
    | some below => .ok below
    | none => .error (if x.isNaN then .notANumber else .tooLarge)

def collapse : Number → Number
  | .int n => .int n
  | .float x =>
    match whole? x with
    | some n => .int n
    | none => .float x

/-- Whether a number is finite. The question is asked of floats, so an integer beyond their range
has no answer. -/
def isFinite (n : Number) : Except Fault Bool := do
  return (← n.toFloat).isFinite

def digitLimit : Nat := 4300

@[irreducible] def writableBound : Nat := Nat.pow 10 digitLimit

def isWritable : Number → Bool
  | .int n => decide (n.natAbs < writableBound)
  | .float _ => true

def text : Number → String
  | .int n => toString n
  | .float x => Binary64.text x

end Number
end Fabula
