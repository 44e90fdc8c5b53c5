import Fabula.Number.Numeral
import Fabula.Text.Blank
import Fabula.Value.Reading
/-!
# Bounds

A bound of a roll can be any number, of which the whole part counts, a truth value, or a text that
spells an integer.
-/

namespace Fabula

def Numeral.groupedDigits? : List Char → Option (List Nat)
  | [] => none
  | [c] => (Text.digitValue? c).map fun digit => [digit]
  | c :: '_' :: rest => do return (← Text.digitValue? c) :: (← groupedDigits? rest)
  | c :: rest => do return (← Text.digitValue? c) :: (← groupedDigits? rest)

def Numeral.isMargin (c : Char) : Bool :=
  Text.isBlank c && !(28 ≤ c.toNat && c.toNat ≤ 31)

def Numeral.withoutMargins (text : List Char) : List Char :=
  ((text.dropWhile isMargin).reverse.dropWhile isMargin).reverse

/-- The integer that a text spells, between blanks. Leading digits that are too many are reported
whatever follows them. -/
def Value.wholeOfText (text : String) : Except Failure Int := do
  let (negative, unsigned) := Numeral.takeSign (Numeral.withoutMargins text.toList)
  let isPart := fun c => c == '_' || Text.isDigit c
  let fault := Failure.unsuitable (.notAnInteger (.text text))
  let some digits := Numeral.groupedDigits? (unsigned.takeWhile isPart) | throw fault
  let .int n := (← Numeral.number (.whole negative digits)) | throw .wrongKind
  if (unsigned.dropWhile isPart).isEmpty then return n else throw fault

def Value.whole : Value → Except Failure Int
  | .number n => do return ← n.truncate
  | .bool b => .ok (if b then 1 else 0)
  | .text s => wholeOfText s
  | _ => .error .wrongKind

end Fabula
