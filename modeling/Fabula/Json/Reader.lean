import Fabula.Json.Token
import Fabula.Number.Numeral
import Fabula.Value.Basic
/-!
# Reading JSON

Tokens are put together from left to right, with the lists and records that are still open on a
stack. Numerals without point and exponent are integers of any size up to the digit limit, all
others are floats; `NaN` and the infinities are accepted. Of several fields with one name the last
value counts, at the place of the first.
-/

namespace Fabula.Json

inductive Fault where
  | malformed
  | number (fault : Number.Fault)
deriving DecidableEq, Repr

def isDigit (c : Char) : Bool :=
  '0' ≤ c && c ≤ '9'

def takeDigits (text : List Char) : List Nat × List Char :=
  ((text.takeWhile isDigit).map fun c => c.toNat - 48, text.dropWhile isDigit)

def takeIntegral : List Char → List Nat × List Char
  | '0' :: rest => ([0], rest)
  | text => takeDigits text

def takeFraction (text : List Char) : Option (List Nat) × List Char :=
  match text with
  | '.' :: rest =>
    match takeDigits rest with
    | ([], _) => (none, text)
    | (digits, rest) => (some digits, rest)
  | _ => (none, text)

def takeExponent (text : List Char) : Option Int × List Char :=
  match text with
  | mark :: rest =>
    if mark == 'e' || mark == 'E' then
      let (negative, rest) := Numeral.takeSign rest
      match takeDigits rest with
      | ([], _) => (none, text)
      | (digits, rest) => (some (Binary64.signed negative (Numeral.ofDigits digits)), rest)
    else (none, text)
  | [] => (none, text)

def takeNumeral (text : List Char) : Option (Numeral × List Char) :=
  let (negative, unsigned) :=
    match text with
    | '-' :: rest => (true, rest)
    | _ => (false, text)
  let (integral, rest) := takeIntegral unsigned
  let (fraction, rest) := takeFraction rest
  let (exponent, rest) := takeExponent rest
  if integral.isEmpty then none
  else if fraction.isNone && exponent.isNone then some (.whole negative integral, rest)
  else some (.decimal negative integral (fraction.getD []) (exponent.getD 0), rest)

def constant? (atom : List Char) : Option Value :=
  [("null", Value.null), ("true", .bool true), ("false", .bool false),
    ("NaN", .float (0.0 / 0.0)), ("Infinity", .float (1.0 / 0.0)),
    ("-Infinity", .float (-1.0 / 0.0))].lookup (String.ofList atom)

def readAtom (atom : List Char) : Except Fault Value :=
  match constant? atom, takeNumeral atom with
  | some value, _ => .ok value
  | none, none => .error .malformed
  | none, some (numeral, rest) =>
    match numeral.number with
    | .error fault => .error (.number fault)
    | .ok n => if rest.isEmpty then .ok (.number n) else .error .malformed

/-- A list or a record that is still open. The items of a list are kept last first. -/
inductive Frame where
  | list (items : List Value)
  | record (fields : Table Value)
  | field (fields : Table Value) (name : String)

inductive Expected where
  | value (mayClose : Bool)
  | name (mayClose : Bool)
  | colon
  | after (value : Value)

def build : Expected → List Frame → List Token → Except Fault Value
  | .after value, [], [] => .ok value
  | _, _, [] => .error .malformed
  | expected, frames, token :: rest =>
    match expected, frames, token with
    | .value _, frames, .openList => build (.value true) (.list [] :: frames) rest
    | .value _, frames, .openRecord => build (.name true) (.record ∅ :: frames) rest
    | .value _, frames, .text s => build (.after (.text s)) frames rest
    | .value _, frames, .atom chars => do build (.after (← readAtom chars)) frames rest
    | .value true, .list _ :: frames, .closeList => build (.after (.list [])) frames rest
    | .name _, .record fields :: frames, .text s => build .colon (.field fields s :: frames) rest
    | .name true, .record _ :: frames, .closeRecord => build (.after (.record [])) frames rest
    | .colon, frames, .colon => build (.value false) frames rest
    | .after value, .list items :: frames, .comma =>
      build (.value false) (.list (value :: items) :: frames) rest
    | .after value, .list items :: frames, .closeList =>
      build (.after (.list (value :: items).reverse)) frames rest
    | .after value, .field fields name :: frames, .comma =>
      build (.name false) (.record (fields.insert name value) :: frames) rest
    | .after value, .field fields name :: frames, .closeRecord =>
      build (.after (.ofTable (fields.insert name value))) frames rest
    | _, _, _ => .error .malformed

def read (text : String) : Except Fault Value :=
  build (.value false) [] (tokens text.toList)

end Fabula.Json
