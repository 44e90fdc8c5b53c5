import Fabula.Number.Numeral
import Fabula.Text.LowerCase
import Fabula.Value.Reading
/-!
# Parameters

Conditions and effects come in kinds, and each kind has a fixed list of named, typed parameters.
Arguments for such a list are read in two forms: from the words of an expression, and from the
fields of a record.
-/

namespace Fabula

inductive ParameterType where
  | text
  | number
  | whole
  | scalar
  | truth
deriving DecidableEq, Repr

@[reducible] def ParameterType.Carrier : ParameterType → Type
  | .text => String
  | .number => Number
  | .whole => Int
  | .scalar => Value
  | .truth => Bool

structure Parameter where
  name : String
  type : ParameterType
deriving DecidableEq, Repr

@[reducible] def Arguments : List Parameter → Type
  | [] => Unit
  | parameter :: rest => parameter.type.Carrier × Arguments rest

def Value.ofWord (word : String) : Except Number.Fault Value := do
  match ← Number.ofText? word.toList with
  | some n => return .number n
  | none => return .text word

def Parameter.numberOfWord (parameter : Parameter) (line : Option Value) (word : String) :
    Except Failure Number := do
  match ← Number.ofText? word.toList with
  | some number => return number
  | none => throw (.script (.notANumber parameter.name word) line)

def Parameter.ofWord (parameter : Parameter) (line : Option Value) (word : String) :
    Except Failure parameter.type.Carrier :=
  match parameter with
  | ⟨_, .text⟩ => .ok word
  | ⟨_, .scalar⟩ => do return ← Value.ofWord word
  | ⟨name, .truth⟩ =>
    let lowered := String.ofList (Text.lower word.toList)
    if lowered == "true" then .ok true
    else if lowered == "false" then .ok false
    else .error (.script (.notTruth name word) line)
  | ⟨name, .number⟩ => Parameter.numberOfWord ⟨name, .number⟩ line word
  | ⟨name, .whole⟩ => do
    match (← Parameter.numberOfWord ⟨name, .whole⟩ line word).collapse with
    | .int n => return n
    | .float _ => throw (.script (.notWhole name word) line)

def Arguments.ofWordsFrom (line : Option Value) (fault : ScriptFault) :
    (parameters : List Parameter) → List String → Except Failure (Arguments parameters)
  | [], _ => .ok ()
  | _ :: _, [] => .error (.script fault line)
  | parameter :: parameters, word :: words => do
    let argument ← parameter.ofWord line word
    return (argument, ← ofWordsFrom line fault parameters words)

def Arguments.ofWords (line : Option Value) (label : String) (parameters : List Parameter)
    (words : List String) : Except Failure (Arguments parameters) :=
  let fault := ScriptFault.arity label (parameters.map (·.name))
  if words.length == parameters.length then ofWordsFrom line fault parameters words
  else .error (.script fault line)

def Value.isFiniteNumber (value : Value) : Except Failure Bool :=
  match value with
  | .number n => do return ← n.isFinite
  | _ => .ok false

def ParameterType.ofValue? (type : ParameterType) (value : Value) (isFiniteNumber : Bool) :
    Option type.Carrier :=
  match type, value with
  | .text, .text s => some s
  | .truth, .bool b => some b
  | .number, .number n => if isFiniteNumber then some n else none
  | .whole, .number n =>
    if isFiniteNumber then
      match n.collapse with
      | .int n => some n
      | .float _ => none
    else none
  | .scalar, .text s => some (.text s)
  | .scalar, .number n => if isFiniteNumber then some (.number n) else none
  | _, _ => none

def Arguments.ofFields (family : RuleFamily) (kind : String) (table : Table Value) :
    (parameters : List Parameter) → Except Failure (Arguments parameters)
  | [] => .ok ()
  | parameter :: parameters => do
    let some value := table.find? parameter.name
      | throw (.unsuitable (.rule (.missing family kind parameter.name)))
    let isFiniteNumber ← value.isFiniteNumber
    let some argument := parameter.type.ofValue? value isFiniteNumber
      | throw (.unsuitable (.rule (.unsuitable kind parameter.name value)))
    return (argument, ← ofFields family kind table parameters)

def ParameterType.toValue : (type : ParameterType) → type.Carrier → Value
  | .text, s => .text s
  | .number, n => .number n
  | .whole, n => .int n
  | .scalar, value => value
  | .truth, b => .bool b

def Arguments.toFields : (parameters : List Parameter) → Arguments parameters →
    List (String × Value)
  | [], () => []
  | parameter :: parameters, (argument, arguments) =>
    (parameter.name, parameter.type.toValue argument) :: toFields parameters arguments

end Fabula
