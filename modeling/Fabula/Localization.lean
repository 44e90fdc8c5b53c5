import Fabula.Text.WordCharacter
import Fabula.Value.Reading
import Fabula.Value.Text
/-!
# Localization

An authored text is a literal or, behind an `@`, a reference into the table of the active locale. A
reference that the table lacks stands for itself. Then every variable name in braces gives way to
the value of the variable; names without a variable stay as they are, and inserted values are not
looked at again.
-/

namespace Fabula.Localization

inductive Piece where
  | char (c : Char)
  | placeholder (name : List Char)
deriving DecidableEq, Repr

def placeholder? (text : List Char) : Option (List Char × List Char) :=
  let name := text.takeWhile Text.isWord
  match text.dropWhile Text.isWord with
  | '\x7d' :: rest => if name.isEmpty then none else some (name, rest)
  | _ => none

theorem length_lt_of_placeholder? {text name rest : List Char}
    (h : placeholder? text = some (name, rest)) : rest.length < text.length := by
  have shorter := (List.dropWhile_suffix Text.isWord (l := text)).length_le
  unfold placeholder? at h
  split at h
  · next after =>
    dsimp only at h
    split at h
    · cases h
    · cases h
      rw [after] at shorter
      simp only [List.length_cons] at shorter
      omega
  · cases h

def pieces : List Char → List Piece
  | [] => []
  | c :: text =>
    if c == '\x7b' then
      match _h : placeholder? text with
      | some (name, rest) => .placeholder name :: pieces rest
      | none => .char c :: pieces text
    else .char c :: pieces text
termination_by text => text.length
decreasing_by
  · have := length_lt_of_placeholder? _h
    simp only [List.length_cons]
    omega
  · simp
  · simp

/-- What is shown of the value of a variable: an integer for a float without a fraction. -/
def shown : Value → Value
  | .number n => .number n.collapse
  | value => value

def Piece.fill (bindings : Table Value) : Piece → Except Failure (List Char)
  | .char c => .ok [c]
  | .placeholder name =>
    match bindings.find? (.text (String.ofList name)) with
    | some value => do return (← (shown value).write).toList
    | none => .ok ('\x7b' :: name ++ ['\x7d'])

def interpolate (bindings : Table Value) (text : String) : Except Failure String := do
  return String.ofList (← (pieces text.toList).mapM (Piece.fill bindings)).flatten

def fill (bindings : Table Value) (value : Value) : Except Failure Value := do
  if bindings.size == 0 then return value
  let .text s := value | throw .wrongKind
  return .text (← interpolate bindings s)

def resolve (locale bindings : Table Value) (authored : Value) : Except Failure Value := do
  let .text s := authored | throw .noParts
  fill bindings <|
    match s.toList with
    | '@' :: key => locale.getD (String.ofList key) s
    | _ => s

end Fabula.Localization
