import Fabula.Condition
import Fabula.Effect
import Fabula.Text.Blank
/-!
# Expressions

A condition or an effect on a single line. The first word, or the first two, select the kind; the
other words are its arguments, or the rest of the line is its one argument.
-/

namespace Fabula

def expressionWords (text : List Char) : List String :=
  (Text.words text).map String.ofList

/-- Text as it is authored in a script: a reference that starts with `@` stands as it is, a text
between double quotation marks loses them, and any other text is only trimmed. -/
def authoredText (text : List Char) : List Char :=
  let trimmed := Text.trim text
  match trimmed with
  | '"' :: rest => if rest.getLast? == some '"' then rest.dropLast else trimmed
  | _ => trimmed

def Condition.compile (line : Option Value) (text : List Char) : Except Failure Condition :=
  match expressionWords text with
  | [] => .error (.script .emptyCondition line)
  | keyword :: words =>
    match ConditionKind.ofKeyword? keyword with
    | none => .error (.script (.unknownCondition keyword) line)
    | some kind => do
      return kind.make (← Arguments.ofWords line keyword kind.parameters words)

def EffectKind.isPairKeyword (keyword : String) : Bool :=
  all.any fun kind =>
    match kind.phrase with
    | .pair first _ => first == keyword
    | _ => false

def Effect.compileTail (line : Option Value) (kind : EffectKind) (keyword : String)
    (rest : List Char) : Except Failure Effect :=
  if rest.isEmpty then .error (.script (.noText keyword) line)
  else
    let argument := if kind == .notify then authoredText rest else rest
    do return kind.make (← Arguments.ofWords line keyword kind.parameters [String.ofList argument])

def Effect.compilePair (line : Option Value) (keyword : String) (words : List String) :
    Except Failure Effect :=
  let form := words.headD ""
  match EffectKind.ofPhrase? (.pair keyword form) with
  | none => .error (.script (.unknownForm keyword form) line)
  | some kind => do
    return kind.make
      (← Arguments.ofWords line (keyword ++ " " ++ form) kind.parameters words.tail)

def Effect.compile (line : Option Value) (text : List Char) : Except Failure Effect :=
  match expressionWords text with
  | [] => .error (.script .emptyEffect line)
  | keyword :: words =>
    match EffectKind.ofPhrase? (.tail keyword), EffectKind.ofPhrase? (.word keyword) with
    | some kind, _ => compileTail line kind keyword (Text.afterFirstWord (Text.trim text))
    | none, some kind => do
      return kind.make (← Arguments.ofWords line keyword kind.parameters words)
    | none, none =>
      if EffectKind.isPairKeyword keyword then compilePair line keyword words
      else .error (.script (.unknownEffect keyword) line)

end Fabula
