import Fabula.Condition
import Fabula.Dice.Roller
import Fabula.State.Basic
/-!
# Evaluating conditions

A condition is answered from the state of a session; only rolls need more than that. Numbers are
compared exactly and only numbers are: a truth value or a text never lies above or below anything.
What the state does not know fails the check.
-/

namespace Fabula

/-- Whether an hour lies in a span that includes its start and excludes its stop. A span that does
not start before it stops crosses midnight. -/
def withinHours (start stop hour : Number) : Bool :=
  if start.lt stop then start.le hour && hour.lt stop else start.le hour || hour.lt stop

namespace Condition

def checkNumber (state : GameState) (name : String) (check : Number → Bool) : Bool :=
  ((state.bindings.getOrNull name).number?).any check

def checkRelationship (state : GameState) (character : String) (check : Number → Bool) :
    Except Failure Bool :=
  match state.characters.find? character with
  | none => .ok false
  | some character =>
    match character.relationship.arithmetic? with
    | some n => .ok (check n)
    | none => .error .wrongKind

def checkVariable (state : GameState) (name : String) (value : Value) : Bool :=
  (state.bindings.find? name).any fun current =>
    current.number?.isSome == value.number?.isSome && current.same value

/-- The answer to a condition. Whether a character is in the party is answered by what the state
says about it; all other answers are truth values. -/
def answer (state : GameState) : Condition → Rolling Value
  | .hasFlag flag =>
    return .bool <| match state.flags.find? flag with
      | some (.bool b) => b
      | _ => false
  | .notFlag flag => return .bool (!(state.flags.getD flag (.bool false)).isPresent)
  | .hasItem item => return .bool (Value.memberOf item state.inventory)
  | .variableEquals name value => return .bool (checkVariable state name value)
  | .variableGreaterThan name value =>
    return .bool (checkNumber state name fun current => value.lt current)
  | .variableLessThan name value =>
    return .bool (checkNumber state name fun current => current.lt value)
  | .atLocation location => return .bool (state.location.same location)
  | .questAtStage quest stage => return .bool ((state.quests.getOrNull quest).same stage)
  | .characterAt character location =>
    return .bool ((state.characters.find? character).any fun character =>
      character.location.same location)
  | .characterInParty character =>
    return match state.characters.find? character with
      | some character => character.inParty
      | none => .bool false
  | .relationshipAbove character value =>
    return .bool (← checkRelationship state character fun current => value.lt current)
  | .relationshipBelow character value =>
    return .bool (← checkRelationship state character fun current => current.lt value)
  | .timeIs start stop =>
    match state.time.hour.arithmetic? with
    | some hour => return .bool (withinHours start stop hour)
    | none => throw .wrongKind
  | .itemAt item location => return .bool ((state.itemLocations.getOrNull item).same location)
  | .roll minimum maximum threshold => do
    let _ ← (Value.number threshold).writable
    let total ← Rolling.roll minimum maximum ("roll check >= " ++ threshold.text)
    let (total, threshold) ← total.operands (.number threshold)
    return .bool (threshold.le total)

def passes (state : GameState) (condition : Condition) : Rolling Bool :=
  return (← condition.answer state).isPresent

/-- Whether all conditions pass. They are checked in order up to the first that does not, which is
written down. -/
def allPass (state : GameState) : List Condition → Rolling Bool
  | [] => return true
  | condition :: rest => do
    if ← condition.passes state then allPass state rest
    else
      condition.requireText
      return false

end Condition
end Fabula
