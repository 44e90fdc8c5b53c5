import Fabula.Parameter
/-!
# Conditions

A condition is a question about the state of a session. Each kind has a keyword, which starts its
expression and tags its record, and a list of parameters.
-/

namespace Fabula

inductive Condition where
  | hasFlag (flag : String)
  | notFlag (flag : String)
  | hasItem (item : String)
  | variableEquals (name : String) (value : Value)
  | variableGreaterThan (name : String) (value : Number)
  | variableLessThan (name : String) (value : Number)
  | atLocation (location : String)
  | questAtStage (quest stage : String)
  | characterAt (character location : String)
  | characterInParty (character : String)
  | relationshipAbove (character : String) (value : Number)
  | relationshipBelow (character : String) (value : Number)
  | timeIs (start stop : Number)
  | itemAt (item location : String)
  | roll (minimum maximum : Int) (threshold : Number)
deriving Repr

inductive ConditionKind where
  | hasFlag
  | notFlag
  | hasItem
  | variableEquals
  | variableGreaterThan
  | variableLessThan
  | atLocation
  | questAtStage
  | characterAt
  | characterInParty
  | relationshipAbove
  | relationshipBelow
  | timeIs
  | itemAt
  | roll
deriving DecidableEq, Repr

namespace ConditionKind

def all : List ConditionKind :=
  [.hasFlag, .notFlag, .hasItem, .variableEquals, .variableGreaterThan, .variableLessThan,
    .atLocation, .questAtStage, .characterAt, .characterInParty, .relationshipAbove,
    .relationshipBelow, .timeIs, .itemAt, .roll]

def keyword : ConditionKind → String
  | .hasFlag => "hasFlag"
  | .notFlag => "notFlag"
  | .hasItem => "hasItem"
  | .variableEquals => "variableEquals"
  | .variableGreaterThan => "variableGreaterThan"
  | .variableLessThan => "variableLessThan"
  | .atLocation => "atLocation"
  | .questAtStage => "questAtStage"
  | .characterAt => "characterAt"
  | .characterInParty => "characterInParty"
  | .relationshipAbove => "relationshipAbove"
  | .relationshipBelow => "relationshipBelow"
  | .timeIs => "timeIs"
  | .itemAt => "itemAt"
  | .roll => "roll"

def ofKeyword? (word : String) : Option ConditionKind :=
  all.find? fun kind => kind.keyword == word

def parameters : ConditionKind → List Parameter
  | .hasFlag => [⟨"flag", .text⟩]
  | .notFlag => [⟨"flag", .text⟩]
  | .hasItem => [⟨"item_id", .text⟩]
  | .variableEquals => [⟨"variable", .text⟩, ⟨"value", .scalar⟩]
  | .variableGreaterThan => [⟨"variable", .text⟩, ⟨"value", .number⟩]
  | .variableLessThan => [⟨"variable", .text⟩, ⟨"value", .number⟩]
  | .atLocation => [⟨"location_id", .text⟩]
  | .questAtStage => [⟨"quest_id", .text⟩, ⟨"stage_id", .text⟩]
  | .characterAt => [⟨"character_id", .text⟩, ⟨"location_id", .text⟩]
  | .characterInParty => [⟨"character_id", .text⟩]
  | .relationshipAbove => [⟨"character_id", .text⟩, ⟨"value", .number⟩]
  | .relationshipBelow => [⟨"character_id", .text⟩, ⟨"value", .number⟩]
  | .timeIs => [⟨"start_hour", .number⟩, ⟨"end_hour", .number⟩]
  | .itemAt => [⟨"item_id", .text⟩, ⟨"location_id", .text⟩]
  | .roll => [⟨"minimum", .whole⟩, ⟨"maximum", .whole⟩, ⟨"threshold", .number⟩]

def make : (kind : ConditionKind) → Arguments kind.parameters → Condition
  | .hasFlag, (flag, ()) => .hasFlag flag
  | .notFlag, (flag, ()) => .notFlag flag
  | .hasItem, (item, ()) => .hasItem item
  | .variableEquals, (name, value, ()) => .variableEquals name value
  | .variableGreaterThan, (name, value, ()) => .variableGreaterThan name value
  | .variableLessThan, (name, value, ()) => .variableLessThan name value
  | .atLocation, (location, ()) => .atLocation location
  | .questAtStage, (quest, stage, ()) => .questAtStage quest stage
  | .characterAt, (character, location, ()) => .characterAt character location
  | .characterInParty, (character, ()) => .characterInParty character
  | .relationshipAbove, (character, value, ()) => .relationshipAbove character value
  | .relationshipBelow, (character, value, ()) => .relationshipBelow character value
  | .timeIs, (start, stop, ()) => .timeIs start stop
  | .itemAt, (item, location, ()) => .itemAt item location
  | .roll, (minimum, maximum, threshold, ()) => .roll minimum maximum threshold

end ConditionKind

namespace Condition

def kind : Condition → ConditionKind
  | .hasFlag .. => .hasFlag
  | .notFlag .. => .notFlag
  | .hasItem .. => .hasItem
  | .variableEquals .. => .variableEquals
  | .variableGreaterThan .. => .variableGreaterThan
  | .variableLessThan .. => .variableLessThan
  | .atLocation .. => .atLocation
  | .questAtStage .. => .questAtStage
  | .characterAt .. => .characterAt
  | .characterInParty .. => .characterInParty
  | .relationshipAbove .. => .relationshipAbove
  | .relationshipBelow .. => .relationshipBelow
  | .timeIs .. => .timeIs
  | .itemAt .. => .itemAt
  | .roll .. => .roll

def arguments : (condition : Condition) → Arguments condition.kind.parameters
  | .hasFlag flag => (flag, ())
  | .notFlag flag => (flag, ())
  | .hasItem item => (item, ())
  | .variableEquals name value => (name, value, ())
  | .variableGreaterThan name value => (name, value, ())
  | .variableLessThan name value => (name, value, ())
  | .atLocation location => (location, ())
  | .questAtStage quest stage => (quest, stage, ())
  | .characterAt character location => (character, location, ())
  | .characterInParty character => (character, ())
  | .relationshipAbove character value => (character, value, ())
  | .relationshipBelow character value => (character, value, ())
  | .timeIs start stop => (start, stop, ())
  | .itemAt item location => (item, location, ())
  | .roll minimum maximum threshold => (minimum, maximum, threshold, ())

@[simp] theorem make_arguments (condition : Condition) :
    condition.kind.make condition.arguments = condition := by
  cases condition <;> rfl

def toRecord (condition : Condition) : Value :=
  .object (("type", .text condition.kind.keyword) ::
    Arguments.toFields condition.kind.parameters condition.arguments)

def isWritable (condition : Condition) : Bool :=
  condition.toRecord.isWritable

def requireText (condition : Condition) : Except Failure Unit :=
  if condition.isWritable then .ok () else .error (.unsuitable .unwritable)

def ofRecord (record : Value) : Except Failure Condition := do
  let table ← record.fields
  let tag := table.getOrNull "type"
  let some kind := tag.text?.bind ConditionKind.ofKeyword?
    | throw (.unsuitable (.rule (.unknownKind .condition tag)))
  return kind.make (← Arguments.ofFields .condition kind.keyword table kind.parameters)

end Condition
end Fabula
