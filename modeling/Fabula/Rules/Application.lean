import Fabula.Dice.Roller
import Fabula.Effect
import Fabula.State.Basic
/-!
# Applying effects

An effect turns a state into another one. Effects on unknown characters change nothing; ids of
items, quests and journal entries are recorded without a check. A list of effects is folded from
left to right.
-/

namespace Fabula

namespace GameState

def updateCharacter (state : GameState) (id : String)
    (change : CharacterState → Except Failure CharacterState) : Except Failure GameState :=
  match state.characters.find? id with
  | none => .ok state
  | some character => do
    return { state with characters := state.characters.insert id (← change character) }

def setFlag (state : GameState) (flag : Key) (value : Bool) : GameState :=
  { state with flags := state.flags.insert flag (.bool value) }

def setVariable (state : GameState) (name : Key) (value : Value) : GameState :=
  { state with bindings := state.bindings.insert name value }

def setQuestStage (state : GameState) (quest : Key) (stage : Value) : GameState :=
  { state with quests := state.quests.insert quest stage }

def dropItem (state : GameState) (item : Value) : GameState :=
  { state with inventory := state.inventory.filter fun other => !other.same item }

def carryItem (state : GameState) (item : Value) : Except Failure GameState := do
  let inventory :=
    if Value.memberOf item state.inventory then state.inventory else state.inventory ++ [item]
  return { state with
    inventory
    itemLocations := state.itemLocations.insert (← item.key) carried }

def addItem (state : GameState) (item : Value) : Except Failure GameState :=
  if Value.memberOf item state.inventory then .ok state else state.carryItem item

end GameState

/-- A value in a table with a number added. What is no number gives way to what is added. -/
def Table.addNumber (table : Table Value) (name : String) (value : Number) :
    Except Failure (Table Value) := do
  match (table.getOrNull name).number? with
  | some current => return table.insert name (.number (← current.add value))
  | none => return table.insert name (.number value)

namespace Effect

def handle (state : GameState) : Effect → Rolling GameState
  | .setFlag flag => return state.setFlag flag true
  | .clearFlag flag => return state.setFlag flag false
  | .setVariable name value => return state.setVariable name value
  | .addVariable name value =>
    return { state with bindings := ← state.bindings.addNumber name value }
  | .addItem item => state.addItem item
  | .removeItem item => return state.dropItem item
  | .moveItem item location =>
    return { state.dropItem item with
      itemLocations := state.itemLocations.insert item location }
  | .goToLocation location => return { state with location }
  | .advanceTime hours => return { state with time := ← state.time.advance (.number hours) }
  | .setQuestStage quest stage => return state.setQuestStage quest stage
  | .addJournalEntry entry =>
    if Value.memberOf entry state.journal then return state
    else return { state with journal := state.journal ++ [.text entry] }
  | .setMapEnabled enabled => return { state with mapEnabled := .bool enabled }
  | .startDialogue dialogue => return { state with cursor := some (.starting dialogue) }
  | .endDialogue => return { state with cursor := none }
  | .setCharacterLocation character location =>
    state.updateCharacter character fun character => return { character with location }
  | .addToParty character =>
    state.updateCharacter character fun character =>
      return { character with inParty := .bool true }
  | .removeFromParty character =>
    state.updateCharacter character fun character =>
      return { character with inParty := .bool false }
  | .setRelationship character value =>
    state.updateCharacter character fun character =>
      return { character with relationship := .number value }
  | .addRelationship character value =>
    state.updateCharacter character fun character => do
      return { character with
        relationship := .number (← character.relationship.sum (.number value)) }
  | .setCharacterStat character stat value =>
    state.updateCharacter character fun character =>
      return { character with stats := character.stats.insert stat value }
  | .addCharacterStat character stat value =>
    state.updateCharacter character fun character => do
      return { character with stats := ← character.stats.addNumber stat value }
  | .playMusic _ => return state
  | .playSound sound => return { state with sounds := state.sounds ++ [.text sound] }
  | .notify message => return { state with notifications := state.notifications ++ [.text message] }
  | .playVideo file => return { state with video := file }
  | .showInterlude interlude => return { state with interlude }
  | .roll name minimum maximum => do
    return state.setVariable name (← Rolling.roll minimum maximum ("ROLL " ++ name))

/-- Applies an effect, which is written down first. -/
def apply (state : GameState) (effect : Effect) : Rolling GameState := do
  effect.requireText
  effect.handle state

def applyAll (state : GameState) : List Effect → Rolling GameState
  | [] => return state
  | effect :: rest => do applyAll (← effect.apply state) rest

end Effect
end Fabula
