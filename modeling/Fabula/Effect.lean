import Fabula.Parameter
/-!
# Effects

An effect is a change of the state of a session. Each kind has a tag, which marks its record, a
phrase, which starts its expression, and a list of parameters.
-/

namespace Fabula

inductive Effect where
  | setFlag (flag : String)
  | clearFlag (flag : String)
  | setVariable (name : String) (value : Value)
  | addVariable (name : String) (value : Number)
  | addItem (item : String)
  | removeItem (item : String)
  | moveItem (item location : String)
  | goToLocation (location : String)
  | advanceTime (hours : Number)
  | setQuestStage (quest stage : String)
  | addJournalEntry (entry : String)
  | setMapEnabled (enabled : Bool)
  | startDialogue (dialogue : String)
  | endDialogue
  | setCharacterLocation (character location : String)
  | addToParty (character : String)
  | removeFromParty (character : String)
  | setRelationship (character : String) (value : Number)
  | addRelationship (character : String) (value : Number)
  | setCharacterStat (character stat : String) (value : Value)
  | addCharacterStat (character stat : String) (value : Number)
  | playMusic (track : String)
  | playSound (sound : String)
  | notify (message : String)
  | playVideo (file : String)
  | showInterlude (interlude : String)
  | roll (name : String) (minimum maximum : Int)
deriving Repr

inductive EffectKind where
  | setFlag
  | clearFlag
  | setVariable
  | addVariable
  | addItem
  | removeItem
  | moveItem
  | goToLocation
  | advanceTime
  | setQuestStage
  | addJournalEntry
  | setMapEnabled
  | startDialogue
  | endDialogue
  | setCharacterLocation
  | addToParty
  | removeFromParty
  | setRelationship
  | addRelationship
  | setCharacterStat
  | addCharacterStat
  | playMusic
  | playSound
  | notify
  | playVideo
  | showInterlude
  | roll
deriving DecidableEq, Repr

/-- How the expression of an effect starts and where its arguments stand. -/
inductive Phrase where
  | tail (keyword : String)
  | word (keyword : String)
  | pair (keyword form : String)
deriving DecidableEq, Repr

namespace EffectKind

def all : List EffectKind :=
  [.setFlag, .clearFlag, .setVariable, .addVariable, .addItem, .removeItem, .moveItem,
    .goToLocation, .advanceTime, .setQuestStage, .addJournalEntry, .setMapEnabled, .startDialogue,
    .endDialogue, .setCharacterLocation, .addToParty, .removeFromParty, .setRelationship,
    .addRelationship, .setCharacterStat, .addCharacterStat, .playMusic, .playSound, .notify,
    .playVideo, .showInterlude, .roll]

def tag : EffectKind → String
  | .setFlag => "setFlag"
  | .clearFlag => "clearFlag"
  | .setVariable => "setVariable"
  | .addVariable => "addVariable"
  | .addItem => "addItem"
  | .removeItem => "removeItem"
  | .moveItem => "moveItem"
  | .goToLocation => "goToLocation"
  | .advanceTime => "advanceTime"
  | .setQuestStage => "setQuestStage"
  | .addJournalEntry => "addJournalEntry"
  | .setMapEnabled => "setMapEnabled"
  | .startDialogue => "startDialogue"
  | .endDialogue => "endDialogue"
  | .setCharacterLocation => "setCharacterLocation"
  | .addToParty => "addToParty"
  | .removeFromParty => "removeFromParty"
  | .setRelationship => "setRelationship"
  | .addRelationship => "addRelationship"
  | .setCharacterStat => "setCharacterStat"
  | .addCharacterStat => "addCharacterStat"
  | .playMusic => "playMusic"
  | .playSound => "playSound"
  | .notify => "notify"
  | .playVideo => "playVideo"
  | .showInterlude => "showInterlude"
  | .roll => "roll"

def ofTag? (word : String) : Option EffectKind :=
  all.find? fun kind => kind.tag == word

def phrase : EffectKind → Phrase
  | .setFlag => .pair "SET" "flag"
  | .clearFlag => .pair "CLEAR" "flag"
  | .setVariable => .pair "SET" "variable"
  | .addVariable => .pair "ADD" "variable"
  | .addItem => .pair "ADD" "item"
  | .removeItem => .pair "REMOVE" "item"
  | .moveItem => .pair "MOVE" "item"
  | .goToLocation => .pair "GOTO" "location"
  | .advanceTime => .pair "ADVANCE" "time"
  | .setQuestStage => .pair "SET" "questStage"
  | .addJournalEntry => .pair "ADD" "journalEntry"
  | .setMapEnabled => .pair "SET" "mapEnabled"
  | .startDialogue => .pair "START" "dialogue"
  | .endDialogue => .pair "END" "dialogue"
  | .setCharacterLocation => .pair "SET" "characterLocation"
  | .addToParty => .pair "ADD" "toParty"
  | .removeFromParty => .pair "REMOVE" "fromParty"
  | .setRelationship => .pair "SET" "relationship"
  | .addRelationship => .pair "ADD" "relationship"
  | .setCharacterStat => .pair "SET" "characterStat"
  | .addCharacterStat => .pair "ADD" "characterStat"
  | .playMusic => .tail "MUSIC"
  | .playSound => .tail "SOUND"
  | .notify => .tail "NOTIFY"
  | .playVideo => .tail "VIDEO"
  | .showInterlude => .word "INTERLUDE"
  | .roll => .word "ROLL"

def ofPhrase? (phrase : Phrase) : Option EffectKind :=
  all.find? fun kind => kind.phrase == phrase

def parameters : EffectKind → List Parameter
  | .setFlag => [⟨"flag", .text⟩]
  | .clearFlag => [⟨"flag", .text⟩]
  | .setVariable => [⟨"variable", .text⟩, ⟨"value", .scalar⟩]
  | .addVariable => [⟨"variable", .text⟩, ⟨"value", .number⟩]
  | .addItem => [⟨"item_id", .text⟩]
  | .removeItem => [⟨"item_id", .text⟩]
  | .moveItem => [⟨"item_id", .text⟩, ⟨"location_id", .text⟩]
  | .goToLocation => [⟨"location_id", .text⟩]
  | .advanceTime => [⟨"hours", .number⟩]
  | .setQuestStage => [⟨"quest_id", .text⟩, ⟨"stage_id", .text⟩]
  | .addJournalEntry => [⟨"entry_id", .text⟩]
  | .setMapEnabled => [⟨"enabled", .truth⟩]
  | .startDialogue => [⟨"dialogue_id", .text⟩]
  | .endDialogue => []
  | .setCharacterLocation => [⟨"character_id", .text⟩, ⟨"location_id", .text⟩]
  | .addToParty => [⟨"character_id", .text⟩]
  | .removeFromParty => [⟨"character_id", .text⟩]
  | .setRelationship => [⟨"character_id", .text⟩, ⟨"value", .number⟩]
  | .addRelationship => [⟨"character_id", .text⟩, ⟨"value", .number⟩]
  | .setCharacterStat => [⟨"character_id", .text⟩, ⟨"stat", .text⟩, ⟨"value", .scalar⟩]
  | .addCharacterStat => [⟨"character_id", .text⟩, ⟨"stat", .text⟩, ⟨"value", .number⟩]
  | .playMusic => [⟨"track", .text⟩]
  | .playSound => [⟨"sound", .text⟩]
  | .notify => [⟨"message", .text⟩]
  | .playVideo => [⟨"file", .text⟩]
  | .showInterlude => [⟨"interlude_id", .text⟩]
  | .roll => [⟨"variable", .text⟩, ⟨"minimum", .whole⟩, ⟨"maximum", .whole⟩]

def make : (kind : EffectKind) → Arguments kind.parameters → Effect
  | .setFlag, (flag, ()) => .setFlag flag
  | .clearFlag, (flag, ()) => .clearFlag flag
  | .setVariable, (name, value, ()) => .setVariable name value
  | .addVariable, (name, value, ()) => .addVariable name value
  | .addItem, (item, ()) => .addItem item
  | .removeItem, (item, ()) => .removeItem item
  | .moveItem, (item, location, ()) => .moveItem item location
  | .goToLocation, (location, ()) => .goToLocation location
  | .advanceTime, (hours, ()) => .advanceTime hours
  | .setQuestStage, (quest, stage, ()) => .setQuestStage quest stage
  | .addJournalEntry, (entry, ()) => .addJournalEntry entry
  | .setMapEnabled, (enabled, ()) => .setMapEnabled enabled
  | .startDialogue, (dialogue, ()) => .startDialogue dialogue
  | .endDialogue, () => .endDialogue
  | .setCharacterLocation, (character, location, ()) => .setCharacterLocation character location
  | .addToParty, (character, ()) => .addToParty character
  | .removeFromParty, (character, ()) => .removeFromParty character
  | .setRelationship, (character, value, ()) => .setRelationship character value
  | .addRelationship, (character, value, ()) => .addRelationship character value
  | .setCharacterStat, (character, stat, value, ()) => .setCharacterStat character stat value
  | .addCharacterStat, (character, stat, value, ()) => .addCharacterStat character stat value
  | .playMusic, (track, ()) => .playMusic track
  | .playSound, (sound, ()) => .playSound sound
  | .notify, (message, ()) => .notify message
  | .playVideo, (file, ()) => .playVideo file
  | .showInterlude, (interlude, ()) => .showInterlude interlude
  | .roll, (name, minimum, maximum, ()) => .roll name minimum maximum

end EffectKind

namespace Effect

def kind : Effect → EffectKind
  | .setFlag .. => .setFlag
  | .clearFlag .. => .clearFlag
  | .setVariable .. => .setVariable
  | .addVariable .. => .addVariable
  | .addItem .. => .addItem
  | .removeItem .. => .removeItem
  | .moveItem .. => .moveItem
  | .goToLocation .. => .goToLocation
  | .advanceTime .. => .advanceTime
  | .setQuestStage .. => .setQuestStage
  | .addJournalEntry .. => .addJournalEntry
  | .setMapEnabled .. => .setMapEnabled
  | .startDialogue .. => .startDialogue
  | .endDialogue => .endDialogue
  | .setCharacterLocation .. => .setCharacterLocation
  | .addToParty .. => .addToParty
  | .removeFromParty .. => .removeFromParty
  | .setRelationship .. => .setRelationship
  | .addRelationship .. => .addRelationship
  | .setCharacterStat .. => .setCharacterStat
  | .addCharacterStat .. => .addCharacterStat
  | .playMusic .. => .playMusic
  | .playSound .. => .playSound
  | .notify .. => .notify
  | .playVideo .. => .playVideo
  | .showInterlude .. => .showInterlude
  | .roll .. => .roll

def arguments : (effect : Effect) → Arguments effect.kind.parameters
  | .setFlag flag => (flag, ())
  | .clearFlag flag => (flag, ())
  | .setVariable name value => (name, value, ())
  | .addVariable name value => (name, value, ())
  | .addItem item => (item, ())
  | .removeItem item => (item, ())
  | .moveItem item location => (item, location, ())
  | .goToLocation location => (location, ())
  | .advanceTime hours => (hours, ())
  | .setQuestStage quest stage => (quest, stage, ())
  | .addJournalEntry entry => (entry, ())
  | .setMapEnabled enabled => (enabled, ())
  | .startDialogue dialogue => (dialogue, ())
  | .endDialogue => ()
  | .setCharacterLocation character location => (character, location, ())
  | .addToParty character => (character, ())
  | .removeFromParty character => (character, ())
  | .setRelationship character value => (character, value, ())
  | .addRelationship character value => (character, value, ())
  | .setCharacterStat character stat value => (character, stat, value, ())
  | .addCharacterStat character stat value => (character, stat, value, ())
  | .playMusic track => (track, ())
  | .playSound sound => (sound, ())
  | .notify message => (message, ())
  | .playVideo file => (file, ())
  | .showInterlude interlude => (interlude, ())
  | .roll name minimum maximum => (name, minimum, maximum, ())

@[simp] theorem make_arguments (effect : Effect) :
    effect.kind.make effect.arguments = effect := by
  cases effect <;> rfl

def toRecord (effect : Effect) : Value :=
  .object (("type", .text effect.kind.tag) ::
    Arguments.toFields effect.kind.parameters effect.arguments)

def isWritable (effect : Effect) : Bool :=
  effect.toRecord.isWritable

def requireText (effect : Effect) : Except Failure Unit :=
  if effect.isWritable then .ok () else .error (.unsuitable .unwritable)

def ofRecord (record : Value) : Except Failure Effect := do
  let table ← record.fields
  let tag := table.getOrNull "type"
  let some kind := tag.text?.bind EffectKind.ofTag?
    | throw (.unsuitable (.rule (.unknownKind .effect tag)))
  return kind.make (← Arguments.ofFields .effect kind.tag table kind.parameters)

end Effect
end Fabula
