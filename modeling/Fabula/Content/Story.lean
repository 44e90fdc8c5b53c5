import Fabula.Content.Field
import Fabula.Dialogue.Basic
/-!
# The story

Quests, journal entries and interludes. Only ids are required and apart from conditions and effects
nothing else is checked.
-/

namespace Fabula

structure QuestStage where
  id : Value
  description : Value
deriving Repr

structure Quest where
  id : Value
  name : Value
  description : Value
  stages : List QuestStage
deriving Repr

def Quest.findStage? (quest : Quest) (id : Value) : Option QuestStage :=
  quest.stages.find? fun stage => stage.id.same id

structure JournalEntry where
  id : Value
  title : Value
  text : Value
  category : Value
deriving Repr

structure Interlude where
  id : Value
  background : Value
  text : Value
  banner : Value
  music : Value
  voice : Value
  sounds : List Value
  scroll : Value
  scrollSpeed : Value
  triggerLocation : Value
  conditions : List Condition
  effects : List Effect
deriving Repr

def QuestStage.ofRecord (data : Value) : Except Failure QuestStage := do
  let id ← data.required "Quest stage" "id"
  let fields ← data.fields
  return { id, description := fields.getD "description" "" }

def Quest.ofRecord (data : Value) : Except Failure Quest := do
  let id ← data.required "Quest" "id"
  let fields ← data.fields
  return {
    id
    name := fields.getD "name" id
    description := fields.getD "description" ""
    stages := ← (← (fields.getD "stages" (.list [])).items).mapM QuestStage.ofRecord }

def JournalEntry.ofRecord (data : Value) : Except Failure JournalEntry := do
  let id ← data.required "Journal entry" "id"
  let fields ← data.fields
  return {
    id
    title := fields.getD "title" id
    text := fields.getD "text" ""
    category := fields.getD "category" "" }

def Interlude.ofRecord (data : Value) : Except Failure Interlude := do
  let id ← data.required "Interlude" "id"
  let fields ← data.fields
  return {
    id
    background := fields.getD "background" ""
    text := fields.getD "text" ""
    banner := fields.getOrNull "banner"
    music := fields.getOrNull "music"
    voice := fields.getOrNull "voice"
    sounds := ← (fields.getD "sounds" (.list [])).items
    scroll := fields.getOrNull "scroll"
    scrollSpeed := fields.getOrNull "scroll_speed"
    triggerLocation := fields.getOrNull "trigger_location"
    conditions := ← Condition.listOfAuthored (fields.getOrNull "trigger_conditions")
    effects := ← Effect.listOfAuthored (fields.getOrNull "effects") }

def QuestStage.toRecord (stage : QuestStage) : Value :=
  .object [("id", stage.id), ("description", stage.description)]

def Quest.toRecord (quest : Quest) : Value :=
  .object [("id", quest.id), ("name", quest.name), ("description", quest.description),
    ("stages", .list (quest.stages.map QuestStage.toRecord))]

def JournalEntry.toRecord (entry : JournalEntry) : Value :=
  .object [("id", entry.id), ("title", entry.title), ("text", entry.text),
    ("category", entry.category)]

def Interlude.toRecord (interlude : Interlude) : Value :=
  .object [("id", interlude.id), ("background", interlude.background), ("text", interlude.text),
    ("banner", interlude.banner), ("music", interlude.music), ("voice", interlude.voice),
    ("sounds", .list interlude.sounds), ("scroll", interlude.scroll),
    ("scroll_speed", interlude.scrollSpeed), ("trigger_location", interlude.triggerLocation),
    ("trigger_conditions", Condition.listToRecord interlude.conditions),
    ("effects", Effect.listToRecord interlude.effects)]

end Fabula
