import Fabula.State.Clock
/-!
# The state of a session

Everything that changes while a game is played. Notifications, sounds, the video and the interlude
are cues: they are shown once and then cleared. Values in a state are not checked, because states
are also read from records.
-/

namespace Fabula

def carried : String := "inventory"

structure CharacterState where
  location : Value
  inParty : Value
  relationship : Value
  stats : Table Value
deriving Repr

/-- A place in a dialogue. The empty node id marks a dialogue that has been started and still has
to be entered. -/
structure Cursor where
  dialogue : Value
  node : Value
deriving Repr

structure Note where
  id : Value
  title : Value
  text : Value
deriving Repr

structure GameState where
  location : Value
  time : Clock
  flags : Table Value
  bindings : Table Value
  inventory : List Value
  quests : Table Value
  journal : List Value
  notes : List Note
  cursor : Option Cursor
  characters : Table CharacterState
  itemLocations : Table Value
  mapEnabled : Value
  notifications : List Value
  sounds : List Value
  video : Value
  interlude : Value
  locale : Value
deriving Repr

namespace Cursor

def starting (dialogue : Value) : Cursor :=
  ⟨dialogue, ""⟩

def needsStart (cursor : Cursor) : Bool :=
  cursor.node.same ""

def same (a b : Cursor) : Bool :=
  a.dialogue.alike b.dialogue && a.node.alike b.node

def sameOption : Option Cursor → Option Cursor → Bool
  | none, none => true
  | some a, some b => a.same b
  | _, _ => false

end Cursor

namespace GameState

def empty (location mapEnabled locale : Value) : GameState where
  location
  time := Clock.start
  flags := ∅
  bindings := ∅
  inventory := []
  quests := ∅
  journal := []
  notes := []
  cursor := none
  characters := ∅
  itemLocations := ∅
  mapEnabled
  notifications := []
  sounds := []
  video := .null
  interlude := .null
  locale

def clearCues (state : GameState) : GameState :=
  { state with notifications := [], sounds := [], video := .null, interlude := .null }

end GameState

def CharacterState.ofRecord (data : Value) : Except Failure CharacterState := do
  let fields ← data.fields
  return {
    location := fields.getD "location" ""
    inParty := fields.getD "in_party" (.bool false)
    relationship := fields.getD "relationship" (.int 0)
    stats := ← (fields.getD "stats" (.record [])).table }

def CharacterState.toRecord (character : CharacterState) : Value :=
  .object [("location", character.location), ("in_party", character.inParty),
    ("relationship", character.relationship), ("stats", .ofTable character.stats)]

def Cursor.ofRecord (data : Value) : Except Failure Cursor := do
  let dialogue ← data.member "dialogue_id"
  return { dialogue, node := (← data.fields).getD "node_id" "" }

def Cursor.toRecord (cursor : Cursor) : Value :=
  .object [("dialogue_id", cursor.dialogue), ("node_id", cursor.node)]

def Note.ofRecord (data : Value) : Except Failure Note := do
  let id ← data.member "id"
  let fields ← data.fields
  return { id, title := fields.getD "title" "", text := fields.getD "text" "" }

def Note.toRecord (note : Note) : Value :=
  .object [("id", note.id), ("title", note.title), ("text", note.text)]

namespace GameState

def readCursor (data : Value) : Except Failure (Option Cursor) := do
  if data.isPresent then return some (← Cursor.ofRecord data) else return none

def ofRecord (data : Value) : Except Failure GameState := do
  let fields ← data.fields
  let table := fun name => (fields.getD name (.record [])).table
  let items := fun name => (fields.getD name (.list [])).items
  return {
    location := ← data.member "current_location"
    time := ← Clock.ofRecord (fields.getD "current_time" (.record []))
    flags := ← table "flags"
    bindings := ← table "variables"
    inventory := ← items "inventory"
    quests := ← table "quest_progress"
    journal := ← items "unlocked_journal_entries"
    notes := ← (← items "player_notes").mapM Note.ofRecord
    cursor := ← readCursor (fields.getOrNull "dialogue_state")
    characters :=
      ← (← (fields.getD "character_state" (.record [])).fields).mapM CharacterState.ofRecord
    itemLocations := ← table "item_locations"
    mapEnabled := fields.getD "map_enabled" (.bool true)
    notifications := ← items "notifications"
    sounds := ← items "pending_sounds"
    video := fields.getOrNull "pending_video"
    interlude := fields.getOrNull "pending_interlude"
    locale := fields.getD "current_locale" "en" }

def toRecord (state : GameState) : Value :=
  .object [("current_location", state.location), ("current_time", state.time.toRecord),
    ("flags", .ofTable state.flags), ("variables", .ofTable state.bindings),
    ("inventory", .list state.inventory), ("quest_progress", .ofTable state.quests),
    ("unlocked_journal_entries", .list state.journal),
    ("player_notes", .list (state.notes.map Note.toRecord)),
    ("dialogue_state", (state.cursor.map Cursor.toRecord).getD .null),
    ("character_state", .ofTable (state.characters.map CharacterState.toRecord)),
    ("item_locations", .ofTable state.itemLocations), ("map_enabled", state.mapEnabled),
    ("notifications", .list state.notifications), ("pending_sounds", .list state.sounds),
    ("pending_video", state.video), ("pending_interlude", state.interlude),
    ("current_locale", state.locale)]

end GameState
end Fabula
