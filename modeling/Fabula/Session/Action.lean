import Fabula.Content.Setup
import Fabula.Number.Hypotenuse
import Fabula.Session.Walk
import Fabula.State.Save
/-!
# Actions

What a player can do in a session. Every action is logged first. An action that is not possible
where the session stands changes nothing, and all actions but saving answer with a view.
-/

namespace Fabula

inductive Reply where
  | view (view : View)
  | save (save : Save)
  | value (value : Value)
deriving Repr

inductive Action where
  | newGame (setup : Setup)
  | load (save : Save)
  | loadRecord (data : Value)
  | save
  | selectChoice (id : Value)
  | talkTo (character : Value)
  | continueDialogue
  | takeItem (item : Value)
  | travelTo (location : Value)
  | writeNote (title text : Value)
  | deleteNote (id : Value)
  | setLocale (locale : Value)
  | look
  | debug (effects : List Effect) (label : Value)
deriving Repr

namespace Session

def new (game : Game) (roller : Roller) (notes : Nat) : Session where
  state := .empty "" game.settings.mapEnabled game.settings.locale
  roller
  log := { RunLog.new game.now with seed := roller.seed }
  machine := .new
  notes

def resume (game : Game) (state : GameState) : Play Unit := do
  Play.setState state
  let _ ← Play.follow game
  Play.observe game "load_game"

def start (game : Game) (roller : Roller) (notes : Nat) (state : Option GameState) :
    Except Failure Session :=
  match state with
  | none => .ok (new game roller notes)
  | some state =>
    match resume game state (new game roller notes) with
    | .ok _ session => .ok session
    | .error failure _ => .error failure

end Session

def Character.initialState (character : Character) : CharacterState where
  location := character.location
  inParty := .bool false
  relationship := .int 0
  stats := character.stats

def GameState.initial (game : Game) (setup : Setup) : GameState :=
  { empty setup.location game.settings.mapEnabled game.settings.locale with
    time := setup.time
    flags := setup.flags
    bindings := setup.bindings
    inventory := setup.inventory
    characters := game.registry.characters.map Character.initialState
    itemLocations := game.registry.items.map Item.location }

namespace Play

def requireTime : Play Unit := do
  let _ ← (← state).time.text

def newGame (game : Game) (setup : Setup) : Play View := do
  logAction game "new_game" [("start_location", setup.location)]
  setState (.initial game setup)
  requireTime
  fireTriggers game
  finish game "new_game"

def load (game : Game) (save : Save) : Play View := do
  logAction game "load_game" [("timestamp", save.timestamp)]
  setState save.state
  finish game "load_game"

def save (game : Game) : Play Save := do
  logAction game "save_game" []
  requireTime
  return { version := game.settings.saveVersion, state := ← state, timestamp := game.now.text }

def currentNode (game : Game) : Play (Option (Dialogue × Node)) := do
  View.currentNode? game.registry (← state).cursor

def take (game : Game) (dialogue : Dialogue) (choice : Choice) (id : Value) : Play Unit := do
  perform game choice.effects ("choice " ++ id.display)
  if ← follow game then return
  let target := if choice.next.isPresent then dialogue.findNode? choice.next else none
  match target with
  | some node => arrive game (follow game) dialogue node
  | none => endDialogue

def selectChoice (game : Game) (id : Value) : Play View := do
  logAction game "select_choice" [("choice_id", id)]
  match ← currentNode game with
  | some (dialogue, node) =>
    match node.findChoice? id with
    | some choice => take game dialogue choice id
    | none => pure ()
  | none => pure ()
  finish game "select_choice"

def talkTo (game : Game) (id : Value) : Play View := do
  logAction game "talk_to" [("character_id", id)]
  match ← game.registry.characters.lookup id with
  | some character =>
    if character.dialogue.isPresent then enter game (follow game) character.dialogue
  | none => pure ()
  finish game "talk_to"

def continueDialogue (game : Game) : Play View := do
  logAction game "continue_dialogue" []
  match ← currentNode game with
  | some (dialogue, node) => if node.choices.isEmpty then hop game dialogue node
  | none => pure ()
  finish game "continue_dialogue"

def takeItem (game : Game) (item : Value) : Play View := do
  logAction game "take_item" [("item_id", item)]
  let state ← state
  let place := (← state.itemLocations.lookup item).getD .null
  if place.same state.location then setState (← state.carryItem item)
  finish game "take_item"

def findRoute (game : Game) (origin destination : Value) :
    Option (TravelMap × Marker × Marker) :=
  game.registry.maps.values.findSome? fun travelMap => do
    return (travelMap, ← travelMap.findMarker? origin, ← travelMap.findMarker? destination)

/-- The hours that a route takes: the distance between its ends by the scale of the map, rounded to
the nearest hour. -/
def travelHours (travelMap : TravelMap) (origin destination : Marker) : Except Failure Int := do
  let x ← destination.x.difference origin.x
  let y ← destination.y.difference origin.y
  let distance := Binary64.hypotenuse (← x.toFloat) (← y.toFloat)
  let (distance, scale) ← (Value.float distance).operands travelMap.scale
  return ← (← (← distance.mul scale).add (.float 0.5)).floor

def travelAlong (game : Game) (travelMap : TravelMap) (origin destination : Marker)
    (location : Value) : Play Unit := do
  let hours ← travelHours travelMap origin destination
  setState { ← state with location, cursor := none }
  advanceClock game hours ("travel to " ++ location.display)
  fireTriggers game

def travelTo (game : Game) (location : Value) : Play View := do
  logAction game "travel" [("location_id", location)]
  let state ← state
  if state.mapEnabled.isPresent then
    match findRoute game state.location location with
    | some (travelMap, origin, destination) =>
      travelAlong game travelMap origin destination location
    | none => pure ()
  finish game "travel"

def noteId (number : Nat) : String :=
  let digits := String.ofList (Nat.toDigits 16 number)
  "note_" ++ String.ofList (List.replicate (32 - digits.length) '0') ++ digits

def writeNote (game : Game) (title text : Value) : Play View := do
  modify fun session => { session with notes := session.notes + 1 }
  let id := noteId (← get).notes
  logAction game "write_note" [("note_id", .text id)]
  let state ← state
  setState { state with notes := state.notes ++ [⟨id, title, text⟩] }
  finish game "write_note"

def deleteNote (game : Game) (id : Value) : Play View := do
  logAction game "delete_note" [("note_id", id)]
  let state ← state
  setState { state with notes := state.notes.filter fun note => !note.id.same id }
  finish game "delete_note"

def setLocale (game : Game) (locale : Value) : Play View := do
  logAction game "set_locale" [("locale", locale)]
  let _ ← game.registry.locales.lookup locale
  setState { ← state with locale }
  finish game "set_locale"

def look (game : Game) : Play View :=
  finish game "get_snapshot"

def intervene (game : Game) (change : GameState → Rolling GameState) (label : Value) :
    Play View := do
  logAction game "debug" [("command", label)]
  alter game change ("debug " ++ label.display)
  finish game "debug"

def debug (game : Game) (effects : List Effect) (label : Value) : Play View :=
  intervene game (Effect.applyAll · effects) label

def act (game : Game) : Action → Play Reply
  | .newGame setup => return .view (← newGame game setup)
  | .load save => return .view (← load game save)
  | .loadRecord data => do
    let save ← Save.ofRecord game.now.text data
    return .view (← load game save)
  | .save => return .save (← save game)
  | .selectChoice id => return .view (← selectChoice game id)
  | .talkTo character => return .view (← talkTo game character)
  | .continueDialogue => return .view (← continueDialogue game)
  | .takeItem item => return .view (← takeItem game item)
  | .travelTo location => return .view (← travelTo game location)
  | .writeNote title text => return .view (← writeNote game title text)
  | .deleteNote id => return .view (← deleteNote game id)
  | .setLocale locale => return .view (← setLocale game locale)
  | .look => return .view (← look game)
  | .debug effects label => return .view (← debug game effects label)

end Play
end Fabula
