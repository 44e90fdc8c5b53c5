import Fabula.Content.Registry
import Fabula.Localization
import Fabula.Rules.Evaluation
import Fabula.Settings
/-!
# Views

A view is what a renderer shows of one moment of a session: references are resolved, hidden choices
are left out, and ids without content are passed over. Building a view changes nothing but the
roller, since the conditions of choices can roll. The dialogue is built first, then the parts of
the view in their order.
-/

namespace Fabula

structure LocationView where
  id : Value
  name : Value
  description : Value
  banner : Value
deriving Repr

structure CharacterView where
  id : Value
  name : Value
  biography : Value
  portrait : Value
  location : Value
  inParty : Value
  relationship : Value
  stats : Table Value
deriving Repr

structure ItemView where
  id : Value
  name : Value
  description : Value
  icon : Value
  image : Value
  stats : Table Value
deriving Repr

structure ChoiceView where
  id : Value
  text : Value
deriving Repr

structure DialogueView where
  speaker : Value
  speakerName : Value
  text : Value
  portrait : Value
  voice : Value
deriving Repr

structure QuestView where
  id : Value
  name : Value
  description : Value
  stage : Value
  stageDescription : Value
deriving Repr

structure JournalView where
  id : Value
  title : Value
  text : Value
  category : Value
deriving Repr

structure MarkerView where
  id : Value
  name : Value
  x : Value
  y : Value
  isCurrent : Bool
deriving Repr

structure MapView where
  id : Value
  name : Value
  image : Value
  scale : Value
  markers : List MarkerView
deriving Repr

structure InterludeView where
  id : Value
  background : Value
  text : Value
  banner : Value
  music : Value
  voice : Value
  sounds : List Value
  scroll : Value
  scrollSpeed : Value
deriving Repr

structure View where
  location : LocationView
  charactersHere : List CharacterView
  itemsHere : List ItemView
  choices : List ChoiceView
  dialogue : Option DialogueView
  party : List CharacterView
  inventory : List ItemView
  quests : List QuestView
  journal : List JournalView
  notes : List Note
  bindings : Table Value
  time : Clock
  map : Option MapView
  music : Value
  ambient : Value
  notifications : List Value
  sounds : List Value
  video : Value
  interlude : Option InterludeView
  locale : Value
deriving Repr

namespace View

abbrev Resolver : Type :=
  Value → Except Failure Value

def resolver (registry : Registry) (state : GameState) : Except Failure Resolver := do
  let locale := (← registry.locales.lookup state.locale).getD ∅
  return Localization.resolve locale state.bindings

def currentNode? (registry : Registry) (cursor : Option Cursor) :
    Except Failure (Option (Dialogue × Node)) := do
  let some cursor := cursor | return none
  let some dialogue ← registry.dialogues.lookup cursor.dialogue | return none
  return (dialogue.findNode? cursor.node).map fun node => (dialogue, node)

def speaker? (registry : Registry) (node : Node) : Except Failure (Option Character) := do
  if node.speaker.isPresent then registry.characters.lookup node.speaker else return none

def speakerName (settings : Settings) (resolve : Resolver) (node : Node)
    (speaker : Option Character) : Except Failure Value :=
  match node.speaker, speaker with
  | .null, _ => .ok settings.narrator
  | _, some character => resolve character.name
  | name, none => resolve name

def ofNode (registry : Registry) (settings : Settings) (resolve : Resolver) (node : Node) :
    Except Failure DialogueView := do
  let speaker ← speaker? registry node
  let ownPortrait := (speaker.map Character.portrait).getD .null
  return {
    speaker := node.speaker
    speakerName := ← speakerName settings resolve node speaker
    text := ← resolve node.text
    portrait := node.portrait.orElse (ownPortrait.orElse .null)
    voice := node.voice }

def ofChoices (state : GameState) (resolve : Resolver) : List Choice → Rolling (List ChoiceView)
  | [] => return []
  | choice :: rest => do
    if ← Condition.allPass state choice.conditions then
      let text ← resolve choice.text
      return ⟨choice.id, text⟩ :: (← ofChoices state resolve rest)
    else ofChoices state resolve rest

def ofDialogue (registry : Registry) (settings : Settings) (state : GameState)
    (resolve : Resolver) : Rolling (Option DialogueView × List ChoiceView) := do
  match ← currentNode? registry state.cursor with
  | none => return (none, [])
  | some (_, node) =>
    let line ← ofNode registry settings resolve node
    return (some line, ← ofChoices state resolve node.choices)

def ofLocation (registry : Registry) (resolve : Resolver) (id : Value) :
    Except Failure LocationView := do
  match ← registry.locations.lookup id with
  | some location =>
    return ⟨location.id, ← resolve location.name, ← resolve location.description,
      location.banner⟩
  | none => return ⟨id, id, .text ("Location not found: " ++ id.display), ""⟩

def ofCharacter (resolve : Resolver) (character : Character) (state : CharacterState) :
    Except Failure CharacterView := do
  return {
    id := character.id
    name := ← resolve character.name
    biography := ← resolve character.biography
    portrait := character.portrait
    location := state.location
    inParty := state.inParty
    relationship := state.relationship
    stats := state.stats }

def ofCharacters (registry : Registry) (resolve : Resolver) (state : GameState)
    (check : CharacterState → Bool) : Except Failure (List CharacterView) :=
  let found := state.characters.entries.filterMap fun (id, character) =>
    if check character then (registry.characters.find? id).map (·, character) else none
  found.mapM fun (character, state) => ofCharacter resolve character state

def ofItem (resolve : Resolver) (item : Item) : Except Failure ItemView := do
  return {
    id := item.id
    name := ← resolve item.name
    description := ← resolve item.description
    icon := item.icon
    image := item.image
    stats := item.stats }

def ofItemsHere (registry : Registry) (resolve : Resolver) (state : GameState) :
    Except Failure (List ItemView) :=
  let found := state.itemLocations.entries.filterMap fun (id, location) =>
    if location.same state.location then registry.items.find? id else none
  found.mapM (ofItem resolve)

def ofKnown {α β : Type} (table : Table α) (view : α → Except Failure β) :
    List Value → Except Failure (List β)
  | [] => .ok []
  | id :: rest => do
    match ← table.lookup id with
    | some known => return (← view known) :: (← ofKnown table view rest)
    | none => ofKnown table view rest

def ofQuests (registry : Registry) (resolve : Resolver) (state : GameState) :
    Except Failure (List QuestView) :=
  let found := state.quests.entries.filterMap fun (id, stage) => do
    let quest ← registry.quests.find? id
    return (quest, ← quest.findStage? stage)
  found.mapM fun (quest, stage) => do
    return ⟨quest.id, ← resolve quest.name, ← resolve quest.description, stage.id,
      ← resolve stage.description⟩

def ofJournalEntry (resolve : Resolver) (entry : JournalEntry) : Except Failure JournalView := do
  return ⟨entry.id, ← resolve entry.title, ← resolve entry.text, entry.category⟩

def ofMarker (registry : Registry) (resolve : Resolver) (current : Value) (marker : Marker) :
    Except Failure MarkerView := do
  let name ←
    match ← registry.locations.lookup marker.id with
    | some location => resolve location.name
    | none => pure marker.id
  return ⟨marker.id, name, marker.x, marker.y, marker.id.same current⟩

def ofMap (registry : Registry) (resolve : Resolver) (state : GameState) :
    Except Failure (Option MapView) := do
  if !state.mapEnabled.isPresent then return none
  match registry.maps.values with
  | [] => return none
  | travelMap :: _ =>
    let markers ← travelMap.markers.mapM (ofMarker registry resolve state.location)
    return some ⟨travelMap.id, ← resolve travelMap.name, travelMap.image, travelMap.scale, markers⟩

def ofInterlude (registry : Registry) (settings : Settings) (resolve : Resolver)
    (pending : Value) : Except Failure (Option InterludeView) := do
  if !pending.isPresent then return none
  match ← registry.interludes.lookup pending with
  | none => return none
  | some interlude =>
    return some {
      id := interlude.id
      background := interlude.background
      text := ← resolve interlude.text
      banner := interlude.banner
      music := interlude.music
      voice := interlude.voice
      sounds := interlude.sounds
      scroll := orNull interlude.scroll settings.interludeScroll
      scrollSpeed := orNull interlude.scrollSpeed settings.interludeScrollSpeed }
where
  orNull (value other : Value) : Value :=
    match value with
    | .null => other
    | value => value

def ofWorld (registry : Registry) (settings : Settings) (state : GameState) (resolve : Resolver)
    (dialogue : Option DialogueView) (choices : List ChoiceView) : Except Failure View := do
  let here ← registry.locations.lookup state.location
  return {
    location := ← ofLocation registry resolve state.location
    charactersHere :=
      ← ofCharacters registry resolve state fun character =>
        character.location.same state.location
    itemsHere := ← ofItemsHere registry resolve state
    choices
    dialogue
    party := ← ofCharacters registry resolve state fun character => character.inParty.isPresent
    inventory := ← ofKnown registry.items (ofItem resolve) state.inventory
    quests := ← ofQuests registry resolve state
    journal := ← ofKnown registry.journal (ofJournalEntry resolve) state.journal
    notes := state.notes
    bindings := state.bindings
    time := state.time
    map := ← ofMap registry resolve state
    music := (here.map Location.music).getD ""
    ambient := (here.map Location.ambient).getD ""
    notifications := ← state.notifications.mapM resolve
    sounds := state.sounds
    video := state.video
    interlude := ← ofInterlude registry settings resolve state.interlude
    locale := state.locale }

def build (registry : Registry) (settings : Settings) (state : GameState) : Rolling View := do
  let resolve ← resolver registry state
  let (dialogue, choices) ← ofDialogue registry settings state resolve
  ofWorld registry settings state resolve dialogue choices

end View

def LocationView.toRecord (view : LocationView) : Value :=
  .object [("id", view.id), ("name", view.name), ("description", view.description),
    ("banner", view.banner)]

def CharacterView.toRecord (view : CharacterView) : Value :=
  .object [("id", view.id), ("name", view.name), ("biography", view.biography),
    ("portrait", view.portrait), ("location", view.location), ("in_party", view.inParty),
    ("relationship", view.relationship), ("stats", .ofTable view.stats)]

def ItemView.toRecord (view : ItemView) : Value :=
  .object [("id", view.id), ("name", view.name), ("description", view.description),
    ("icon", view.icon), ("image", view.image), ("stats", .ofTable view.stats)]

def ChoiceView.toRecord (view : ChoiceView) : Value :=
  .object [("id", view.id), ("text", view.text)]

def DialogueView.toRecord (view : DialogueView) : Value :=
  .object [("speaker", view.speaker), ("speaker_name", view.speakerName), ("text", view.text),
    ("portrait", view.portrait), ("voice", view.voice)]

def QuestView.toRecord (view : QuestView) : Value :=
  .object [("id", view.id), ("name", view.name), ("description", view.description),
    ("current_stage", view.stage), ("current_stage_description", view.stageDescription)]

def JournalView.toRecord (view : JournalView) : Value :=
  .object [("id", view.id), ("title", view.title), ("text", view.text),
    ("category", view.category)]

def MarkerView.toRecord (view : MarkerView) : Value :=
  .object [("id", view.id), ("name", view.name), ("x", view.x), ("y", view.y),
    ("is_current", .bool view.isCurrent)]

def MapView.toRecord (view : MapView) : Value :=
  .object [("id", view.id), ("name", view.name), ("image", view.image), ("scale", view.scale),
    ("locations", .list (view.markers.map MarkerView.toRecord))]

def InterludeView.toRecord (view : InterludeView) : Value :=
  .object [("id", view.id), ("background", view.background), ("text", view.text),
    ("banner", view.banner), ("music", view.music), ("voice", view.voice),
    ("sounds", .list view.sounds), ("scroll", view.scroll), ("scroll_speed", view.scrollSpeed)]

def View.toRecord (view : View) : Value :=
  .object [("location", view.location.toRecord),
    ("characters_here", .list (view.charactersHere.map CharacterView.toRecord)),
    ("items_here", .list (view.itemsHere.map ItemView.toRecord)),
    ("choices", .list (view.choices.map ChoiceView.toRecord)),
    ("dialogue", (view.dialogue.map DialogueView.toRecord).getD .null),
    ("party", .list (view.party.map CharacterView.toRecord)),
    ("inventory", .list (view.inventory.map ItemView.toRecord)),
    ("quests", .list (view.quests.map QuestView.toRecord)),
    ("journal", .list (view.journal.map JournalView.toRecord)),
    ("notes", .list (view.notes.map Note.toRecord)), ("variables", .ofTable view.bindings),
    ("time", view.time.toRecord), ("map", (view.map.map MapView.toRecord).getD .null),
    ("music", view.music), ("ambient", view.ambient), ("notifications", .list view.notifications),
    ("pending_sounds", .list view.sounds), ("pending_video", view.video),
    ("pending_interlude", (view.interlude.map InterludeView.toRecord).getD .null),
    ("locale", view.locale)]

end Fabula
