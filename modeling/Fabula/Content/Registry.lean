import Fabula.Content.Story
import Fabula.Content.World
import Fabula.Dialogue.Record
import Fabula.Script.Dialogue
/-!
# The registry

All content of a game. Every collection keeps its entries in the order in which they were first
stored, each under its own id. A collection is authored as a list of records or as a record of
records, where a record without an id gets the name of its field; a dialogue can also be the source
of a script under the dialogue's id.
-/

namespace Fabula

structure Registry where
  locations : Table Location
  characters : Table Character
  items : Table Item
  maps : Table TravelMap
  dialogues : Table Dialogue
  quests : Table Quest
  journal : Table JournalEntry
  interludes : Table Interlude
  locales : Table (Table Value)
deriving Repr

namespace Registry

def entries (data : Table Value) (name : String) : Except Failure (List (Option Key × Value)) := do
  match (data.getOrNull name).orElse (.list []) with
  | .record fields => return fields.map fun (key, entry) => (some key, entry)
  | collection => return (← collection.items).map fun entry => (none, entry)

/-- A record with the name of its field as its id, unless it has an id. -/
def identified (key : Option Key) (entry : Value) : Value :=
  match key, entry with
  | some key, .record fields =>
    if (Table.mk fields).contains "id" then entry
    else .record (fields ++ [(.text "id", Value.ofKey key)])
  | _, _ => entry

def store {α : Type} (id : α → Value) (table : Table α) (entity : α) : Except Failure (Table α) :=
  return table.insert (← (id entity).key) entity

def collect {α : Type} (id : α → Value) (read : Value → Except Failure α) (data : Table Value)
    (name : String) : Except Failure (Table α) := do
  (← entries data name).foldlM
    (fun table (key, entry) => do store id table (← read (identified key entry))) ∅

def readDialogue : Option Key → Value → Except Failure Dialogue
  | none, .text _ => .error (.content .sourceWithoutKey)
  | some key, .text source => Script.compile (Value.ofKey key) source
  | some _, .list items =>
    .error (if Value.memberOf (.text "id") items then .noParts else .wrongKind)
  | some key, .record fields => Dialogue.ofRecord (identified (some key) (.record fields))
  | some _, _ => .error .wrongKind
  | none, data => Dialogue.ofRecord data

def ofRecord (data : Value) : Except Failure Registry := do
  let data ← data.fields
  let dialogues ← (← entries data "dialogues").foldlM
    (fun table (key, entry) => do store Dialogue.id table (← readDialogue key entry)) ∅
  return {
    dialogues
    locations := ← collect Location.id Location.ofRecord data "locations"
    characters := ← collect Character.id Character.ofRecord data "characters"
    items := ← collect Item.id Item.ofRecord data "items"
    maps := ← collect TravelMap.id TravelMap.ofRecord data "maps"
    quests := ← collect Quest.id Quest.ofRecord data "quests"
    journal := ← collect JournalEntry.id JournalEntry.ofRecord data "journal_entries"
    interludes := ← collect Interlude.id Interlude.ofRecord data "interludes"
    locales := ← (← ((data.getOrNull "locales").orElse (.record [])).fields).mapM Value.table }

def summary (registry : Registry) : Value :=
  .object [("locations", count registry.locations), ("characters", count registry.characters),
    ("items", count registry.items), ("maps", count registry.maps),
    ("dialogues", count registry.dialogues), ("quests", count registry.quests),
    ("journal_entries", count registry.journal), ("interludes", count registry.interludes),
    ("locales", count registry.locales)]
where
  count {α : Type} (table : Table α) : Value := .int table.size

def toRecord (registry : Registry) : Value :=
  .object [("locations", .list (registry.locations.values.map Location.toRecord)),
    ("characters", .list (registry.characters.values.map Character.toRecord)),
    ("items", .list (registry.items.values.map Item.toRecord)),
    ("maps", .list (registry.maps.values.map TravelMap.toRecord)),
    ("dialogues", .list (registry.dialogues.values.map Dialogue.toRecord)),
    ("quests", .list (registry.quests.values.map Quest.toRecord)),
    ("journal_entries", .list (registry.journal.values.map JournalEntry.toRecord)),
    ("interludes", .list (registry.interludes.values.map Interlude.toRecord)),
    ("locales", .ofTable (registry.locales.map Value.ofTable))]

end Registry
end Fabula
