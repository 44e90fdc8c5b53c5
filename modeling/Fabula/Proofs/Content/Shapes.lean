import Fabula.Proofs.Content.Keyed
import Fabula.Proofs.Content.Refused
/-!
# The shapes of a collection

A collection is a list of records, or a record of records in which the name of a field stands in
for a missing id. Content makes the same registry in either shape. Locales have one shape only.
Main statements:

* `Registry.ofRecord_relist`: a collection of either shape makes the same registry;
* `Registry.shapes_agree`: so do any collections, and each of them is stored under its own ids.
-/

namespace Fabula
variable {α : Type}

namespace Table

theorem keyed_ofList {id : α → Value} {stored : List (Key × α)}
    (own : ∀ entry ∈ stored, (id entry.2).key = .ok entry.1) : Keyed id (ofList stored) := by
  suffices keeps : ∀ table : Table α, Keyed id table →
      Keyed id (stored.foldl (fun table entry => table.insert entry.1 entry.2) table) from
    keeps ∅ .empty
  induction stored with
  | nil => exact fun _ keyed => keyed
  | cons entry rest ih =>
    intro table keyed
    exact ih (fun entry member => own entry (List.mem_cons_of_mem _ member)) _
      (keyed.insert (own entry List.mem_cons_self))

end Table

namespace Registry

def OwnId (key : Key) : Value → Prop
  | .record fields => ∀ id, (Table.mk fields).find? "id" = some id → id = Value.ofKey key
  | _ => False

def Listable : Value → Prop
  | .record entries => ∀ entry ∈ entries, OwnId entry.1 entry.2
  | _ => True

def withId (key : Key) : Value → Value
  | .record fields => .ofTable ((Table.mk fields).insert "id" (Value.ofKey key))
  | entry => entry

def listed : Value → Value
  | .record entries => .list (entries.map fun entry => withId entry.1 entry.2)
  | collection => collection

def Collection.name : Collection → String
  | dialogues => "dialogues"
  | locations => "locations"
  | characters => "characters"
  | items => "items"
  | maps => "maps"
  | quests => "quests"
  | journal => "journal_entries"
  | interludes => "interludes"
  | locales => "locales"

def relist (data : Table Value) (collection : Collection) : Table Value :=
  match data.find? collection.name with
  | some found => data.insert collection.name (listed found)
  | none => data

theorem withId_eq_identified {key : Key} {entry : Value} (own : OwnId key entry) :
    withId key entry = identified (some key) entry := by
  cases entry with
  | record fields =>
    simp only [withId, identified]
    split
    · next known =>
      obtain ⟨id, found⟩ := Option.isSome_iff_exists.mp known
      rw [← own id found, Table.insert_of_find? found]
      rfl
    · next new =>
      rw [Table.contains_iff] at new
      rw [Table.insert, Table.insertEntry_of_new _ _ fields new]
      rfl
  | _ => cases own

theorem entries_of_record {data : Table Value} {name : String} {fields : List (Key × Value)}
    (found : data.find? name = some (.record fields)) :
    entries data name = .ok (fields.map fun entry => (some entry.1, entry.2)) := by
  simp only [entries, Table.getOrNull, Table.getD, found, Option.getD_some]
  cases fields <;> rfl

theorem entries_of_list {data : Table Value} {name : String} {items : List Value}
    (found : data.find? name = some (.list items)) :
    entries data name = .ok (items.map fun entry => (none, entry)) := by
  simp only [entries, Table.getOrNull, Table.getD, found, Option.getD_some]
  cases items <;> rfl

theorem entries_congr {data other : Table Value} {name : String}
    (same : data.find? name = other.find? name) : entries data name = entries other name := by
  simp only [entries, Table.getOrNull, Table.getD, same]

def Uniform (read : Option Key → Value → Except Failure α) : Prop :=
  ∀ key fields, read none (identified (some key) (.record fields)) =
    read (some key) (.record fields)

theorem uniform_collect (read : Value → Except Failure α) :
    Uniform fun key entry => read (identified key entry) :=
  fun _ _ => rfl

theorem uniform_readDialogue : Uniform readDialogue := by
  intro key fields
  change readDialogue none (identified (some key) (.record fields)) =
    Dialogue.ofRecord (identified (some key) (.record fields))
  simp only [identified]
  split <;> rfl

theorem foldlM_listed {id : α → Value} {read : Option Key → Value → Except Failure α}
    (uniform : Uniform read) {fields : List (Key × Value)} (own : Listable (.record fields))
    (table : Table α) :
    ((fields.map fun entry => withId entry.1 entry.2).map fun entry => (none, entry)).foldlM
        (fun table (key, entry) => do store id table (← read key entry)) table =
      (fields.map fun entry => (some entry.1, entry.2)).foldlM
        (fun table (key, entry) => do store id table (← read key entry)) table := by
  induction fields generalizing table with
  | nil => rfl
  | cons entry rest ih =>
    obtain ⟨key, entry⟩ := entry
    have first : OwnId key entry := own _ List.mem_cons_self
    have same : read none (withId key entry) = read (some key) entry := by
      rw [withId_eq_identified first]
      cases entry with
      | record fields => exact uniform key fields
      | _ => cases first
    simp only [List.map_cons, List.foldlM_cons, same]
    exact bind_congr fun table => ih (fun entry member => own entry (List.mem_cons_of_mem _ member))
      table

theorem find?_relist_of_ne {data : Table Value} {collection : Collection} {name : String}
    (other : name ≠ collection.name) : (relist data collection).find? name = data.find? name := by
  unfold relist
  split
  · refine Table.find?_insert_of_ne data _ ?_
    rw [Key.same_text, beq_iff_eq]
    exact Ne.symm other
  · rfl

theorem find?_relist_self (data : Table Value) (collection : Collection) :
    (relist data collection).find? collection.name = (data.find? collection.name).map listed := by
  unfold relist
  split
  · next found => rw [found, Table.find?_insert_self, Option.map_some]
  · next absent => rw [absent, Option.map_none]

theorem gather_relist {id : α → Value} {read : Option Key → Value → Except Failure α}
    (uniform : Uniform read) {data : Table Value} {collection : Collection}
    (own : Listable (data.getOrNull collection.name)) (name : String) :
    (do
      (← entries (relist data collection) name).foldlM
        (fun table (key, entry) => do store id table (← read key entry)) ∅) = (do
      (← entries data name).foldlM
        (fun table (key, entry) => do store id table (← read key entry)) ∅) := by
  by_cases named : name = collection.name
  · subst named
    have relisted := find?_relist_self data collection
    cases found : data.find? collection.name with
    | none =>
      rw [found, Option.map_none] at relisted
      rw [entries_congr (relisted.trans found.symm)]
    | some value =>
      rw [found, Option.map_some] at relisted
      cases value with
      | record fields =>
        rw [Table.getOrNull, Table.getD, found, Option.getD_some] at own
        rw [entries_of_list relisted, entries_of_record found]
        exact foldlM_listed uniform own ∅
      | _ => rw [entries_congr (relisted.trans found.symm)]
  · rw [entries_congr (find?_relist_of_ne named)]

theorem ofRecord_relist {data : Table Value} {collection : Collection}
    (keyed : collection ≠ .locales) (own : Listable (data.getOrNull collection.name)) :
    ofRecord (.ofTable (relist data collection)) = ofRecord (.ofTable data) := by
  have named : "locales" ≠ collection.name := by
    cases collection <;> first | exact absurd rfl keyed | decide
  have records {α : Type} (id : α → Value) (read : Value → Except Failure α) (name : String) :
      collect id read (relist data collection) name = collect id read data name :=
    gather_relist (uniform_collect read) own name
  have locales : (relist data collection).getOrNull "locales" = data.getOrNull "locales" := by
    rw [Table.getOrNull, Table.getD, find?_relist_of_ne named, Table.getOrNull, Table.getD]
  have fields (table : Table Value) : (Value.ofTable table).fields = pure table := rfl
  simp only [ofRecord, fields, pure_bind, records, locales]
  rw [← bind_assoc, gather_relist uniform_readDialogue own "dialogues", bind_assoc]

/-- What a collection makes of its entries: each is stored under its own id, the keys keep the order
in which they came first, and the last entry with an id is the one that is found under it. -/
structure Filed (id : α → Value) (read : Option Key → Value → Except Failure α)
    (data : Table Value) (name : String) (table : Table α) : Prop where
  own : table.Keyed id
  order : ∃ given stored, entries data name = .ok given ∧
    given.mapM (readKeyed id read) = .ok stored ∧
    table.keys = (stored.map (·.1)).eraseDupsBy Key.same ∧
    ∀ key, table.find? key = (Table.mk stored.reverse).find? key

theorem filed_of_gather {id : α → Value} {read : Option Key → Value → Except Failure α}
    {data : Table Value} {name : String} : Returns (Filed id read data name) (do
      (← entries data name).foldlM
        (fun table (key, entry) => do store id table (← read key entry)) ∅) := by
  simp only [foldlM_store_eq, returns_bind, returns_pure]
  intro given listed stored reads
  have each (entry : Option Key × Value) :
      Returns (fun stored => (id stored.2).key = .ok stored.1) (readKeyed id read entry) := by
    simp only [readKeyed, returns_bind, returns_pure]
    exact fun _ _ _ own => own
  have own := returns_mapM each given stored reads
  exact ⟨Table.keyed_ofList own, given, stored, listed, reads, Table.keys_ofList stored,
    Table.find?_ofList stored⟩

abbrev FiledRecords (id : α → Value) (read : Value → Except Failure α) :
    Table Value → String → Table α → Prop :=
  Filed id fun key entry => read (identified key entry)

structure Ordered (data : Table Value) (registry : Registry) : Prop where
  dialogues : Filed Dialogue.id readDialogue data "dialogues" registry.dialogues
  locations : FiledRecords Location.id Location.ofRecord data "locations" registry.locations
  characters : FiledRecords Character.id Character.ofRecord data "characters" registry.characters
  items : FiledRecords Item.id Item.ofRecord data "items" registry.items
  maps : FiledRecords TravelMap.id TravelMap.ofRecord data "maps" registry.maps
  quests : FiledRecords Quest.id Quest.ofRecord data "quests" registry.quests
  journal : FiledRecords JournalEntry.id JournalEntry.ofRecord data "journal_entries"
    registry.journal
  interludes : FiledRecords Interlude.id Interlude.ofRecord data "interludes" registry.interludes

theorem ordered (data : Table Value) : Returns (Ordered data) (ofRecord (.ofTable data)) := by
  have fields : (Value.ofTable data).fields = pure data := rfl
  simp only [ofRecord, fields, pure_bind, returns_bind, returns_pure]
  intro given listed dialogues reads locations readLocations characters readCharacters items
    readItems maps readMaps quests readQuests journal readJournal interludes readInterludes _ _ _ _
  have readDialogues : (do
      (← entries data "dialogues").foldlM
        (fun table (key, entry) => do store Dialogue.id table (← readDialogue key entry)) ∅) =
          .ok dialogues := by
    rw [listed]
    exact reads
  exact {
    dialogues := filed_of_gather dialogues readDialogues
    locations := filed_of_gather locations readLocations
    characters := filed_of_gather characters readCharacters
    items := filed_of_gather items readItems
    maps := filed_of_gather maps readMaps
    quests := filed_of_gather quests readQuests
    journal := filed_of_gather journal readJournal
    interludes := filed_of_gather interludes readInterludes }

theorem listable_listed (collection : Value) : Listable (listed collection) := by
  cases collection <;> trivial

theorem listable_relist {data : Table Value} {collection other : Collection}
    (own : Listable (data.getOrNull other.name)) :
    Listable ((relist data collection).getOrNull other.name) := by
  by_cases named : other.name = collection.name
  · rw [Table.getOrNull, Table.getD, named, find?_relist_self]
    cases data.find? collection.name with
    | none => trivial
    | some value => exact listable_listed value
  · rw [Table.getOrNull, Table.getD, find?_relist_of_ne named]
    exact own

/-- Content with lists in place of collections that are records makes the same registry, or none
in either case. Whatever is in a registry is stored under its own id, in the order in which the ids
came first, and the last entry with an id is the one that is kept. -/
theorem shapes_agree (data : Table Value) :
    (∀ collections : List Collection, .locales ∉ collections →
      (∀ collection ∈ collections, Listable (data.getOrNull collection.name)) →
        ofRecord (.ofTable (collections.foldl relist data)) = ofRecord (.ofTable data)) ∧
    ∀ registry, ofRecord (.ofTable data) = .ok registry → Ordered data registry := by
  refine ⟨fun collections => ?_, ordered data⟩
  induction collections generalizing data with
  | nil => exact fun _ _ => rfl
  | cons collection rest ih =>
    intro keyed own
    have first := own collection List.mem_cons_self
    have later (other : Collection) (member : other ∈ rest) :
        Listable ((relist data collection).getOrNull other.name) :=
      listable_relist (own other (List.mem_cons_of_mem _ member))
    rw [List.mem_cons, not_or] at keyed
    obtain ⟨notFirst, notLater⟩ := keyed
    exact (ih _ notLater later).trans (ofRecord_relist (Ne.symm notFirst) first)

def innContent : Table Value where
  entries := [("locations", .object [("inn", .object [("name", "The Inn")]),
      ("road", .object [("id", "road"), ("name", "The Road")])]),
    ("items", .list [.object [("id", "coin"), ("name", "Coin")],
      .object [("id", "rope"), ("name", "Rope")],
      .object [("id", "coin"), ("name", "Gold coin")]])]

theorem shapes_agree_inn :
    ofRecord (.ofTable (relist innContent .locations)) = ofRecord (.ofTable innContent) ∧
    ∃ registry, ofRecord (.ofTable innContent) = .ok registry ∧ Ordered innContent registry := by
  obtain ⟨agree, ordered⟩ := shapes_agree innContent
  refine ⟨agree [.locations] (by simp) ?_, _, rfl, ordered _ rfl⟩
  intro collection member
  cases List.mem_singleton.mp member
  intro entry member
  rcases List.mem_cons.mp member with rfl | member
  · intro id absent
    cases absent
  · cases List.mem_singleton.mp member
    intro id found
    cases found
    rfl

example : (Registry.items <$> ofRecord (.ofTable innContent)).map
    (fun items => items.entries.map fun entry => (entry.1, entry.2.name)) =
      .ok [("coin", "Gold coin"), ("rope", "Rope")] := by rfl

end Registry
end Fabula
