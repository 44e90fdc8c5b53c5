import Fabula.Proofs.Content.Flaw
import Fabula.Proofs.Script.Refused
/-!
# Content that is refused

Content that makes no registry is refused with a fault of the content or of a script in it, except
where it has a flaw. Flaws are those of rules and ids, lists and tables that are none, branches
without a condition or a target, ids that nothing can be stored under, and integers of too many
digits in scripts. Main statements:

* `Dialogue.ofRecord_escapes_iff`, `Interlude.ofRecord_escapes_iff` and so on: the flaws of the
  kinds of records;
* `Registry.gather_escapes_iff`: the flaws of a collection;
* `Registry.read_or_reported_iff`: the flaws of content.
-/

namespace Fabula
variable {α β : Type} {failure : Failure}

/-! ## Records that list other records -/

theorem escapes_list_then_iff {read : Value → Except Failure α} {Flaw : Value → Failure → Prop}
    (each : ∀ item failure, Escapes Failure.IsReported failure (read item) ↔ Flaw item failure)
    {data : Value} {next : List α → Except Failure β} {Rest : Prop}
    (second : ∀ list, Escapes Failure.IsReported failure (next list) ↔ Rest) :
    Escapes Failure.IsReported failure (do
      let items ← data.items
      let list ← items.mapM read
      next list) ↔
        ListFlaw data.items read Flaw failure ∨
          (∃ list, (do (← data.items).mapM read) = .ok list) ∧ Rest := by
  rw [← bind_assoc, escapes_then_iff second]
  have list := escapes_listOf_iff (items_escapes_iff data) fun item => each item failure
  rw [list]

theorem escapes_list_iff {read : Value → Except Failure α} {Flaw : Value → Failure → Prop}
    (each : ∀ item failure, Escapes Failure.IsReported failure (read item) ↔ Flaw item failure)
    {data : Value} {next : List α → Except Failure β}
    (later : ∀ list, ¬ Escapes Failure.IsReported failure (next list)) :
    Escapes Failure.IsReported failure (do
      let items ← data.items
      let list ← items.mapM read
      next list) ↔ ListFlaw data.items read Flaw failure := by
  refine (escapes_list_then_iff each fun list => iff_false_intro (later list)).trans ?_
  rw [and_false, or_false]

inductive FrontFlaw (name : String) (read : Value → Except Failure α)
    (Front : Value → Failure → Prop) (Rest : Table Value → Failure → Prop) :
    Value → Failure → Prop
  | formless {data : Value} (noRecord : ¬ data.IsRecord) :
      FrontFlaw name read Front Rest data .noParts
  | front {fields : List (Key × Value)} {failure : Failure}
      (flaw : ListFlaw ((Table.mk fields).getD name (.list [])).items read Front failure) :
      FrontFlaw name read Front Rest (.record fields) failure
  | rest {fields : List (Key × Value)} {failure : Failure}
      (reads : ∃ list, (do (← ((Table.mk fields).getD name (.list [])).items).mapM read) = .ok list)
      (flaw : RecordFlaw Rest (.record fields) failure) :
      FrontFlaw name read Front Rest (.record fields) failure

theorem front_escapes_iff {name kind : String} {read : Value → Except Failure α}
    {Front : Value → Failure → Prop} {Rest : Table Value → Failure → Prop}
    (each : ∀ item failure, Escapes Failure.IsReported failure (read item) ↔ Front item failure)
    {next : Table Value → List α → Value → Except Failure β}
    (later : ∀ fields list id, Escapes Failure.IsReported failure (next fields list id) ↔
      Rest fields failure) (data : Value) :
    Escapes Failure.IsReported failure (do
      let fields ← data.fields
      let items ← (fields.getD name (.list [])).items
      let list ← items.mapM read
      let id ← data.required kind "id"
      next fields list id) ↔ FrontFlaw name read Front Rest data failure := by
  cases data with
  | record entries =>
    have inside : Escapes Failure.IsReported failure (do
        let items ← ((Table.mk entries).getD name (.list [])).items
        let list ← items.mapM read
        let id ← (Value.record entries).required kind "id"
        next ⟨entries⟩ list id) ↔
          ListFlaw ((Table.mk entries).getD name (.list [])).items read Front failure ∨
            (∃ list, (do (← ((Table.mk entries).getD name (.list [])).items).mapM read) =
              .ok list) ∧ RecordFlaw Rest (.record entries) failure :=
      escapes_list_then_iff each fun list => record_escapes_iff fun _ id same => by
        cases same
        exact later _ list id
    refine inside.trans ⟨?_, ?_⟩
    · rintro (flaw | ⟨reads, flaw⟩)
      · exact .front flaw
      · exact .rest reads flaw
    · intro flaw
      cases flaw with
      | formless noRecord => exact absurd trivial noRecord
      | front flaw => exact .inl flaw
      | rest reads flaw => exact .inr ⟨reads, flaw⟩
  | _ => exact escapes_error_iff id (.formless id) fun _ flaw => by cases flaw; rfl

/-! ## The world -/

abbrev noFlaw : Table Value → Failure → Prop :=
  fun _ _ => False

abbrev Location.Flaw : Value → Failure → Prop :=
  RecordFlaw noFlaw

abbrev Marker.Flaw : Value → Failure → Prop :=
  RecordFlaw noFlaw

abbrev statsFlaw (fields : Table Value) (failure : Failure) : Prop :=
  (fields.getD "stats" (.record [])).table = .error failure

abbrev Character.Flaw : Value → Failure → Prop :=
  RecordFlaw statsFlaw

abbrev Item.Flaw : Value → Failure → Prop :=
  RecordFlaw statsFlaw

abbrev TravelMap.Flaw : Value → Failure → Prop :=
  RecordFlaw fun fields failure =>
    ListFlaw (fields.getD "locations" (.list [])).items Marker.ofRecord Marker.Flaw failure

theorem named_escapes_iff {kind : String} {Rest : Table Value → Failure → Prop}
    {next : Value → Table Value → Except Failure α}
    (each : ∀ id fields, Escapes Failure.IsReported failure (next id fields) ↔ Rest fields failure)
    (data : Value) : Escapes Failure.IsReported failure (do
      let id ← data.required kind "id"
      let fields ← data.fields
      next id fields) ↔ RecordFlaw Rest data failure :=
  record_escapes_iff fun fields id same => by
    cases same
    exact each id ⟨fields⟩

theorem Location.ofRecord_escapes_iff (data : Value) (failure : Failure) :
    Escapes Failure.IsReported failure (ofRecord data) ↔ Flaw data failure :=
  named_escapes_iff (fun _ _ => by simp) data

theorem Marker.ofRecord_escapes_iff (data : Value) (failure : Failure) :
    Escapes Failure.IsReported failure (ofRecord data) ↔ Flaw data failure :=
  named_escapes_iff (fun _ _ => by simp) data

theorem Character.ofRecord_escapes_iff (data : Value) (failure : Failure) :
    Escapes Failure.IsReported failure (ofRecord data) ↔ Flaw data failure :=
  named_escapes_iff (fun _ _ => by simp [table_escapes_iff]) data

theorem Item.ofRecord_escapes_iff (data : Value) (failure : Failure) :
    Escapes Failure.IsReported failure (ofRecord data) ↔ Flaw data failure :=
  named_escapes_iff (fun _ _ => by simp [table_escapes_iff]) data

theorem TravelMap.ofRecord_escapes_iff (data : Value) (failure : Failure) :
    Escapes Failure.IsReported failure (ofRecord data) ↔ Flaw data failure := by
  refine named_escapes_iff (fun _ _ => ?_) data
  exact escapes_list_iff Marker.ofRecord_escapes_iff fun _ => escapes_pure _

/-! ## The story -/

abbrev QuestStage.Flaw : Value → Failure → Prop :=
  RecordFlaw noFlaw

abbrev Quest.Flaw : Value → Failure → Prop :=
  RecordFlaw fun fields failure =>
    ListFlaw (fields.getD "stages" (.list [])).items QuestStage.ofRecord QuestStage.Flaw failure

abbrev JournalEntry.Flaw : Value → Failure → Prop :=
  RecordFlaw noFlaw

abbrev rulesFlaw (conditions effects : Value) (failure : Failure) : Prop :=
  Condition.ListFlaw conditions failure ∨
    (∃ read, Condition.listOfAuthored conditions = .ok read) ∧ Effect.ListFlaw effects failure

abbrev Interlude.Flaw : Value → Failure → Prop :=
  RecordFlaw fun fields failure =>
    (fields.getD "sounds" (.list [])).items = .error failure ∨
      (∃ sounds, (fields.getD "sounds" (.list [])).items = .ok sounds) ∧
        rulesFlaw (fields.getOrNull "trigger_conditions") (fields.getOrNull "effects") failure

theorem rules_then_escapes_iff {conditions effects : Value}
    {next : List Condition → List Effect → Except Failure α}
    (later : ∀ conditions effects, ¬ Escapes Failure.IsReported failure (next conditions effects)) :
    Escapes Failure.IsReported failure (do
      let conditions ← Condition.listOfAuthored conditions
      let effects ← Effect.listOfAuthored effects
      next conditions effects) ↔ rulesFlaw conditions effects failure := by
  simp [Condition.listOfAuthored_escapes_iff, Effect.listOfAuthored_escapes_iff, later]

theorem QuestStage.ofRecord_escapes_iff (data : Value) (failure : Failure) :
    Escapes Failure.IsReported failure (ofRecord data) ↔ Flaw data failure :=
  named_escapes_iff (fun _ _ => by simp) data

theorem Quest.ofRecord_escapes_iff (data : Value) (failure : Failure) :
    Escapes Failure.IsReported failure (ofRecord data) ↔ Flaw data failure := by
  refine named_escapes_iff (fun _ _ => ?_) data
  exact escapes_list_iff QuestStage.ofRecord_escapes_iff fun _ => escapes_pure _

theorem JournalEntry.ofRecord_escapes_iff (data : Value) (failure : Failure) :
    Escapes Failure.IsReported failure (ofRecord data) ↔ Flaw data failure :=
  named_escapes_iff (fun _ _ => by simp) data

theorem Interlude.ofRecord_escapes_iff (data : Value) (failure : Failure) :
    Escapes Failure.IsReported failure (ofRecord data) ↔ Flaw data failure := by
  refine named_escapes_iff (fun _ _ => ?_) data
  refine (escapes_then_iff fun _ => rules_then_escapes_iff fun _ _ => escapes_pure _).trans ?_
  rw [items_escapes_iff]

/-! ## Dialogues -/

abbrev Choice.Flaw : Value → Failure → Prop :=
  RecordFlaw fun fields failure =>
    rulesFlaw (fields.getOrNull "conditions") (fields.getOrNull "effects") failure

inductive Branch.Flaw : Value → Failure → Prop
  | formless {data : Value} (noRecord : ¬ data.IsRecord) : Flaw data .wrongKind
  | unconditional {fields : List (Key × Value)}
      (absent : (Table.mk fields).find? "condition" = none) :
      Flaw (.record fields) (.missingKey "condition")
  | condition {fields : List (Key × Value)} {condition : Value} {failure : Failure}
      (given : (Table.mk fields).find? "condition" = some condition)
      (flaw : Condition.Flaw condition failure) : Flaw (.record fields) failure
  | aimless {fields : List (Key × Value)} {condition : Value}
      (given : (Table.mk fields).find? "condition" = some condition)
      (reads : ∃ read, Condition.ofAuthored condition = .ok read)
      (absent : (Table.mk fields).find? "next" = none) :
      Flaw (.record fields) (.missingKey "next")

abbrev Node.Flaw : Value → Failure → Prop :=
  FrontFlaw "conditional_next" Branch.ofRecord Branch.Flaw fun fields failure =>
    ListFlaw (fields.getD "choices" (.list [])).items Choice.ofRecord Choice.Flaw failure ∨
      (∃ choices, (do (← (fields.getD "choices" (.list [])).items).mapM Choice.ofRecord) =
        .ok choices) ∧ Effect.ListFlaw (fields.getOrNull "effects") failure

abbrev Dialogue.Flaw : Value → Failure → Prop :=
  FrontFlaw "nodes" Node.ofRecord Node.Flaw fun fields failure =>
    Condition.ListFlaw (fields.getOrNull "conditions") failure

theorem member_escapes_iff {fields : List (Key × Value)} {name : String} :
    Escapes Failure.IsReported failure ((Value.record fields).member name) ↔
      failure = .missingKey name ∧ (Table.mk fields).find? name = none := by
  cases found : (Table.mk fields).find? name <;>
    simp [Value.member, found, Failure.IsReported]

theorem member_eq_ok_iff {fields : List (Key × Value)} {name : String} {value : Value} :
    (Value.record fields).member name = .ok value ↔
      (Table.mk fields).find? name = some value := by
  cases found : (Table.mk fields).find? name <;> simp [Value.member, found]

theorem Choice.ofRecord_escapes_iff (data : Value) (failure : Failure) :
    Escapes Failure.IsReported failure (ofRecord data) ↔ Flaw data failure := by
  refine named_escapes_iff (fun _ _ => ?_) data
  exact rules_then_escapes_iff fun _ _ => escapes_pure _

theorem Branch.ofRecord_escapes_iff (data : Value) (failure : Failure) :
    Escapes Failure.IsReported failure (ofRecord data) ↔ Flaw data failure := by
  cases data with
  | record fields =>
    simp only [ofRecord, escapes_bind, member_escapes_iff, member_eq_ok_iff, escapes_pure,
      Condition.ofAuthored_escapes_iff, and_false, exists_false, or_false]
    constructor
    · rintro (⟨rfl, absent⟩ | ⟨condition, given, flaw | ⟨read, reads, rfl, absent⟩⟩)
      · exact .unconditional absent
      · exact .condition given flaw
      · exact .aimless given ⟨read, reads⟩ absent
    · intro flaw
      cases flaw with
      | formless noRecord => exact absurd trivial noRecord
      | unconditional absent => exact .inl ⟨rfl, absent⟩
      | condition given flaw => exact .inr ⟨_, given, .inl flaw⟩
      | aimless given reads absent =>
        obtain ⟨read, reads⟩ := reads
        exact .inr ⟨_, given, .inr ⟨read, reads, rfl, absent⟩⟩
  | _ => exact escapes_error_iff id (.formless id) fun _ flaw => by cases flaw; rfl

theorem Node.ofRecord_escapes_iff (data : Value) (failure : Failure) :
    Escapes Failure.IsReported failure (ofRecord data) ↔ Flaw data failure := by
  refine front_escapes_iff Branch.ofRecord_escapes_iff (fun _ _ _ => ?_) data
  refine escapes_list_then_iff Choice.ofRecord_escapes_iff fun _ => ?_
  simp [Effect.listOfAuthored_escapes_iff]

theorem Dialogue.ofRecord_escapes_iff (data : Value) (failure : Failure) :
    Escapes Failure.IsReported failure (ofRecord data) ↔ Flaw data failure := by
  refine front_escapes_iff Node.ofRecord_escapes_iff (fun _ _ _ => ?_) data
  simp [Condition.listOfAuthored_escapes_iff]

theorem compile_escapes_iff (key : Value) (source : String) :
    Escapes Failure.IsReported failure (Script.compile key source) ↔
      ∃ count, failure = .overlong count ∧
        Script.Overlong count (Script.tokenize source.toList) := by
  constructor
  · rintro ⟨fails, escapes⟩
    obtain ⟨token, _, ⟨fault, rfl⟩ | ⟨count, rfl⟩⟩ | ⟨fault, rfl⟩ :=
      Script.readTokens_reported _ _ failure fails
    · exact absurd trivial escapes
    · exact ⟨count, rfl, (Script.readTokens_eq_overlong_iff _ _).mp fails⟩
    · exact absurd trivial escapes
  · rintro ⟨count, rfl, long⟩
    exact ⟨(Script.readTokens_eq_overlong_iff _ _).mpr long, id⟩

namespace Registry

inductive DialogueFlaw : Option Key → Value → Failure → Prop
  | source {key : Key} {source : String} {count : Nat}
      (long : Script.Overlong count (Script.tokenize source.toList)) :
      DialogueFlaw (some key) (.text source) (.overlong count)
  | record {key : Key} {fields : List (Key × Value)} {failure : Failure}
      (flaw : Dialogue.Flaw (identified (some key) (.record fields)) failure) :
      DialogueFlaw (some key) (.record fields) failure
  | listed {key : Key} {items : List Value} (listed : Value.memberOf (.text "id") items) :
      DialogueFlaw (some key) (.list items) .noParts
  | unlisted {key : Key} {items : List Value} (unlisted : ¬ Value.memberOf (.text "id") items) :
      DialogueFlaw (some key) (.list items) .wrongKind
  | scalar {key : Key} {data : Value} (scalar : data.key?.isSome) (noText : data.text? = none) :
      DialogueFlaw (some key) data .wrongKind
  | nameless {data : Value} {failure : Failure} (noText : data.text? = none)
      (flaw : Dialogue.Flaw data failure) : DialogueFlaw none data failure

theorem readDialogue_escapes_iff (key : Option Key) (data : Value) (failure : Failure) :
    Escapes Failure.IsReported failure (readDialogue key data) ↔
      DialogueFlaw key data failure := by
  cases key with
  | none =>
    have record (noText : data.text? = none) :
        Escapes Failure.IsReported failure (Dialogue.ofRecord data) ↔
          DialogueFlaw none data failure := by
      rw [Dialogue.ofRecord_escapes_iff]
      constructor
      · exact .nameless noText
      · intro flaw
        cases flaw with
        | nameless _ flaw => exact flaw
    cases data with
    | text s =>
      refine iff_of_false (fun escapes => escapes.2 ?_) fun flaw => ?_
      · obtain ⟨⟨⟩, _⟩ := escapes
        trivial
      · cases flaw with
        | nameless noText _ => cases noText
    | _ => exact record rfl
  | some key =>
    cases data with
    | text source =>
      refine (compile_escapes_iff _ _).trans ⟨?_, ?_⟩
      · rintro ⟨count, rfl, long⟩
        exact .source long
      · intro flaw
        cases flaw with
        | source long => exact ⟨_, rfl, long⟩
        | scalar _ noText => cases noText
    | record fields =>
      refine (Dialogue.ofRecord_escapes_iff _ _).trans ⟨.record, ?_⟩
      intro flaw
      cases flaw with
      | record flaw => exact flaw
      | scalar scalar _ => cases scalar
    | list items =>
      rw [readDialogue]
      by_cases listed : Value.memberOf (.text "id") items
      · rw [if_pos listed]
        refine escapes_error_iff id (.listed listed) fun _ flaw => ?_
        cases flaw with
        | listed _ => rfl
        | unlisted unlisted => exact absurd listed unlisted
        | scalar scalar _ => cases scalar
      · rw [if_neg listed]
        refine escapes_error_iff id (.unlisted listed) fun _ flaw => ?_
        cases flaw with
        | listed other => exact absurd other listed
        | unlisted _ => rfl
        | scalar scalar _ => cases scalar
    | _ => exact escapes_error_iff id (.scalar rfl rfl) fun _ flaw => by cases flaw; rfl

/-! ## Collections -/

def readKeyed (id : α → Value) (read : Option Key → Value → Except Failure α)
    (entry : Option Key × Value) : Except Failure (Key × α) := do
  let entity ← read entry.1 entry.2
  return (← (id entity).key, entity)

theorem foldlM_store_eq (id : α → Value) (read : Option Key → Value → Except Failure α)
    (entries : List (Option Key × Value)) (table : Table α) :
    entries.foldlM (fun table (key, entry) => do store id table (← read key entry)) table = do
      let stored ← entries.mapM (readKeyed id read)
      return stored.foldl (fun table (key, entity) => table.insert key entity) table := by
  -- What is stored depends on the table that is there, but whether it can be stored does not.
  induction entries generalizing table with
  | nil => rfl
  | cons entry rest ih =>
    simp only [List.foldlM_cons, ih, List.mapM_cons]
    simp only [readKeyed, store, bind_assoc, pure_bind, List.foldl_cons]

/-- The flaws of an entry: those that it is read with, and an id that nothing can be stored
under. -/
def EntryFlaw (id : α → Value) (read : Option Key → Value → Except Failure α)
    (Flaw : Option Key → Value → Failure → Prop) (entry : Option Key × Value) (failure : Failure) :
    Prop :=
  Flaw entry.1 entry.2 failure ∨
    ∃ entity, read entry.1 entry.2 = .ok entity ∧ (id entity).key = .error failure

abbrev CollectionFlaw (id : α → Value) (read : Option Key → Value → Except Failure α)
    (Flaw : Option Key → Value → Failure → Prop) (data : Table Value) (name : String) :
    Failure → Prop :=
  ListFlaw (entries data name) (readKeyed id read) (EntryFlaw id read Flaw)

theorem entries_escapes_iff (data : Table Value) (name : String) :
    Escapes Failure.IsReported failure (entries data name) ↔
      entries data name = .error failure := by
  refine escapes_of_failsOnly ?_ ofValue_not_isReported
  unfold entries
  dsimp only
  split <;> simp

theorem key_escapes_iff (data : Value) :
    Escapes Failure.IsReported failure data.key ↔ data.key = .error failure :=
  escapes_of_failsOnly (key_failsOnly data) ofValue_not_isReported

theorem gather_escapes_iff {id : α → Value} {read : Option Key → Value → Except Failure α}
    {Flaw : Option Key → Value → Failure → Prop}
    (each : ∀ key entry failure,
      Escapes Failure.IsReported failure (read key entry) ↔ Flaw key entry failure)
    {data : Table Value} {name : String} :
    Escapes Failure.IsReported failure (do
      (← entries data name).foldlM
        (fun table (key, entry) => do store id table (← read key entry)) ∅) ↔
          CollectionFlaw id read Flaw data name failure := by
  have entry (entry : Option Key × Value) : Escapes Failure.IsReported failure
      (readKeyed id read entry) ↔ EntryFlaw id read Flaw entry failure := by
    simp [readKeyed, EntryFlaw, each, key_escapes_iff]
  simp only [foldlM_store_eq, ← bind_assoc, escapes_bind _ (fun _ => pure _), escapes_pure,
    and_false, exists_false, or_false]
  exact escapes_listOf_iff (entries_escapes_iff data name) entry

abbrev RecordsFlaw (id : α → Value) (read : Value → Except Failure α)
    (Flaw : Value → Failure → Prop) : Table Value → String → Failure → Prop :=
  CollectionFlaw id (fun key entry => read (identified key entry))
    fun key entry => Flaw (identified key entry)

theorem collect_escapes_iff {id : α → Value} {read : Value → Except Failure α}
    {Flaw : Value → Failure → Prop}
    (each : ∀ data failure, Escapes Failure.IsReported failure (read data) ↔ Flaw data failure)
    {data : Table Value} {name : String} :
    Escapes Failure.IsReported failure (collect id read data name) ↔
      RecordsFlaw id read Flaw data name failure :=
  gather_escapes_iff fun _ _ => each _

inductive LocalesFlaw : Value → Failure → Prop
  | formless {data : Value} (noRecord : ¬ data.IsRecord) : LocalesFlaw data .noParts
  | locale {before after : List (Key × Value)} {key : Key} {locale : Value} {failure : Failure}
      (earlier : ∀ other ∈ before, ∃ table, other.2.table = .ok table)
      (fails : locale.table = .error failure) :
      LocalesFlaw (.record (before ++ (key, locale) :: after)) failure

theorem locales_escapes_iff (data : Value) :
    Escapes Failure.IsReported failure (do (← data.fields).mapM Value.table) ↔
      LocalesFlaw data failure := by
  have fails : FailsOnly Failure.OfValue (do (← data.fields).mapM Value.table) := by
    simp [Table.mapM, failsOnly_mapM, table_failsOnly]
  rw [escapes_of_failsOnly fails ofValue_not_isReported]
  cases data with
  | record fields =>
    refine tableMapM_eq_error_iff.trans ⟨?_, ?_⟩
    · rintro ⟨before, key, locale, after, rfl, earlier, fails⟩
      exact .locale earlier fails
    · intro flaw
      cases flaw with
      | formless noRecord => exact absurd trivial noRecord
      | locale earlier fails => exact ⟨_, _, _, _, rfl, earlier, fails⟩
  | _ =>
    constructor
    · rintro ⟨⟩
      exact .formless id
    · intro flaw
      cases flaw
      rfl

/-! ## Content -/

inductive Collection
  | dialogues | locations | characters | items | maps | quests | journal | interludes | locales

namespace Collection

def order : List Collection :=
  [dialogues, locations, characters, items, maps, quests, journal, interludes, locales]

def Flaw (data : Table Value) : Collection → Failure → Prop
  | dialogues => CollectionFlaw Dialogue.id readDialogue DialogueFlaw data "dialogues"
  | locations => RecordsFlaw Location.id Location.ofRecord Location.Flaw data "locations"
  | characters => RecordsFlaw Character.id Character.ofRecord Character.Flaw data "characters"
  | items => RecordsFlaw Item.id Item.ofRecord Item.Flaw data "items"
  | maps => RecordsFlaw TravelMap.id TravelMap.ofRecord TravelMap.Flaw data "maps"
  | quests => RecordsFlaw Quest.id Quest.ofRecord Quest.Flaw data "quests"
  | journal => RecordsFlaw JournalEntry.id JournalEntry.ofRecord JournalEntry.Flaw data
      "journal_entries"
  | interludes => RecordsFlaw Interlude.id Interlude.ofRecord Interlude.Flaw data "interludes"
  | locales => LocalesFlaw ((data.getOrNull "locales").orElse (.record []))

def check (data : Table Value) : Collection → Except Failure Unit
  | dialogues => discard do
      (← entries data "dialogues").foldlM
        (fun table (key, entry) => do store Dialogue.id table (← readDialogue key entry)) ∅
  | locations => discard (collect Location.id Location.ofRecord data "locations")
  | characters => discard (collect Character.id Character.ofRecord data "characters")
  | items => discard (collect Item.id Item.ofRecord data "items")
  | maps => discard (collect TravelMap.id TravelMap.ofRecord data "maps")
  | quests => discard (collect Quest.id Quest.ofRecord data "quests")
  | journal => discard (collect JournalEntry.id JournalEntry.ofRecord data "journal_entries")
  | interludes => discard (collect Interlude.id Interlude.ofRecord data "interludes")
  | locales => discard do
      (← ((data.getOrNull "locales").orElse (.record [])).fields).mapM Value.table

theorem check_escapes_iff (data : Table Value) (collection : Collection) :
    Escapes Failure.IsReported failure (collection.check data) ↔
      collection.Flaw data failure := by
  cases collection with
  | dialogues => exact (escapes_map _ _).trans (gather_escapes_iff readDialogue_escapes_iff)
  | locations => exact (escapes_map _ _).trans (collect_escapes_iff Location.ofRecord_escapes_iff)
  | characters => exact (escapes_map _ _).trans (collect_escapes_iff Character.ofRecord_escapes_iff)
  | items => exact (escapes_map _ _).trans (collect_escapes_iff Item.ofRecord_escapes_iff)
  | maps => exact (escapes_map _ _).trans (collect_escapes_iff TravelMap.ofRecord_escapes_iff)
  | quests => exact (escapes_map _ _).trans (collect_escapes_iff Quest.ofRecord_escapes_iff)
  | journal => exact (escapes_map _ _).trans (collect_escapes_iff JournalEntry.ofRecord_escapes_iff)
  | interludes => exact (escapes_map _ _).trans (collect_escapes_iff Interlude.ofRecord_escapes_iff)
  | locales => exact (escapes_map _ _).trans (locales_escapes_iff _)

end Collection

/-- The first collection of content that cannot be read has a flaw, or there are no collections. -/
inductive Flaw : Value → Failure → Prop
  | formless {data : Value} (noRecord : ¬ data.IsRecord) : Flaw data .noParts
  | collection {fields : List (Key × Value)} {before after : List Collection}
      {collection : Collection} {failure : Failure}
      (place : Collection.order = before ++ collection :: after)
      (earlier : ∀ other ∈ before, ∃ read, other.check ⟨fields⟩ = .ok read)
      (flaw : collection.Flaw ⟨fields⟩ failure) : Flaw (.record fields) failure

theorem discard_eq_error_iff {result : Except Failure α} :
    discard result = .error failure ↔ result = .error failure := by
  cases result <;> simp [discard, Functor.mapConst, Except.map]

theorem discard_bind (first : Except Failure α) (next : α → Except Failure β) :
    discard (first >>= next) = first >>= fun a => discard (next a) := by
  cases first <;> rfl

theorem discard_then (first : Except Failure α) (next : Except Failure β) :
    (discard first >>= fun _ => next) = first >>= fun _ => next := by
  cases first <;> rfl

theorem discard_pure (a : α) : discard (pure a : Except Failure α) = pure () :=
  rfl

theorem discard_ofRecord_eq (fields : List (Key × Value)) : discard (ofRecord (.record fields)) =
    discard (Collection.order.mapM (Collection.check ⟨fields⟩)) := by
  have data : (Value.record fields).fields = pure ⟨fields⟩ := rfl
  simp only [ofRecord, data, pure_bind, Collection.order, List.mapM_cons, List.mapM_nil,
    Collection.check, discard_bind, discard_then, discard_pure, bind_assoc]

theorem ofRecord_escapes_iff (data : Value) (failure : Failure) :
    Escapes Failure.IsReported failure (ofRecord data) ↔ Flaw data failure := by
  cases data with
  | record fields =>
    rw [Escapes, ← discard_eq_error_iff, discard_ofRecord_eq, discard_eq_error_iff, ← Escapes,
      escapes_mapM_iff]
    simp only [Collection.check_escapes_iff]
    constructor
    · rintro ⟨before, collection, after, place, earlier, flaw⟩
      exact .collection place earlier flaw
    · intro flaw
      cases flaw with
      | formless noRecord => exact absurd trivial noRecord
      | collection place earlier flaw => exact ⟨_, _, _, place, earlier, flaw⟩
  | _ => exact escapes_error_iff id (.formless id) fun _ flaw => by cases flaw; rfl

/-- Content makes a registry, or is refused with a fault of the content or of a script in it, except
where it has a flaw. It fails with the flaw then. -/
theorem read_or_reported_iff (data : Value) :
    ((∃ registry, ofRecord data = .ok registry) ∨
      (∃ failure, ofRecord data = .error failure ∧ failure.IsReported) ↔
        ¬ ∃ failure, Flaw data failure) ∧
    ∀ failure, Flaw data failure ↔ ofRecord data = .error failure ∧ ¬ failure.IsReported := by
  refine ⟨?_, fun failure => (ofRecord_escapes_iff data failure).symm⟩
  simp only [← ofRecord_escapes_iff, Escapes]
  cases ofRecord data with
  | ok registry => simp
  | error failure => simp

def unconditionalContent : Value :=
  .object [("dialogues", .list [.object [("id", "d"), ("nodes", .list [.object [("id", "n"),
    ("conditional_next", .list [.object [("next", "x")]])]])]])]

/-- What is missing here is not reported as missing from the branch. -/
theorem refused_unconditional : ofRecord unconditionalContent = .error (.missingKey "condition") ∧
    ¬ ((∃ registry, ofRecord unconditionalContent = .ok registry) ∨
      ∃ failure, ofRecord unconditionalContent = .error failure ∧ failure.IsReported) := by
  have fails : ofRecord unconditionalContent = .error (.missingKey "condition") := rfl
  refine ⟨fails, ?_⟩
  rw [fails]
  rintro (⟨_, reads⟩ | ⟨_, same, reported⟩)
  · cases reads
  · cases same
    exact reported

end Registry

end Fabula
