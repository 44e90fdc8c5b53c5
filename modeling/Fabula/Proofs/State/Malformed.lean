import Fabula.Proofs.State.Record
/-!
# Malformed saves

Whatever keeps a save from being read is a fault of the save, with three exceptions: a version that
cannot be written, a named part that is asked of a value without named parts, and a numeral in a
JSON text that has too many digits. Main statements:

* `ofRecord_eq_noParts_iff`: where the reader of a state asks for a part that cannot be there;
* `refused_otherwise_iff`: which data and texts are refused for another reason than their faults.
-/

namespace Fabula
variable {α β : Type}

def Failure.IsSave : Failure → Prop
  | .save _ => True
  | _ => False

def Value.IsRecord : Value → Prop
  | .record _ => True
  | _ => False

def Failure.IsCaught (failure : Failure) : Prop :=
  (Save.faultOf failure).IsSave

abbrev Caught (result : Except Failure α) : Prop :=
  FailsOnly Failure.IsCaught result

@[simp] theorem caught_missingKey (key : Key) : (Failure.missingKey key).IsCaught :=
  trivial

@[simp] theorem caught_wrongKind : Failure.wrongKind.IsCaught :=
  trivial

@[simp] theorem caught_unsuitable (fault : ValueFault) : (Failure.unsuitable fault).IsCaught :=
  trivial

theorem not_caught_noParts : ¬ Failure.noParts.IsCaught :=
  id

theorem Caught.bind_iff {first : Except Failure α} {next : α → Except Failure β}
    (caught : Caught first) : (first >>= next) = .error .noParts ↔
      ∃ a, first = .ok a ∧ next a = .error .noParts := by
  rw [error_of_bind_iff, or_iff_right]
  exact fun fails => not_caught_noParts (caught _ fails)

theorem fields_eq_noParts_iff (value : Value) :
    value.fields = .error .noParts ↔ ¬ value.IsRecord := by
  cases value <;> simp [Value.fields, Value.IsRecord]

theorem items_caught (value : Value) : Caught value.items := by
  unfold Value.items
  split <;> simp

theorem key_caught (value : Value) : Caught value.key := by
  unfold Value.key
  split <;> simp

theorem member_caught (value : Value) (name : String) : Caught (value.member name) := by
  unfold Value.member
  split
  · split <;> simp
  · simp

theorem pair_caught (index : Nat) (value : Value) : Caught (value.pair index) := by
  refine (failsOnly_bind _ _).mpr ⟨items_caught value, fun items _ => ?_⟩
  split
  · exact (failsOnly_bind _ _).mpr ⟨key_caught _, fun _ _ => failsOnly_pure _⟩
  · simp

theorem table_caught (value : Value) : Caught value.table := by
  unfold Value.table
  split
  · exact failsOnly_ok _
  · refine (failsOnly_bind _ _).mpr ⟨items_caught value, fun items _ => ?_⟩
    refine (failsOnly_bind _ _).mpr ⟨?_, fun _ _ => failsOnly_pure _⟩
    have pairs (item : Value × Nat) : Caught (item.1.pair item.2) :=
      pair_caught item.2 item.1
    exact failsOnly_mapM pairs _

theorem bind_member_caught {value : Value} {name : String} {next : Value → Except Failure α}
    (rest : ∀ table found, value.fields = .ok table → Caught (next found)) :
    Caught (value.member name >>= next) := by
  refine (failsOnly_bind _ _).mpr ⟨member_caught value name, fun found given => ?_⟩
  cases value with
  | record fields => exact rest ⟨fields⟩ found rfl
  | _ => cases given

theorem note_caught (data : Value) : Caught (Note.ofRecord data) :=
  bind_member_caught fun table id known => by
    rw [known]
    exact failsOnly_pure _

theorem readCursor_caught (data : Value) : Caught (GameState.readCursor data) := by
  unfold GameState.readCursor
  split
  · refine (failsOnly_bind _ _).mpr ⟨?_, fun _ _ => failsOnly_pure _⟩
    exact bind_member_caught fun table id known => by
      rw [known]
      exact failsOnly_pure _
  · exact failsOnly_pure _

theorem clock_eq_noParts_iff (data : Value) :
    Clock.ofRecord data = .error .noParts ↔ ¬ data.IsRecord := by
  rw [Clock.ofRecord, error_of_bind_iff, fields_eq_noParts_iff, or_iff_left]
  rintro ⟨fields, _, fails⟩
  cases fails

theorem character_eq_noParts_iff (data : Value) :
    CharacterState.ofRecord data = .error .noParts ↔ ¬ data.IsRecord := by
  rw [CharacterState.ofRecord, error_of_bind_iff, fields_eq_noParts_iff, or_iff_left]
  rintro ⟨fields, _, fails⟩
  rw [(table_caught _).bind_iff] at fails
  obtain ⟨stats, _, fails⟩ := fails
  cases fails

namespace GameState

structure ReadsToCharacters (fields : Table Value) : Prop where
  located : (fields.find? "current_location").isSome
  timed : (fields.getD "current_time" (.record [])).IsRecord
  tables : ∀ name ∈ ["flags", "variables", "quest_progress"],
    ∃ table, (fields.getD name (.record [])).table = .ok table
  lists : ∀ name ∈ ["inventory", "unlocked_journal_entries"],
    ∃ items, (fields.getD name (.list [])).items = .ok items
  notes : ∃ items notes, (fields.getD "player_notes" (.list [])).items = .ok items ∧
    items.mapM Note.ofRecord = .ok notes
  cursor : ∃ cursor, readCursor (fields.getOrNull "dialogue_state") = .ok cursor

/-- Whether the reader of a state comes to a value without named parts, one of which it asks for. -/
inductive AsksForPart (fields : Table Value) : Prop
  | time (located : (fields.find? "current_location").isSome)
      (formless : ¬ (fields.getD "current_time" (.record [])).IsRecord)
  | characters (reads : ReadsToCharacters fields)
      (formless : ¬ (fields.getD "character_state" (.record [])).IsRecord)
  | character (reads : ReadsToCharacters fields) {before after : List (Key × Value)} {id : Key}
      {character : Value}
      (listed : fields.getD "character_state" (.record []) =
        .record (before ++ (id, character) :: after))
      (earlier : ∀ entry ∈ before, ∃ read, CharacterState.ofRecord entry.2 = .ok read)
      (formless : ¬ character.IsRecord)

end GameState

theorem clock_reads_iff (data : Value) :
    (∃ clock, Clock.ofRecord data = .ok clock) ↔ data.IsRecord := by
  cases data <;> simp [Clock.ofRecord, Value.fields, Value.IsRecord, bind, Except.bind, pure,
    Except.pure]

theorem member_reads_iff (fields : Table Value) (name : String) :
    (∃ found, (Value.record fields.entries).member name = .ok found) ↔
      (fields.find? name).isSome := by
  cases found : fields.find? name <;> simp [Value.member, found]

theorem characters_eq_noParts_iff (data : Value) :
    (data.fields >>= fun table => table.mapM CharacterState.ofRecord) = .error .noParts ↔
      ¬ data.IsRecord ∨ ∃ before id character after,
        data = .record (before ++ (id, character) :: after) ∧
          (∀ entry ∈ before, ∃ read, CharacterState.ofRecord entry.2 = .ok read) ∧
            ¬ character.IsRecord := by
  rw [error_of_bind_iff, fields_eq_noParts_iff]
  refine or_congr_right ?_
  simp only [tableMapM_eq_error_iff, character_eq_noParts_iff]
  constructor
  · rintro ⟨table, fields, before, id, character, after, listed, earlier, formless⟩
    cases data with
    | record entries =>
      cases fields
      exact ⟨before, id, character, after, congrArg Value.record listed, earlier, formless⟩
    | _ => cases fields
  · rintro ⟨before, id, character, after, rfl, earlier, formless⟩
    exact ⟨_, rfl, before, id, character, after, rfl, earlier, formless⟩

theorem GameState.asksForPart_iff (fields : Table Value) : AsksForPart fields ↔
    (fields.find? "current_location").isSome ∧
        ¬ (fields.getD "current_time" (.record [])).IsRecord ∨
      ReadsToCharacters fields ∧
        ((fields.getD "character_state" (.record [])).fields >>= fun table =>
          table.mapM CharacterState.ofRecord) = .error .noParts := by
  rw [characters_eq_noParts_iff]
  constructor
  · rintro (⟨located, formless⟩ | ⟨reads, formless⟩ | ⟨reads, listed, earlier, formless⟩)
    · exact .inl ⟨located, formless⟩
    · exact .inr ⟨reads, .inl formless⟩
    · exact .inr ⟨reads, .inr ⟨_, _, _, _, listed, earlier, formless⟩⟩
  · rintro (⟨located, formless⟩ | ⟨reads, formless | ⟨_, _, _, _, listed, earlier, formless⟩⟩)
    · exact .time located formless
    · exact .characters reads formless
    · exact .character reads listed earlier formless

theorem ofRecord_eq_noParts_iff (fields : Table Value) :
    GameState.ofRecord (.record fields.entries) = .error .noParts ↔
      GameState.AsksForPart fields := by
  have known : (Value.record fields.entries).fields = .ok fields := rfl
  have okay {β : Type} (next : Table Value → Except Failure β) :
      (Except.ok fields >>= next) = next fields := rfl
  have notes (items : List Value) : Caught (items.mapM Note.ofRecord) :=
    failsOnly_mapM note_caught items
  have clock {β : Type} (data : Value) (next : Clock → Except Failure β) :
      (Clock.ofRecord data >>= next) = .error .noParts ↔
        ¬ data.IsRecord ∨ ∃ time, Clock.ofRecord data = .ok time ∧ next time = .error .noParts := by
    rw [error_of_bind_iff, clock_eq_noParts_iff]
  have characters {β : Type} (data : Value) {next : Table CharacterState → Except Failure β}
      (late : ∀ table, Caught (next table)) :
      (data.fields >>= fun table => table.mapM CharacterState.ofRecord >>= next) =
        .error .noParts ↔
      (data.fields >>= fun table => table.mapM CharacterState.ofRecord) = .error .noParts := by
    rw [← bind_assoc, error_of_bind_iff, or_iff_left]
    rintro ⟨table, _, fails⟩
    exact not_caught_noParts (late table _ fails)
  simp only [GameState.ofRecord, known, okay, clock, (member_caught _ _).bind_iff,
    (table_caught _).bind_iff, (items_caught _).bind_iff, (notes _).bind_iff,
    (readCursor_caught _).bind_iff]
  have late (location : Value) (time : Clock) (flags bindings : Table Value)
      (inventory : List Value) (quests : Table Value) (journal : List Value) (notes : List Note)
      (cursor : Option Cursor) (characters : Table CharacterState) : Caught (do
        return ({
          location, time, flags, bindings, inventory, quests, journal, notes, cursor, characters
          itemLocations := ← (fields.getD "item_locations" (.record [])).table
          mapEnabled := fields.getD "map_enabled" (.bool true)
          notifications := ← (fields.getD "notifications" (.list [])).items
          sounds := ← (fields.getD "pending_sounds" (.list [])).items
          video := fields.getOrNull "pending_video"
          interlude := fields.getOrNull "pending_interlude"
          locale := fields.getD "current_locale" "en" } : GameState)) :=
    (failsOnly_bind _ _).mpr ⟨table_caught _, fun _ _ =>
      (failsOnly_bind _ _).mpr ⟨items_caught _, fun _ _ =>
        (failsOnly_bind _ _).mpr ⟨items_caught _, fun _ _ => failsOnly_pure _⟩⟩⟩
  rw [GameState.asksForPart_iff]
  constructor
  · rintro ⟨location, located, formless | ⟨time, timed, flags, hasFlags, bindings, hasBindings,
      inventory, hasInventory, quests, hasQuests, journal, hasJournal, items, hasItems, written,
      hasNotes, cursor, hasCursor, fails⟩⟩
    · exact .inl ⟨(member_reads_iff _ _).mp ⟨_, located⟩, formless⟩
    · refine .inr
        ⟨⟨(member_reads_iff _ _).mp ⟨_, located⟩, (clock_reads_iff _).mp ⟨_, timed⟩, ?_, ?_,
        ⟨_, _, hasItems, hasNotes⟩, ⟨_, hasCursor⟩⟩, ?_⟩
      · simp [hasFlags, hasBindings, hasQuests]
      · simp [hasInventory, hasJournal]
      · rwa [characters _
          (late location time flags bindings inventory quests journal written cursor)]
          at fails
  · rintro (⟨located, formless⟩ | ⟨reads, fails⟩)
    · obtain ⟨location, located⟩ := (member_reads_iff _ _).mpr located
      exact ⟨location, located, .inl formless⟩
    · obtain ⟨location, located⟩ := (member_reads_iff _ _).mpr reads.located
      obtain ⟨time, timed⟩ := (clock_reads_iff _).mpr reads.timed
      obtain ⟨flags, hasFlags⟩ := reads.tables "flags" (by simp)
      obtain ⟨bindings, hasBindings⟩ := reads.tables "variables" (by simp)
      obtain ⟨inventory, hasInventory⟩ := reads.lists "inventory" (by simp)
      obtain ⟨quests, hasQuests⟩ := reads.tables "quest_progress" (by simp)
      obtain ⟨journal, hasJournal⟩ := reads.lists "unlocked_journal_entries" (by simp)
      obtain ⟨items, written, hasItems, hasNotes⟩ := reads.notes
      obtain ⟨cursor, hasCursor⟩ := reads.cursor
      refine ⟨location, located,
        .inr ⟨time, timed, flags, hasFlags, bindings, hasBindings, inventory, hasInventory, quests,
          hasQuests, journal, hasJournal, items, hasItems, written, hasNotes, cursor, hasCursor,
          ?_⟩⟩
      rwa [characters _ (late location time flags bindings inventory quests journal written cursor)]

/-- Whether data is refused as something else than a save with faults: its version cannot be
written, or else its state asks for a part that cannot be there. -/
def Save.Escapes (data : Value) : Prop :=
  ∃ fields state, data = .record fields ∧ (Table.mk fields).getOrNull "state" = .record state ∧
    (((Table.mk fields).getD "version" "").isWritable → GameState.AsksForPart ⟨state⟩)

theorem state_fails (data : Value) :
    FailsOnly (fun failure => failure = .noParts ∨ failure.IsCaught)
    (GameState.ofRecord data) := by
  have caught {α : Type} {result : Except Failure α} (fails : Caught result) :
      FailsOnly (fun failure => failure = .noParts ∨ failure.IsCaught) result :=
    fails.imp fun _ => .inr
  have fields (value : Value) : FailsOnly (fun failure => failure = .noParts ∨ failure.IsCaught)
      value.fields := by
    unfold Value.fields
    split <;> simp
  have character (value : Value) : FailsOnly (fun failure => failure = .noParts ∨ failure.IsCaught)
      (CharacterState.ofRecord value) := by
    simp [CharacterState.ofRecord, fields, caught (table_caught _)]
  simp [GameState.ofRecord, Clock.ofRecord, fields, caught (table_caught _),
    caught (items_caught _), caught (member_caught _ _), caught (readCursor_caught _),
    failsOnly_mapM (fun note => caught (note_caught note)), tableMapM_failsOnly character]

theorem ofRecord_of_state {now : String} {fields state : List (Key × Value)}
    (place : (Table.mk fields).getOrNull "state" = .record state) :
    Save.ofRecord now (.record fields) = (do
      let version ← ((Table.mk fields).getD "version" "").write
      return {
        version
        state := ← (GameState.ofRecord (.record state)).mapError Save.faultOf
        timestamp := ((Table.mk fields).getOrNull "timestamp").orElse now }) := by
  simp only [Save.ofRecord, place]

theorem mapError_ok {α : Type} (change : Failure → Failure) (a : α) :
    (Except.ok a : Except Failure α).mapError change = .ok a := rfl

theorem mapError_error {α : Type} (change : Failure → Failure) (failure : Failure) :
    (Except.error failure : Except Failure α).mapError change = .error (change failure) := rfl

theorem caught_of_state {now : String} {fields state : List (Key × Value)}
    (place : (Table.mk fields).getOrNull "state" = .record state)
    (writable : ((Table.mk fields).getD "version" "").isWritable) :
    (∃ failure, Save.ofRecord now (.record fields) = .error failure ∧ ¬ failure.IsSave) ↔
      GameState.ofRecord (.record state) = .error .noParts := by
  have written : ((Table.mk fields).getD "version" "").write =
      .ok ((Table.mk fields).getD "version" "").display := by
    simp [Value.write, Value.writable, writable, Functor.map, Except.map]
  rw [ofRecord_of_state place, written]
  cases read : GameState.ofRecord (.record state) with
  | ok restored => simp [mapError_ok, bind, Except.bind, pure, Except.pure]
  | error failure =>
    obtain rfl | caught := state_fails (.record state) failure read
    · simp [mapError_error, bind, Except.bind, Save.faultOf, Failure.IsSave]
    · have other : failure ≠ .noParts := fun same => not_caught_noParts (same ▸ caught)
      have reported : (Save.faultOf failure).IsSave := caught
      simp [mapError_error, bind, Except.bind, reported, other]

theorem save_refused_otherwise_iff (now : String) (data : Value) :
    (∃ failure, Save.ofRecord now data = .error failure ∧ ¬ failure.IsSave) ↔
      Save.Escapes data := by
  have refused (fault : SaveFault) : ¬ ∃ failure,
      (throw (.save fault) : Except Failure Save) = .error failure ∧ ¬ failure.IsSave := by
    rintro ⟨failure, fails, other⟩
    cases fails
    exact other trivial
  cases data with
  | record fields =>
    cases place : (Table.mk fields).getOrNull "state" with
    | record state =>
      have escapes : Save.Escapes (.record fields) ↔
          (((Table.mk fields).getD "version" "").isWritable → GameState.AsksForPart ⟨state⟩) := by
        simp [Save.Escapes, place]
      rw [escapes, ← ofRecord_eq_noParts_iff]
      by_cases writable : ((Table.mk fields).getD "version" "").isWritable
      · rw [caught_of_state place writable]
        simp [writable]
      · have unwritten : ((Table.mk fields).getD "version" "").write =
            .error (.unsuitable .unwritable) := by
          simp [Value.write, Value.writable, writable, Functor.map, Except.map]
        rw [ofRecord_of_state place, unwritten]
        simp [writable, bind, Except.bind, Failure.IsSave]
    | _ => simpa [Save.ofRecord, Save.Escapes, place] using refused .noState
  | _ => simpa [Save.ofRecord, Save.Escapes] using refused (.notARecord _)

/-- Data and texts that are refused, are refused for the faults of the save but in the cases that
`Save.Escapes` names, and where a numeral has too many digits. -/
theorem refused_otherwise_iff (now : String) :
    (∀ data, (∃ failure, Save.ofRecord now data = .error failure ∧ ¬ failure.IsSave) ↔
        Save.Escapes data) ∧
      ∀ text, (∃ failure, Save.ofJson now text = .error failure ∧ ¬ failure.IsSave) ↔
        (∃ fault, Json.read text = .error (.number fault)) ∨
          ∃ data, Json.read text = .ok data ∧ Save.Escapes data := by
  refine ⟨save_refused_otherwise_iff now, fun text => ?_⟩
  unfold Save.ofJson
  cases read : Json.read text with
  | ok data => simpa using save_refused_otherwise_iff now data
  | error fault =>
    cases fault with
    | malformed => simp [Failure.IsSave]
    | number fault => cases fault <;> simp [Failure.IsSave, Failure.ofNumber]

def timelessSave : Value :=
  .object [("version", "1.0"),
    ("state", .object [("current_location", "hall"), ("current_time", .int 5)])]

theorem refused_timeless : Save.ofRecord "2024-01-01T00:00:00" timelessSave = .error .noParts ∧
    ¬ ((∃ save, Save.ofRecord "2024-01-01T00:00:00" timelessSave = .ok save) ∨
      ∃ fault, Save.ofRecord "2024-01-01T00:00:00" timelessSave = .error (.save fault)) := by
  have asks : Save.ofRecord "2024-01-01T00:00:00" timelessSave = .error .noParts := rfl
  refine ⟨asks, ?_⟩
  rw [asks]
  rintro (⟨save, reads⟩ | ⟨fault, fails⟩)
  · cases reads
  · cases fails

end Fabula
