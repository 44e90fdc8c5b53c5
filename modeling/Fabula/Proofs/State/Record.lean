import Fabula.Proofs.FailsOnly
/-!
# States and saves as records

A state that has been written to a record is read back as it was, whatever it holds. So is a save,
as long as its version is a text and its timestamp counts as present, which the reader asks for.
Main statements:

* `ofRecord_toRecord`: a state is read back as it was;
* `save_ofRecord_toRecord`: a save is read back as it was;
* `save_failsOnly`: why a save is refused.
-/

namespace Fabula
variable {α β γ : Type}

theorem mapM_read {write : α → β} {read : β → Except Failure γ} {found : α → γ} {items : List α}
    (finds : ∀ a ∈ items, read (write a) = .ok (found a)) :
    (items.map write).mapM read = .ok (items.map found) := by
  induction items with
  | nil => rfl
  | cons item rest ih =>
    have first := finds item List.mem_cons_self
    have others := ih fun a member => finds a (List.mem_cons_of_mem _ member)
    simp only [List.map_cons, List.mapM_cons, first, others, bind, Except.bind, pure, Except.pure]

theorem mapM_written {write : α → β} {read : β → Except Failure α} {items : List α}
    (restores : ∀ a ∈ items, read (write a) = .ok a) : (items.map write).mapM read = .ok items := by
  simpa using mapM_read (restores : ∀ a ∈ items, read (write a) = .ok (id a))

theorem Table.mapM_written {write : α → β} {read : β → Except Failure α}
    (restores : ∀ a, read (write a) = .ok a) (table : Table α) :
    (table.map write).mapM read = .ok table := by
  have entries : ((table.entries.map fun entry => (entry.1, write entry.2)).mapM fun entry => do
      return (entry.1, ← read entry.2)) = .ok table.entries :=
    Fabula.mapM_written fun entry _ => by
      simp [restores, bind, Except.bind, pure, Except.pure]
  simp only [Table.mapM, Table.map]
  rw [entries]
  rfl

theorem clock_ofRecord_toRecord (clock : Clock) : Clock.ofRecord clock.toRecord = .ok clock := by
  simp [Clock.ofRecord, Clock.toRecord, Value.object, Value.fields, Table.getD, Table.find?,
    Key.same_text, bind, Except.bind, pure, Except.pure]

theorem cursor_ofRecord_toRecord (cursor : Cursor) :
    Cursor.ofRecord cursor.toRecord = .ok cursor := by
  simp [Cursor.ofRecord, Cursor.toRecord, Value.object, Value.fields, Value.member, Table.getD,
    Table.find?, Key.same_text, bind, Except.bind, pure, Except.pure]

theorem note_ofRecord_toRecord (note : Note) : Note.ofRecord note.toRecord = .ok note := by
  simp [Note.ofRecord, Note.toRecord, Value.object, Value.fields, Value.member, Table.getD,
    Table.find?, Key.same_text, bind, Except.bind, pure, Except.pure]

theorem character_ofRecord_toRecord (character : CharacterState) :
    CharacterState.ofRecord character.toRecord = .ok character := by
  simp [CharacterState.ofRecord, CharacterState.toRecord, Value.object, Value.fields, Value.table,
    Value.ofTable, Table.getD, Table.find?, Key.same_text, bind, Except.bind, pure, Except.pure]

theorem readCursor_toRecord (cursor : Option Cursor) :
    GameState.readCursor ((cursor.map Cursor.toRecord).getD .null) = .ok cursor := by
  cases cursor with
  | none => rfl
  | some cursor =>
    have present : cursor.toRecord.isPresent := rfl
    simp [GameState.readCursor, present, cursor_ofRecord_toRecord, bind, Except.bind, pure,
      Except.pure]

theorem ofRecord_toRecord (state : GameState) :
    GameState.ofRecord state.toRecord = .ok state := by
  simp [GameState.ofRecord, GameState.toRecord, Value.object, Value.fields, Value.member,
    Value.table, Value.items, Value.ofTable, Table.getD, Table.getOrNull, Table.find?,
    Key.same_text, clock_ofRecord_toRecord, readCursor_toRecord,
    mapM_written (fun note _ => note_ofRecord_toRecord note),
    Table.mapM_written character_ofRecord_toRecord, bind,
    Except.bind, pure, Except.pure]

theorem momentText_isPresent (moment : Moment) : (Value.text moment.text).isPresent := by
  simp [Value.isPresent, Moment.text]

theorem save_ofRecord_toRecord {save : Save} {version : String} (now : String)
    (versioned : save.version = .text version) (stamped : save.timestamp.isPresent) :
    Save.ofRecord now save.toRecord = .ok save := by
  obtain ⟨_, state, timestamp⟩ := save
  cases versioned
  obtain ⟨fields, record⟩ : ∃ fields, state.toRecord = .record fields := ⟨_, rfl⟩
  have restored := ofRecord_toRecord state
  simp only [record] at restored
  simp only at stamped
  have read : (GameState.ofRecord (.record fields)).mapError Save.faultOf = .ok state := by
    rw [restored]
    rfl
  have written : (Value.text version).write = .ok version := rfl
  simp [Save.ofRecord, Save.toRecord, record, read, stamped, written, Value.object, Table.getD,
    Table.getOrNull, Table.find?, Key.same_text, Value.orElse, bind, Except.bind, pure, Except.pure]

def Failure.OfRecord (failure : Failure) : Prop :=
  failure.OfValue ∨ ∃ key, failure = .missingKey key

def Failure.OfSave (failure : Failure) : Prop :=
  failure.OfValue ∨ ∃ fault, failure = .save fault

theorem FailsOnly.ofRecord {result : Except Failure α} (fails : FailsOnly Failure.OfValue result) :
    FailsOnly Failure.OfRecord result :=
  fails.imp fun _ => .inl

theorem member_failsOnly (value : Value) (name : String) :
    FailsOnly Failure.OfRecord (value.member name) := by
  unfold Value.member
  split
  · split <;> simp [Failure.OfRecord]
  · simp [Failure.OfRecord, Failure.OfValue]

@[simp] theorem table_failsOnly (value : Value) : FailsOnly Failure.OfValue value.table := by
  unfold Value.table
  split
  · simp
  · have pairs (index : Nat) (value : Value) : FailsOnly Failure.OfValue (value.pair index) := by
      simp only [Value.pair, failsOnly_bind, items_failsOnly, true_and]
      intro items _
      split <;> simp [Failure.OfValue]
    simp [failsOnly_mapM (fun item : Value × Nat => pairs item.2 item.1)]

theorem tableMapM_failsOnly {P : Failure → Prop} {f : α → Except Failure β}
    (each : ∀ a, FailsOnly P (f a)) (table : Table α) : FailsOnly P (table.mapM f) := by
  simp only [Table.mapM, failsOnly_bind, failsOnly_pure, implies_true, and_true]
  exact failsOnly_mapM (fun entry => by simp [each]) table.entries

theorem cursor_failsOnly (data : Value) : FailsOnly Failure.OfRecord (Cursor.ofRecord data) := by
  simp [Cursor.ofRecord, member_failsOnly, (fields_failsOnly _).ofRecord]

theorem note_failsOnly (data : Value) : FailsOnly Failure.OfRecord (Note.ofRecord data) := by
  simp [Note.ofRecord, member_failsOnly, (fields_failsOnly _).ofRecord]

theorem character_failsOnly (data : Value) :
    FailsOnly Failure.OfRecord (CharacterState.ofRecord data) := by
  simp [CharacterState.ofRecord, (table_failsOnly _).ofRecord, (fields_failsOnly _).ofRecord]

theorem clock_failsOnly (data : Value) : FailsOnly Failure.OfRecord (Clock.ofRecord data) := by
  simp [Clock.ofRecord, (fields_failsOnly _).ofRecord]

theorem readCursor_failsOnly (data : Value) :
    FailsOnly Failure.OfRecord (GameState.readCursor data) := by
  simp [GameState.readCursor, cursor_failsOnly]

theorem state_failsOnly (data : Value) :
    FailsOnly Failure.OfRecord (GameState.ofRecord data) := by
  simp [GameState.ofRecord, (fields_failsOnly _).ofRecord, (table_failsOnly _).ofRecord,
    (items_failsOnly _).ofRecord, member_failsOnly, clock_failsOnly, readCursor_failsOnly,
    failsOnly_mapM note_failsOnly, tableMapM_failsOnly character_failsOnly]

theorem ofSave_of_ofRecord {failure : Failure} (ofRecord : failure.OfRecord) :
    (Save.faultOf failure).OfSave := by
  rcases ofRecord with ofValue | ⟨key, rfl⟩
  · cases failure <;> simp_all [Failure.OfValue, Failure.OfSave, Save.faultOf]
  · exact .inr ⟨_, rfl⟩

theorem save_failsOnly (now : String) (data : Value) :
    FailsOnly Failure.OfSave (Save.ofRecord now data) := by
  have state (record : Value) :
      FailsOnly Failure.OfSave ((GameState.ofRecord record).mapError Save.faultOf) := by
    intro failure fails
    cases read : GameState.ofRecord record with
    | ok state =>
      rw [read] at fails
      cases fails
    | error cause =>
      rw [read] at fails
      cases fails
      exact ofSave_of_ofRecord (state_failsOnly record cause read)
  have refused (fault : SaveFault) : Failure.OfSave (.save fault) := .inr ⟨fault, rfl⟩
  have version (value : Value) : FailsOnly Failure.OfSave value.write :=
    (write_failsOnly value).imp fun _ => .inl
  unfold Save.ofRecord
  split
  · simp only
    split
    · simp [state, version]
    · simp [refused]
  · simp [refused]

end Fabula
