import Fabula.Proofs.Session.Course
import Fabula.Proofs.Session.Place
/-!
# Where items are

What a session carries and where its items are recorded to be are two accounts of one fact.
Everything that is done to a session keeps them in step: what it picks up is recorded as carried,
and what is put elsewhere is no longer carried. A new game does not: it carries what it is given,
and leaves that recorded where the content has it. Main statements:

* `Recorded.deed`: every deed keeps the two accounts in step;
* `item_recorded`: every item that a session carries is recorded as carried, or it was given to a
  new game and is recorded where the content has it.
-/

namespace Fabula
variable {game : Game} {registry : Registry} {setup : Setup} {before after : GameState}

namespace Table
variable {α β : Type} {table : Table α}

theorem find?_of_place {key other : Key} (same : key.place = other.place) :
    table.find? key = table.find? other := by
  simp only [find?, Key.same, same]

theorem lookup_eq_some {value : Value} {found : α} : table.lookup value = .ok (some found) ↔
    ∃ key, value.key = .ok key ∧ table.find? key = some found := by
  cases read : value.key <;> simp [lookup, read, bind, Except.bind, pure, Except.pure]

theorem find?_map (f : α → β) (key : Key) : (table.map f).find? key = (table.find? key).map f := by
  simp only [find?, map, List.find?_map, Option.map_map]
  rfl

end Table

theorem Value.key_eq_ok {value : Value} {key : Key} :
    value.key = .ok key ↔ value.key? = some key := by
  cases read : value.key? <;> simp [Value.key, read]

theorem Value.same_of_place {value : Value} {key : Key} {text : String} (read : value.key = .ok key)
    (same : key.place = (Key.text text).place) : value.same text := by
  cases value <;> cases Value.key_eq_ok.mp read <;> simp_all [Key.place]

inductive GameState.Stows (before : GameState) : GameState → Prop
  | keeps {after : GameState} (held : ∀ item ∈ after.inventory, item ∈ before.inventory)
      (places : after.itemLocations = before.itemLocations) : Stows before after
  | carries {after : GameState} {taken : Value} {key : Key} (read : taken.key = .ok key)
      (held : ∀ item ∈ after.inventory, item ∈ before.inventory ∨ item = taken)
      (places : after.itemLocations = before.itemLocations.insert key carried) : Stows before after
  | puts {after : GameState} {put location : String}
      (held : ∀ item ∈ after.inventory, item ∈ before.inventory ∧ ¬ item.same put)
      (places : after.itemLocations = before.itemLocations.insert put location) :
      Stows before after

namespace GameState.Stows

theorem of_same (held : after.inventory = before.inventory)
    (places : after.itemLocations = before.itemLocations) : before.Stows after :=
  .keeps (fun _ listed => held ▸ listed) places

theorem of_carryItem {item : Value} (carries : before.carryItem item = .ok after) :
    before.Stows after := by
  unfold carryItem at carries
  cases read : item.key with
  | error failure => simp [read, bind, Except.bind] at carries
  | ok key =>
    simp only [read, bind, Except.bind, pure, Except.pure] at carries
    cases carries
    refine .carries read (fun held listed => ?_) rfl
    by_cases member : item.memberOf before.inventory
    · simp only [member, if_true] at listed
      exact .inl listed
    · simp only [member, Bool.false_eq_true, if_false, List.mem_append,
        List.mem_singleton] at listed
      exact listed

theorem of_addItem {item : Value} (adds : before.addItem item = .ok after) :
    before.Stows after := by
  unfold addItem at adds
  split at adds
  · cases adds
    exact .of_same rfl rfl
  · exact .of_carryItem adds

theorem dropItem (state : GameState) (item : Value) : state.Stows (state.dropItem item) :=
  .keeps (fun _ listed => (List.mem_filter.mp listed).1) rfl

end GameState.Stows

theorem stows_of_apply {effect : Effect} {roller rolled : Roller}
    (applies : effect.apply before roller = .ok after rolled) : before.Stows after := by
  cases touches_of_apply applies with
  | neither time inventory itemLocations => exact .of_same inventory itemLocations
  | advances => exact .of_same rfl rfl
  | adds adds => exact .of_addItem adds
  | removes => exact .dropItem before _
  | moves =>
    refine .puts (fun held listed => ?_) rfl
    simpa [GameState.dropItem] using listed

theorem stows_of_update {command : Command} (updates : command.update before = .ok after) :
    before.Stows after := by
  replace updates := command.handle_of_update updates
  cases command with
  | setFlag | clearFlag | setVariable | setQuestStage =>
    obtain ⟨_, rfl⟩ := ok_of_keyed updates
    exact .of_same rfl rfl
  | addItem item => exact .of_addItem updates
  | removeItem item =>
    cases updates
    exact .dropItem before item
  | _ =>
    cases updates
    exact .of_same rfl rfl

/-- Whether every item that is carried is recorded as carried, unless the start gave it and it is
recorded where the content has it. -/
def GameState.Recorded (registry : Registry) (setup : Setup) (state : GameState) : Prop :=
  ∀ item ∈ state.inventory, ∀ place, state.itemLocations.lookup item = .ok (some place) →
    place = carried ∨
      item ∈ setup.inventory ∧
        ∃ entry, registry.items.lookup item = .ok (some entry) ∧ entry.location = place

namespace GameState

theorem initial_recorded (game : Game) (setup : Setup) :
    (initial game setup).Recorded game.registry setup := by
  intro item held place recorded
  obtain ⟨key, read, found⟩ := Table.lookup_eq_some.mp recorded
  have mapped := (Table.find?_map _ key).symm.trans found
  obtain ⟨entry, known, same⟩ := Option.map_eq_some_iff.mp mapped
  exact .inr ⟨held, entry, Table.lookup_eq_some.mpr ⟨key, read, known⟩, same⟩

theorem Recorded.stows (recorded : before.Recorded registry setup) (stows : before.Stows after) :
    after.Recorded registry setup := by
  intro item listed place found
  cases stows with
  | keeps held places =>
    rw [places] at found
    exact recorded item (held item listed) place found
  | @carries taken key read held places =>
    rw [places] at found
    obtain ⟨own, readOwn, found⟩ := Table.lookup_eq_some.mp found
    by_cases same : key.place = own.place
    · rw [← Table.find?_of_place same, Table.find?_insert_self] at found
      exact .inl (Option.some.inj found).symm
    · rw [Table.find?_insert_of_ne _ _ (mt Key.same_iff.mp same)] at found
      -- The item that is taken is recorded under its own key.
      have other : item ≠ taken := by
        rintro rfl
        rw [read] at readOwn
        cases readOwn
        exact same rfl
      have before := (held item listed).resolve_right other
      exact recorded item before place (Table.lookup_eq_some.mpr ⟨own, readOwn, found⟩)
  | @puts put location held places =>
    rw [places] at found
    obtain ⟨own, readOwn, found⟩ := Table.lookup_eq_some.mp found
    obtain ⟨before, other⟩ := held item listed
    have apart : ¬ (Key.text put).same own := by
      intro same
      exact other (Value.same_of_place readOwn (Key.same_iff.mp same).symm)
    rw [Table.find?_insert_of_ne _ _ apart] at found
    exact recorded item before place (Table.lookup_eq_some.mpr ⟨own, readOwn, found⟩)

theorem Recorded.applyAll {effects : List Effect} {roller rolled : Roller}
    (recorded : before.Recorded registry setup)
    (applies : Effect.applyAll before effects roller = .ok after rolled) :
    after.Recorded registry setup := by
  induction effects generalizing before roller with
  | nil =>
    cases applies
    exact recorded
  | cons effect rest ih =>
    obtain ⟨between, middle, early, late⟩ := Play.ok_of_bind applies
    exact ih (recorded.stows (stows_of_apply early)) late

theorem Recorded.deed {deed : Deed} (recorded : before.Recorded registry setup)
    (does : deed.Meaning game before after) : after.Recorded registry setup := by
  cases does with
  | apply applies => exact recorded.applyAll applies
  | carry carries => exact recorded.stows (.of_carryItem carries)
  | command updates => exact recorded.stows (stows_of_update updates)
  | _ => exact recorded

end GameState

def Session.NewlyBegun (registry : Registry) (setup : Setup) (session : Session) : Prop :=
  ∃ turn : Turn, turn.game.registry = registry ∧ turn.call = .action (.newGame setup) ∧
    turn.Begins ∧ turn.after = session

theorem Turn.Returns.newlyBegun {turn : Turn} {setup : Setup} (returns : turn.Returns)
    (asked : turn.call = .action (.newGame setup)) :
    turn.after.NewlyBegun turn.game.registry setup :=
  ⟨turn, rfl, asked, returns.begins, rfl⟩

theorem Session.NewlyBegun.keeps {I : GameState → Prop} {setup : Setup} {session : Session}
    (begun : session.NewlyBegun registry setup)
    (does : ∀ (game : Game) (call : Call) (deed : Deed) (before after : GameState),
      game.registry = registry → deed.Meaning game before after → call.Permits game.registry deed →
        I before → I after)
    (clears : ∀ state : GameState, I state → I state.clearCues)
    (initial : ∀ game : Game, game.registry = registry → I (.initial game setup)) :
    I session.state := by
  obtain ⟨turn, shared, asked, begins, rfl⟩ := begun
  refine begins.keeps (fun deed before after => does turn.game turn.call deed before after shared)
    clears fun opening start opens => ?_
  rw [asked] at opens
  cases opens with
  | newGame => exact initial turn.game shared
  | other goesOn => cases goesOn

/-- Whether a turn leaves it to the state that it finds where its state comes from: it does not
replace that state, or it leaves the same one. -/
def Turn.GoesOn (turn : Turn) : Prop :=
  turn.call.resets = false ∨ turn.after.state = turn.session.state

theorem Turn.GoesOn.keeps {turn : Turn} {I : GameState → Prop} (goesOn : turn.GoesOn)
    (does : ∀ (deed : Deed) (before after : GameState), deed.Meaning turn.game before after →
      turn.call.Permits turn.game.registry deed → I before → I after)
    (clears : ∀ state : GameState, I state → I state.clearCues) (holds : I turn.session.state) :
    I turn.after.state := by
  rcases goesOn with goesOn | same
  · exact turn.keeps_of_goesOn does clears goesOn holds
  · rwa [same]

/-- Runs over a registry, whose calls may fail. The index is the setup of the new game that the
state goes back to. -/
def Registry.stemming (registry : Registry) : RunKind Setup where
  Begins setup session := session.NewlyBegun registry setup
  Goes setup turn next := next = setup ∧ turn.game.registry = registry ∧ turn.GoesOn
  Loads turn := turn.game.registry = registry ∧ turn.Begins

def SetupRun (registry : Registry) (setup : Setup) (session : Session) : Prop :=
  Run registry.stemming setup session

theorem SetupRun.recorded {session : Session} (stems : SetupRun registry setup session) :
    session.state.Recorded registry setup := by
  refine Run.keeps (I := fun setup session => session.state.Recorded registry setup) stems
    ?_ ?_ ?_
  · rintro setup session begun
    refine begun.keeps (fun _ _ _ _ _ shared done _ recorded => ?_) (fun _ => id)
      fun game shared => shared ▸ GameState.initial_recorded game setup
    subst shared
    exact recorded.deed done
  · rintro setup turn _ ⟨rfl, rfl, goesOn⟩ recorded
    exact goesOn.keeps (fun _ _ _ done _ recorded => recorded.deed done) (fun _ => id) recorded
  · rintro setup holder turn ⟨rfl, begins⟩ resumes recorded
    exact begins.keeps (fun _ _ _ done _ recorded => recorded.deed done) (fun _ => id)
      fun _ _ opens => resumes.start_eq opens ▸ recorded

/-- An item that is carried and that is recorded to be anywhere is recorded as carried, or it was
given to the new game and is recorded where the content has it. -/
theorem item_recorded {session : Session} (stems : SetupRun registry setup session)
    {item place : Value} (held : item ∈ session.state.inventory)
    (recorded : session.state.itemLocations.lookup item = .ok (some place)) :
    place = carried ∨
      item ∈ setup.inventory ∧
        ∃ entry, registry.items.lookup item = .ok (some entry) ∧ entry.location = place :=
  stems.recorded item held place recorded

/-- There is a key in the hall, and the game starts there with the key in hand. -/
def keyContent : Value :=
  .object [("items", .list [.object [("id", "key"), ("location", "hall")]])]

def keyItem : Item :=
  ⟨"key", "key", "", "", "", "hall", ∅⟩

def keyRegistry : Registry where
  locations := ∅
  characters := ∅
  items := ⟨[(.text "key", keyItem)]⟩
  maps := ∅
  dialogues := ∅
  quests := ∅
  journal := ∅
  interludes := ∅
  locales := ∅

def keyGame : Game where
  registry := keyRegistry
  settings := .standard
  now := ⟨2024, 1, 1, 0, 0, 0, 0, none⟩

def keySetup : Setup :=
  ⟨"hall", .start, ∅, ∅, ["key"]⟩

theorem key_read : Registry.ofRecord keyContent = .ok keyRegistry := rfl

theorem eq_text_of_text? {value : Value} {text : String} (found : value.text? = some text) :
    value = .text text := by
  cases value with
  | text s =>
    cases found
    rfl
  | _ => cases found

theorem eq_singleton_of_texts {values : List Value} {text : String}
    (found : values.map Value.text? = [some text]) : values = [.text text] := by
  obtain ⟨value, rfl, read⟩ := List.map_eq_singleton_iff.mp found
  rw [eq_text_of_text? read]

theorem eq_ok_of_text? {result : Except Failure (Option Value)} {text : String}
    (found : result.toOption.join.bind Value.text? = some text) :
    result = .ok (some (.text text)) := by
  obtain ⟨value, joined, read⟩ := Option.bind_eq_some_iff.mp found
  cases result with
  | error failure => cases joined
  | ok entry =>
    cases joined
    rw [eq_text_of_text? read]

def keyBegins : Turn :=
  ⟨keyGame, .action (.newGame keySetup), .new keyGame guideRoller 0⟩

theorem key_begins : keyBegins.Returns :=
  Turn.returns_of_isOk (by decide +kernel)

theorem key_setupRun : SetupRun keyRegistry keySetup keyBegins.after :=
  .begin (key_begins.newlyBegun rfl)

theorem key_held : .text "key" ∈ keyBegins.after.state.inventory := by
  have held : keyBegins.after.state.inventory.map Value.text? = [some "key"] := by decide +kernel
  rw [eq_singleton_of_texts held]
  exact List.mem_singleton_self _

theorem key_lies : keyBegins.after.state.itemLocations.lookup "key" = .ok (some "hall") :=
  eq_ok_of_text? (by decide +kernel)

theorem item_recorded_key :
    SetupRun keyRegistry keySetup keyBegins.after ∧ .text "key" ∈ keyBegins.after.state.inventory ∧
      keyBegins.after.state.itemLocations.lookup "key" = .ok (some "hall") ∧
      .text "key" ∈ keySetup.inventory ∧
        ∃ entry, keyRegistry.items.lookup "key" = .ok (some entry) ∧ entry.location = "hall" := by
  have given := (item_recorded key_setupRun key_held key_lies).resolve_left (by simp [carried])
  exact ⟨key_setupRun, key_held, key_lies, given⟩

/-- The key is carried, and it lies where the session is. -/
theorem carried_lies : Registry.ofRecord keyContent = .ok keyRegistry ∧
    SetupRun keyRegistry keySetup keyBegins.after ∧ .text "key" ∈ keyBegins.after.state.inventory ∧
      ∃ place, keyBegins.after.state.itemLocations.lookup "key" = .ok (some place) ∧
        place ≠ .text carried ∧ place.same keyBegins.after.state.location := by
  have here : keyBegins.after.state.location.text? = some "hall" := by decide +kernel
  refine ⟨key_read, key_setupRun, key_held, "hall", key_lies, by simp [carried], ?_⟩
  simp [eq_text_of_text? here]

end Fabula
