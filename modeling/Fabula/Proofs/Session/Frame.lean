import Fabula.Proofs.Session.Belongings
import Fabula.Proofs.Table
/-!
# What content cannot change

Whatever effects the content has, they leave the notes of the player and the locale alone, make no
characters and forget the place of no item. So do all calls, apart from those that are about notes
or the locale and those that replace the state. Main statements:

* `frames_of_apply`, `frames_of_deed`: what an effect and a deed leave alone;
* `Call.frames`: what a call leaves alone, whether it returns or fails;
* `content_keeps_out`: so notes and locale have their own calls, and a run keeps the characters and
  the items of a new game.
-/

namespace Fabula
variable {game : Game} {registry : Registry} {call : Call} {before between after : GameState}

/-- Whether notes and locale are left to the calls that are about them, while the characters stay
the same and no item is forgotten. -/
structure Call.Frames (call : Call) (before after : GameState) : Prop where
  notes : call.writes = false → after.notes = before.notes
  locale : call.translates = false → after.locale = before.locale
  characters : after.characters.keys = before.characters.keys
  places : ∀ key, before.itemLocations.contains key → after.itemLocations.contains key

namespace Call.Frames

theorem of_same (notes : after.notes = before.notes) (locale : after.locale = before.locale)
    (characters : after.characters.keys = before.characters.keys)
    (places : after.itemLocations = before.itemLocations) : call.Frames before after :=
  ⟨fun _ => notes, fun _ => locale, characters, fun _ known => places ▸ known⟩

theorem refl (state : GameState) : call.Frames state state :=
  .of_same rfl rfl rfl rfl

theorem trans (first : call.Frames before between) (rest : call.Frames between after) :
    call.Frames before after where
  notes other := (rest.notes other).trans (first.notes other)
  locale other := (rest.locale other).trans (first.locale other)
  characters := rest.characters.trans first.characters
  places key known := rest.places key (first.places key known)

theorem place {item : Key} {location : Value} (notes : after.notes = before.notes)
    (locale : after.locale = before.locale)
    (characters : after.characters.keys = before.characters.keys)
    (places : after.itemLocations = before.itemLocations.insert item location) :
    call.Frames before after where
  notes _ := notes
  locale _ := locale
  characters := characters
  places key known := by rw [places, Table.contains_insert, known, Bool.or_true]

end Call.Frames

theorem frames_of_updateCharacter {id : String}
    {change : CharacterState → Except Failure CharacterState}
    (updates : before.updateCharacter id change = .ok after) : call.Frames before after := by
  unfold GameState.updateCharacter at updates
  split at updates
  · cases updates
    exact .refl before
  · next character found =>
    cases changes : change character with
    | error failure =>
      simp only [changes, bind, Except.bind] at updates
      cases updates
    | ok changed =>
      simp only [changes, bind, Except.bind, pure, Except.pure] at updates
      cases updates
      have known : before.characters.contains id := by
        rw [Table.contains, found, Option.isSome_some]
      exact .of_same rfl rfl (Table.keys_insert_of_mem _ _ changed known) rfl

theorem frames_of_carryItem {item : Value} (carries : before.carryItem item = .ok after) :
    call.Frames before after := by
  unfold GameState.carryItem at carries
  cases read : item.key with
  | error failure => simp [read, bind, Except.bind] at carries
  | ok key =>
    simp only [read, bind, Except.bind, pure, Except.pure] at carries
    cases carries
    exact .place rfl rfl rfl rfl

theorem frames_of_addItem {item : Value} (adds : before.addItem item = .ok after) :
    call.Frames before after := by
  unfold GameState.addItem at adds
  split at adds
  · cases adds
    exact .refl before
  · exact frames_of_carryItem adds

theorem frames_of_apply {effect : Effect} {roller rolled : Roller}
    (applies : effect.apply before roller = .ok after rolled) : call.Frames before after := by
  replace applies := (apply_eq_ok.mp applies).2
  cases effect with
  | addVariable | advanceTime | roll =>
    obtain ⟨_, _, _, returns⟩ := Play.ok_of_bind applies
    cases returns
    exact .of_same rfl rfl rfl rfl
  | addItem item => exact frames_of_addItem (ok_of_lifted applies)
  | moveItem item location =>
    cases applies
    exact .place rfl rfl rfl rfl
  | addJournalEntry entry =>
    simp only [Effect.handle] at applies
    split at applies <;> cases applies <;> exact .of_same rfl rfl rfl rfl
  | setCharacterLocation | addToParty | removeFromParty | setRelationship | addRelationship
  | setCharacterStat | addCharacterStat => exact frames_of_updateCharacter (ok_of_lifted applies)
  | _ =>
    cases applies
    exact .of_same rfl rfl rfl rfl

theorem frames_of_applyAll {effects : List Effect} {roller rolled : Roller}
    (applies : Effect.applyAll before effects roller = .ok after rolled) :
    call.Frames before after := by
  induction effects generalizing before roller with
  | nil =>
    cases applies
    exact .refl _
  | cons effect rest ih =>
    obtain ⟨between, middle, early, late⟩ := Play.ok_of_bind applies
    exact (frames_of_apply early).trans (ih late)

theorem frames_of_update {command : Command} (updates : command.update before = .ok after) :
    call.Frames before after := by
  replace updates := command.handle_of_update updates
  cases command with
  | setFlag | clearFlag | setVariable | setQuestStage =>
    obtain ⟨_, rfl⟩ := ok_of_keyed updates
    exact .of_same rfl rfl rfl rfl
  | addItem item => exact frames_of_addItem updates
  | _ =>
    cases updates
    exact .of_same rfl rfl rfl rfl

theorem frames_of_deed {deed : Deed} (does : deed.Meaning game before after)
    (permitted : call.Permits game.registry deed) : call.Frames before after := by
  cases does with
  | apply applies => exact frames_of_applyAll applies
  | carry carries => exact frames_of_carryItem carries
  | command updates => exact frames_of_update updates
  | write | delete =>
    have writes : call.writes = true := permitted
    exact ⟨fun other => by simp [writes] at other, fun _ => rfl, rfl, fun _ => id⟩
  | translate =>
    have translates : call.translates = true := permitted
    exact ⟨fun _ => rfl, fun other => by simp [translates] at other, rfl, fun _ => id⟩
  | _ => exact .of_same rfl rfl rfl rfl

theorem Session.Successor.frames {session next : Session}
    (ends : session.Successor game call next) :
    call.Frames session.state next.state :=
  ends.keeps (I := call.Frames session.state)
    (fun _ _ _ does permitted frames => frames.trans (frames_of_deed does permitted))
    (fun _ frames => frames.trans (.of_same rfl rfl rfl rfl)) (.refl _)

theorem Call.frames (goesOn : call.resets = false) (session : Session) :
    call.Frames session.state (Play.after (Play.call game call) session).state := by
  cases aftermath_of_call game call session with
  | early fails calm =>
    rw [calm.state]
    exact .refl _
  | opened calm _ opens ends =>
    cases opens with
    | other => exact ends.frames
    | _ => cases goesOn

/-- Runs over a registry that begin with a new game and load nothing. Their calls may fail. -/
def Registry.continuing (registry : Registry) : RunKind Unit where
  Begins _ session := ∃ setup, session.NewlyBegun registry setup
  Goes _ turn _ := turn.game.registry = registry ∧ turn.call.loads = false

def Continued (registry : Registry) (session : Session) : Prop :=
  Run registry.continuing () session

structure GameState.Peopled (registry : Registry) (state : GameState) : Prop where
  characters : state.characters.keys = registry.characters.keys
  places : ∀ key ∈ registry.items.keys, state.itemLocations.contains key

namespace GameState.Peopled

theorem initial (game : Game) (setup : Setup) :
    (GameState.initial game setup).Peopled game.registry where
  characters := Table.keys_map _ _
  places key listed := by
    obtain ⟨entry, stored, rfl⟩ := List.mem_map.mp listed
    rw [Table.contains_iff]
    exact List.mem_map.mpr ⟨_, List.mem_map_of_mem stored, rfl⟩

theorem framed (peopled : before.Peopled registry) (frames : call.Frames before after) :
    after.Peopled registry where
  characters := frames.characters.trans peopled.characters
  places key listed := frames.places key (peopled.places key listed)

end GameState.Peopled

theorem Continued.peopled {session : Session} (continued : Continued registry session) :
    session.state.Peopled registry := by
  have does {game : Game} {call : Call} (deed : Deed) (before after : GameState)
      (done : deed.Meaning game before after) (permitted : call.Permits game.registry deed)
      (peopled : before.Peopled registry) : after.Peopled registry :=
    peopled.framed (frames_of_deed done permitted)
  have clears (state : GameState) (peopled : state.Peopled registry) :
      state.clearCues.Peopled registry := ⟨peopled.characters, peopled.places⟩
  refine Run.keeps (I := fun _ session => session.state.Peopled registry) continued ?_ ?_
    fun _ _ _ => False.elim
  · rintro _ _ ⟨setup, begun⟩
    exact begun.keeps (fun _ _ deed before after _ => does deed before after) clears
      fun game shared => shared ▸ .initial game setup
  · rintro _ ⟨game, call, before⟩ _ ⟨rfl, goesOn⟩ peopled
    refine Turn.keeps does clears (fun opening start opens => ?_) peopled
    -- A call that loads nothing goes on from the state that it finds or begins a new game.
    cases opens with
    | newGame setup => exact .initial game setup
    | other => exact peopled
    | _ => cases goesOn

/-- Notes change only in the calls that are about notes and the locale only in the call that is
about it, apart from those that replace the state. A run that begins with a new game and loads
nothing has exactly the characters of its registry, in their order, and a place for each of its
items. All this holds whether calls return or fail. -/
theorem content_keeps_out :
    (∀ (game : Game) (call : Call) (session : Session), call.resets = false →
      call.writes = false →
        (Play.after (Play.call game call) session).state.notes = session.state.notes) ∧
    (∀ (game : Game) (call : Call) (session : Session), call.resets = false →
      call.translates = false →
        (Play.after (Play.call game call) session).state.locale = session.state.locale) ∧
    ∀ (registry : Registry) (session : Session), Continued registry session →
      session.state.characters.keys = registry.characters.keys ∧
        ∀ key ∈ registry.items.keys, session.state.itemLocations.contains key :=
  ⟨fun _ _ session goesOn other => (Call.frames goesOn session).notes other,
    fun _ _ session goesOn other => (Call.frames goesOn session).locale other,
    fun _ _ continued => ⟨continued.peopled.characters, continued.peopled.places⟩⟩

/-- Nobody knows the stranger whom the pilot sends to the quay, and the rope is taken aboard. -/
def ferryContent : Value :=
  .object [
    ("characters", .list [.object [("id", "pilot"), ("dialogue", "passage")]]),
    ("items", .list [.object [("id", "rope"), ("location", "quay")]]),
    ("dialogues", .list [.object [("id", "passage"), ("nodes", .list [.object [("id", "aboard"),
      ("effects", .list ["SET characterLocation stranger quay", "MOVE item rope boat"]),
      ("choices", .list [.object [("id", "bye")]])]])]])]

def ferryNode : Node :=
  { guideNode with
    id := "aboard"
    effects := [.setCharacterLocation "stranger" "quay", .moveItem "rope" "boat"] }

def ferryRegistry : Registry :=
  { guideRegistry with
    characters := ⟨[(.text "pilot", ⟨"pilot", "pilot", "", "", "", "passage", ∅⟩)]⟩
    items := ⟨[(.text "rope", ⟨"rope", "rope", "", "", "", "quay", ∅⟩)]⟩
    dialogues := ⟨[(.text "passage", ⟨"passage", "aboard", [ferryNode], .null, []⟩)]⟩ }

def ferryGame : Game :=
  { guideGame with registry := ferryRegistry }

def ferryBegins : Turn :=
  ⟨ferryGame, .action (.newGame ⟨"quay", .start, ∅, ∅, []⟩), .new ferryGame guideRoller 0⟩

def ferryTalks : Turn :=
  ⟨ferryGame, .action (.talkTo "pilot"), ferryBegins.after⟩

theorem ferry_continued : Continued ferryRegistry ferryTalks.after := by
  have begins : ferryBegins.Returns := Turn.returns_of_isOk (by decide +kernel)
  have begun : Continued ferryRegistry ferryBegins.after := .begin ⟨_, begins.newlyBegun rfl⟩
  exact .turn begun ⟨rfl, rfl⟩

theorem content_keeps_out_ferry : Registry.ofRecord ferryContent = .ok ferryRegistry ∧
    Continued ferryRegistry ferryTalks.after ∧
      ferryTalks.after.state.notes = ferryBegins.after.state.notes ∧
      ferryTalks.after.state.locale = ferryBegins.after.state.locale ∧
      ferryTalks.after.state.characters.keys = [.text "pilot"] ∧
      ferryTalks.after.state.itemLocations.contains "rope" ∧
      ferryTalks.after.state.itemLocations.lookup "rope" = .ok (some "boat") := by
  obtain ⟨notes, locale, runs⟩ := content_keeps_out
  obtain ⟨characters, places⟩ := runs ferryRegistry ferryTalks.after ferry_continued
  have aboat : ferryTalks.after.state.itemLocations.lookup "rope" = .ok (some "boat") :=
    eq_ok_of_text? (by decide +kernel)
  refine ⟨rfl, ferry_continued, ?_, ?_, characters, places _ List.mem_cons_self, aboat⟩
  · exact notes ferryGame ferryTalks.call ferryBegins.after rfl rfl
  · exact locale ferryGame ferryTalks.call ferryBegins.after rfl rfl

end Fabula
