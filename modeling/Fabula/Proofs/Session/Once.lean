import Fabula.Proofs.Session.Belongings
/-!
# No id is listed twice

The inventory and the journal are lists of ids. Both grow at the end, by an id that has been looked
for in the list itself, and the inventory shrinks by a filter. So a list without repetitions stays
one, whatever is done to the state and whether it succeeds or fails. Main statements:

* `Unrepeated.apply`, `Unrepeated.deed`, `Unrepeated.call`: what one effect, one deed and one call
  preserve;
* `ids_unrepeated`: no run that begins with a new game repeats an id.
-/

namespace Fabula
variable {game : Game} {before after : GameState}

def Value.Once (ids : List Value) : Prop :=
  ids.Pairwise fun earlier later => ¬ earlier.alike later

namespace Value.Once
variable {ids : List Value} {id : Value}

theorem nil : Once [] :=
  List.Pairwise.nil

theorem concat (once : Once ids) (fresh : ¬ id.memberOf ids) : Once (ids ++ [id]) := by
  refine List.pairwise_append.mpr ⟨once, List.pairwise_singleton _ _, fun earlier listed later last
    like => fresh ?_⟩
  rw [List.mem_singleton.mp last] at like
  exact List.any_eq_true.mpr ⟨earlier, listed, like⟩

theorem filter (once : Once ids) (keep : Value → Bool) : Once (ids.filter keep) :=
  List.Pairwise.filter keep once

end Value.Once

structure GameState.Unrepeated (state : GameState) : Prop where
  inventory : Value.Once state.inventory
  journal : Value.Once state.journal

namespace GameState.Unrepeated

theorem empty (location mapEnabled locale : Value) :
    (GameState.empty location mapEnabled locale).Unrepeated :=
  ⟨.nil, .nil⟩

theorem initial (game : Game) {setup : Setup} (once : Value.Once setup.inventory) :
    (GameState.initial game setup).Unrepeated :=
  ⟨once, .nil⟩

theorem dropItem (unrepeated : before.Unrepeated) (item : Value) :
    (before.dropItem item).Unrepeated :=
  ⟨unrepeated.inventory.filter _, unrepeated.journal⟩

theorem carryItem (unrepeated : before.Unrepeated) {item : Value}
    (carries : before.carryItem item = .ok after) : after.Unrepeated := by
  unfold GameState.carryItem at carries
  cases read : item.key with
  | error failure => simp [read, bind, Except.bind] at carries
  | ok key =>
    simp only [read, bind, Except.bind, pure, Except.pure] at carries
    cases carries
    refine ⟨?_, unrepeated.journal⟩
    by_cases member : item.memberOf before.inventory
    · simpa [member] using unrepeated.inventory
    · simpa [member] using unrepeated.inventory.concat member

theorem addItem (unrepeated : before.Unrepeated) {item : Value}
    (adds : before.addItem item = .ok after) : after.Unrepeated := by
  unfold GameState.addItem at adds
  split at adds
  · cases adds
    exact unrepeated
  · exact unrepeated.carryItem adds

theorem apply (unrepeated : before.Unrepeated) {effect : Effect} {roller rolled : Roller}
    (applies : effect.apply before roller = .ok after rolled) : after.Unrepeated := by
  replace applies := (apply_eq_ok.mp applies).2
  have updated {id : String} {change : CharacterState → Except Failure CharacterState}
      (updates : (liftM (before.updateCharacter id change) : Rolling GameState) roller =
        .ok after rolled) : after.Unrepeated := by
    obtain ⟨characters, rfl⟩ := updateCharacter_eq (ok_of_lifted updates)
    exact ⟨unrepeated.inventory, unrepeated.journal⟩
  cases effect with
  | addItem item => exact unrepeated.addItem (ok_of_lifted applies)
  | removeItem item =>
    cases applies
    exact unrepeated.dropItem _
  | moveItem item location =>
    cases applies
    exact ⟨(unrepeated.dropItem _).inventory, unrepeated.journal⟩
  | addJournalEntry entry =>
    by_cases member : Value.memberOf entry before.journal
    · simp only [Effect.handle, member, if_true] at applies
      cases applies
      exact unrepeated
    · simp only [Effect.handle, member, Bool.false_eq_true, if_false] at applies
      cases applies
      exact ⟨unrepeated.inventory, unrepeated.journal.concat member⟩
  | addVariable | advanceTime | roll =>
    obtain ⟨_, _, _, returns⟩ := Play.ok_of_bind applies
    cases returns
    exact ⟨unrepeated.inventory, unrepeated.journal⟩
  | setCharacterLocation | addToParty | removeFromParty | setRelationship | addRelationship
  | setCharacterStat | addCharacterStat => exact updated applies
  | _ =>
    cases applies
    exact ⟨unrepeated.inventory, unrepeated.journal⟩

theorem applyAll (unrepeated : before.Unrepeated) {effects : List Effect} {roller rolled : Roller}
    (applies : Effect.applyAll before effects roller = .ok after rolled) : after.Unrepeated := by
  induction effects generalizing before roller with
  | nil =>
    cases applies
    exact unrepeated
  | cons effect rest ih =>
    obtain ⟨between, middle, early, late⟩ := Play.ok_of_bind applies
    exact ih (unrepeated.apply early) late

theorem update (unrepeated : before.Unrepeated) {command : Command}
    (updates : command.update before = .ok after) : after.Unrepeated := by
  replace updates := command.handle_of_update updates
  cases command with
  | setFlag | clearFlag | setVariable | setQuestStage =>
    obtain ⟨_, rfl⟩ := ok_of_keyed updates
    exact ⟨unrepeated.inventory, unrepeated.journal⟩
  | addItem item => exact unrepeated.addItem updates
  | removeItem item =>
    cases updates
    exact unrepeated.dropItem item
  | _ =>
    cases updates
    exact ⟨unrepeated.inventory, unrepeated.journal⟩

theorem deed (unrepeated : before.Unrepeated) {deed : Deed}
    (does : deed.Meaning game before after) : after.Unrepeated := by
  cases does with
  | apply applies => exact unrepeated.applyAll applies
  | carry carries => exact unrepeated.carryItem carries
  | command updates => exact unrepeated.update updates
  | _ => exact ⟨unrepeated.inventory, unrepeated.journal⟩

end GameState.Unrepeated

def Call.BringsOnce (game : Game) : Call → Prop
  | .action (.newGame setup) => Value.Once setup.inventory
  | .action (.load save) => save.state.Unrepeated
  | .action (.loadRecord data) =>
    ∀ save, Save.ofRecord game.now.text data = .ok save → save.state.Unrepeated
  | _ => True

theorem Call.BringsOnce.of_goesOn {call : Call} (goesOn : call.resets = false) :
    call.BringsOnce game := by
  cases call with
  | action action => cases action <;> first | exact trivial | cases goesOn
  | command command => exact trivial
  | line line => exact trivial

theorem GameState.Unrepeated.call {session : Session} (unrepeated : session.state.Unrepeated)
    {call : Call} (brings : call.BringsOnce game) :
    (Play.after (Play.call game call) session).state.Unrepeated := by
  cases aftermath_of_call game call session with
  | early _ calm =>
    rw [calm.state]
    exact unrepeated
  | @opened _ _ _ start _ _ opens ends =>
    have begun : start.Unrepeated := by
      cases opens with
      | newGame => exact .initial game brings
      | load => exact brings
      | loadRecord read => exact brings _ read
      | other => exact unrepeated
    exact ends.keeps (fun _ _ _ does _ holds => holds.deed does)
      (fun _ holds => ⟨holds.inventory, holds.journal⟩) begun

/-- Runs that begin with a new game, or with nothing. Their calls may fail, and each may be made in
another game. -/
def onceRuns : RunKind Unit where
  Begins _ session := (∃ game roller notes, session = .new game roller notes) ∨
    ∃ registry setup, session.NewlyBegun registry setup ∧ Value.Once setup.inventory
  Goes _ turn _ := turn.call.resets = false ∨ ∃ setup, turn.call = .action (.newGame setup) ∧
    Value.Once setup.inventory
  Loads turn := turn.Begins

def Gathered (session : Session) : Prop :=
  Run onceRuns () session

theorem Gathered.unrepeated {session : Session} (gathered : Gathered session) :
    session.state.Unrepeated := by
  have clears (state : GameState) (holds : state.Unrepeated) : state.clearCues.Unrepeated :=
    ⟨holds.inventory, holds.journal⟩
  refine Run.keeps (I := fun _ session => session.state.Unrepeated) gathered ?_ ?_ ?_
  · rintro _ _ (⟨game, roller, notes, rfl⟩ | ⟨registry, setup, begun, once⟩)
    · exact .empty _ _ _
    · exact begun.keeps (fun _ _ _ _ _ _ done _ holds => holds.deed done) clears
        fun game _ => .initial game once
  · rintro _ ⟨game, call, before⟩ _ (goesOn | ⟨setup, rfl, once⟩) unrepeated
    · exact unrepeated.call (.of_goesOn goesOn)
    · exact unrepeated.call once
  · rintro _ holder turn begins resumes unrepeated
    exact begins.keeps (fun _ _ _ done _ holds => holds.deed done) clears
      fun _ _ opens => resumes.start_eq opens ▸ unrepeated

/-- No effect and no call makes a state repeat an id that repeats none, whether the call returns or
fails, and no run that begins with a new game comes to a state that repeats one. -/
theorem ids_unrepeated :
    (∀ (state next : GameState) (effect : Effect) (roller rolled : Roller), state.Unrepeated →
      effect.apply state roller = .ok next rolled → next.Unrepeated) ∧
    (∀ (game : Game) (call : Call) (session : Session), session.state.Unrepeated →
      call.BringsOnce game → (Play.after (Play.call game call) session).state.Unrepeated) ∧
    ∀ session : Session, Gathered session → session.state.Unrepeated :=
  ⟨fun _ _ _ _ _ unrepeated applies => unrepeated.apply applies,
    fun _ _ _ unrepeated brings => unrepeated.call brings, fun _ gathered => gathered.unrepeated⟩

def keyTaken : Turn :=
  ⟨keyGame, .action (.takeItem "key"), keyBegins.after⟩

theorem key_gathered : Gathered keyBegins.after :=
  .begin (.inr ⟨_, _, key_begins.newlyBegun rfl, List.pairwise_singleton _ _⟩)

theorem ids_unrepeated_key : Value.Once keySetup.inventory ∧ Gathered keyTaken.after ∧
    keyTaken.after.state.Unrepeated ∧ keyTaken.after.state.inventory.length = 1 ∧
      (keyTaken.after.state.dropItem "key").Unrepeated := by
  obtain ⟨effects, calls, runs⟩ := ids_unrepeated
  have begun : keyBegins.after.state.Unrepeated := runs _ key_gathered
  have taken : keyTaken.after.state.Unrepeated :=
    calls keyGame (.action (.takeItem "key")) keyBegins.after begun trivial
  have one : keyTaken.after.state.inventory.length = 1 := by decide +kernel
  have dropped : (keyTaken.after.state.dropItem "key").Unrepeated :=
    effects keyTaken.after.state _ (.removeItem "key") guideRoller guideRoller taken rfl
  exact ⟨List.pairwise_singleton _ _, .turn key_gathered (.inl rfl), taken, one, dropped⟩

end Fabula
