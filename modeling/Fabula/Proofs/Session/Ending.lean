import Fabula.Proofs.Session.Settled
/-!
# How actions end

Every action but saving ends in the same way: it enters the dialogue that is still to be entered,
lets the machine observe where that leads, and builds the view. `Ending` describes such actions. Its
index is what is known of the session, and where the end begins this must give one of two things:
the trigger permits every change of the phase, or there is none. Main statements:

* `Ending.failsOfValue`: an action fails for nothing but reasons of values;
* `Ending.settles`: an action that returns leaves a settled session.
-/

namespace Fabula
variable {α β : Type} {game : Game} {trigger : String} {P : Session → Prop}

def Session.Allows (session : Session) (trigger : String) : Prop :=
  session.Frees trigger ∨ session.Rests

/-- Actions that begin in a session with a property, do quiet things, and end where that is
allowed. -/
inductive Ending (game : Game) (trigger : String) : (Session → Prop) → Play View → Prop
  | finish {P : Session → Prop} (allowed : ∀ session, P session → session.Allows trigger) :
      Ending game trigger P (Play.finish game trigger)
  | part {α : Type} {P : Session → Prop} {R : α → Session → Prop} {first : Play α}
      {next : α → Play View} (quiet : Quiet game first) (leads : Play.Triple P first R)
      (rest : ∀ a, Ending game trigger (R a) (next a)) : Ending game trigger P (first >>= next)

theorem GameState.carryItem_cursor {state next : GameState} {item : Value}
    (carries : state.carryItem item = .ok next) : next.cursor = state.cursor := by
  have kept : Returns (fun next : GameState => next.cursor = state.cursor)
      (state.carryItem item) := by
    simp [carryItem]
  exact kept next carries

namespace Play

def showView (game : Game) : Play View := do
  let view ← rolling game (View.build game.registry game.settings (← state))
  setState (← state).clearCues
  return view

theorem finish_eq (game : Game) (trigger : String) :
    finish game trigger = (follow game >>= fun _ => observe game trigger >>= fun _ =>
      showView game) := rfl

theorem quiet_showView : Quiet game (showView game) :=
  .bind .state fun _ => .bind (.rolling View.drawn_build) fun _ =>
    .bind .state fun _ => .bind (.setState _) fun _ => .pure _

theorem ok_of_showView {session next : Session} {view : View}
    (returns : showView game session = .ok view next) :
    next.state = session.state.clearCues := by
  obtain ⟨_, _, asked, returns⟩ := ok_of_bind returns
  cases asked
  obtain ⟨_, between, built, returns⟩ := ok_of_bind returns
  have kept := (keeps_rolling game _).of_ok built
  obtain ⟨_, _, asked, returns⟩ := ok_of_bind returns
  cases asked
  cases returns
  exact congrArg GameState.clearCues kept.state

theorem permits_of_follow {session next : Session} {led : Bool}
    (allowed : session.Allows trigger) (follows : follow game session = .ok led next) :
    next.machine.permits (.ofCursor next.state.cursor) trigger = .ok true := by
  -- A trigger that permits everything permits this; at rest there is nothing to follow or change.
  rcases allowed with frees | rests
  · exact frees.of_machine (Quiet.follow.machine_of_ok follows) _
  · rw [follow_of_entered rests.entered] at follows
    cases follows
    have same : Phase.ofCursor session.state.cursor = session.machine.phase := rests.samePhase.symm
    simp [PhaseMachine.permits, same]

theorem finish_failsOfValue {session next : Session} {failure : Failure}
    (allowed : session.Allows trigger)
    (fails : finish game trigger session = .error failure next) : failure.OfValue := by
  rw [finish_eq] at fails
  obtain early | ⟨led, between, follows, late⟩ := error_of_bind fails
  · exact Quiet.follow.failsOfValue _ _ _ early
  obtain early | ⟨_, _, _, late⟩ := error_of_bind late
  · obtain ⟨_, permitted, permits, refused⟩ := error_of_observe early
    rw [permits_of_follow allowed follows] at permits
    cases permits
    exact refused.elim id fun denied => by simp at denied
  · exact quiet_showView.failsOfValue _ _ _ late

theorem finish_settles (named : game.registry.Named) {session next : Session} {view : View}
    (returns : finish game trigger session = .ok view next) : next.Settled := by
  rw [finish_eq] at returns
  obtain ⟨led, followed, follows, returns⟩ := ok_of_bind returns
  obtain ⟨_, observed, observes, returns⟩ := ok_of_bind returns
  have entered := follow_enters named session trivial led followed follows
  obtain ⟨sameState, agree⟩ := ok_of_observe observes
  have sameMachine := quiet_showView.machine_of_ok returns
  have shown := ok_of_showView returns
  have sameCursor : next.state.cursor = observed.state.cursor := by rw [shown]; rfl
  refine Session.settled_of_agree (by rwa [sameCursor, sameMachine]) ?_
  intro cursor found
  rw [sameCursor, sameState] at found
  exact entered cursor found

end Play

namespace Ending

theorem failsOfValue {action : Play View} (ending : Ending game trigger P action) :
    ∀ session, P session → ∀ failure next, action session = .error failure next →
      failure.OfValue := by
  induction ending with
  | finish allowed =>
    intro session holds failure next fails
    exact Play.finish_failsOfValue (allowed session holds) fails
  | part quiet leads _ ih =>
    intro session holds failure next fails
    obtain early | ⟨a, between, returns, late⟩ := Play.error_of_bind fails
    · exact quiet.failsOfValue _ _ _ early
    · exact ih a between (leads session holds a between returns) failure next late

theorem settles (named : game.registry.Named) {action : Play View}
    (ending : Ending game trigger P action) :
    ∀ session view next, action session = .ok view next → next.Settled := by
  induction ending with
  | finish _ => exact fun _ _ _ returns => Play.finish_settles named returns
  | part _ _ _ ih =>
    intro session view next returns
    obtain ⟨a, between, _, returns⟩ := Play.ok_of_bind returns
    exact ih a between view next returns

theorem of_imp {Q : Session → Prop} {action : Play View} (ending : Ending game trigger P action)
    (implies : ∀ session, Q session → P session) : Ending game trigger Q action := by
  cases ending with
  | finish allowed => exact .finish fun session holds => allowed session (implies session holds)
  | part quiet leads rest =>
    exact .part quiet (fun session holds => leads session (implies session holds)) rest

theorem freed : Ending game trigger (·.Frees trigger) (Play.finish game trigger) :=
  .finish fun _ => .inl

theorem quietly {first : Play α} {next : α → Play View} (quiet : Quiet game first)
    (rest : ∀ a, Ending game trigger (·.Frees trigger) (next a)) :
    Ending game trigger (·.Frees trigger) (first >>= next) :=
  .part quiet (fun _ frees _ _ returns => frees.of_machine (quiet.machine_of_ok returns)) rest

theorem newGame (setup : Setup) :
    Ending game "new_game" (·.Frees "new_game") (Play.newGame game setup) :=
  .quietly (.logAction _ _) fun _ => .quietly (.setState _) fun _ =>
    .quietly .requireTime fun _ => .quietly .fireTriggers fun _ => .freed

theorem load (save : Save) :
    Ending game "load_game" (·.Frees "load_game") (Play.load game save) :=
  .quietly (.logAction _ _) fun _ => .quietly (.setState _) fun _ => .freed

theorem talkTo (id : Value) :
    Ending game "talk_to" (·.Frees "talk_to") (Play.talkTo game id) := by
  refine .quietly (.logAction _ _) fun _ =>
    .quietly (.lift (lookup_failsOnly _ _)) fun found => ?_
  cases found with
  | none => exact .freed
  | some character =>
    dsimp only
    split
    · exact .quietly (.enter _ .follow) fun _ => .freed
    · exact .freed

theorem travelTo (location : Value) :
    Ending game "travel" (·.Frees "travel") (Play.travelTo game location) := by
  refine .quietly (.logAction _ _) fun _ => .quietly .state fun state => ?_
  dsimp only
  split
  · split
    · exact .quietly (.travelAlong _ _ _ _) fun _ => .freed
    · exact .freed
  · exact .freed

theorem intervene {change : GameState → Rolling GameState} (label : Value)
    (drawn : ∀ state, Drawn (change state)) :
    Ending game "debug" (·.Frees "debug") (Play.intervene game change label) :=
  .quietly (.logAction _ _) fun _ => .quietly (.alter _ drawn) fun _ => .freed

theorem rested : Ending game trigger Session.Rests (Play.finish game trigger) :=
  .finish fun _ => .inr

theorem logged {name : String} {arguments : List (String × Value)} {next : Unit → Play View}
    (rest : ∀ a, Ending game trigger Session.Rests (next a)) :
    Ending game trigger Session.Rests (Play.logAction game name arguments >>= next) :=
  .part (.logAction name arguments)
    (fun _ rests _ _ returns => rests.of_kept ((Play.keeps_logAction game _ _).of_ok returns)) rest

theorem lifted {result : Except Failure α} {next : α → Play View}
    (fails : FailsOnly Failure.OfValue result)
    (rest : ∀ a, Ending game trigger (fun session => P session ∧ result = .ok a) (next a)) :
    Ending game trigger P (liftM result >>= next) := by
  refine .part (.lift fails) (fun session holds a next returns => ?_) rest
  obtain ⟨returned, rfl⟩ := Play.ok_of_lift returns
  exact ⟨holds, returned⟩

theorem asked {next : GameState → Play View}
    (rest : ∀ state, Ending game trigger (fun session => P session ∧ session.state = state)
      (next state)) :
    Ending game trigger P (Play.state >>= next) := by
  refine .part .state (fun session holds a next returns => ?_) rest
  cases returns
  exact ⟨holds, rfl⟩

theorem changed {state : GameState} {next : Unit → Play View}
    (rests : ∀ session, P session → session.Rests ∧ state.cursor = session.state.cursor)
    (rest : ∀ a, Ending game trigger Session.Rests (next a)) :
    Ending game trigger P (Play.setState state >>= next) := by
  refine .part (.setState state) (fun session holds a next returns => ?_) rest
  cases returns
  obtain ⟨rests, sameCursor⟩ := rests session holds
  refine ⟨rests.samePhase.trans (congrArg Phase.ofCursor sameCursor.symm), fun cursor found => ?_⟩
  exact rests.entered cursor (sameCursor.symm.trans found)

theorem look : Ending game "get_snapshot" Session.Rests (Play.look game) :=
  .rested

theorem takeItem (item : Value) :
    Ending game "take_item" Session.Rests (Play.takeItem game item) := by
  refine .logged fun _ => .asked fun state => .lifted (lookup_failsOnly _ _) fun place => ?_
  dsimp only
  split
  · refine .lifted (carryItem_failsOnly _ _) fun carried =>
      .changed (fun session known => ?_) fun _ => .rested
    obtain ⟨⟨⟨rests, rfl⟩, _⟩, carries⟩ := known
    exact ⟨rests, GameState.carryItem_cursor carries⟩
  · exact .finish fun session known => .inr known.1.1

theorem writeNote (title text : Value) :
    Ending game "write_note" Session.Rests (Play.writeNote game title text) := by
  refine .part (.edit id (· + 1)) (R := fun _ => Session.Rests)
    (fun session rests a next returns => ?_) fun _ => ?_
  · cases returns
    exact ⟨rests.samePhase, rests.entered⟩
  -- The count is read off the whole session, which is asked for nothing else.
  show Ending game "write_note" Session.Rests
    ((Play.ask fun session => .ok session.notes) >>= fun number => do
      let id := Play.noteId number
      Play.logAction game "write_note" [("note_id", .text id)]
      let state ← Play.state
      Play.setState { state with notes := state.notes ++ [⟨id, title, text⟩] }
      Play.finish game "write_note")
  refine .part .notes (R := fun _ => Session.Rests) (fun session rests a next returns => ?_)
    fun number => .logged fun _ => .asked fun state => .changed (fun session known => ?_)
    fun _ => .rested
  · cases returns
    exact rests
  · exact ⟨known.1, by rw [known.2]⟩

theorem deleteNote (id : Value) :
    Ending game "delete_note" Session.Rests (Play.deleteNote game id) :=
  .logged fun _ => .asked fun _ => .changed (fun _ known => ⟨known.1, by rw [known.2]⟩)
    fun _ => .rested

theorem setLocale (locale : Value) :
    Ending game "set_locale" Session.Rests (Play.setLocale game locale) :=
  .logged fun _ => .lifted (lookup_failsOnly _ _) fun _ => .asked fun _ =>
    .changed (fun _ known => ⟨known.1.1, by rw [known.2]⟩) fun _ => .rested

theorem current {next : Option (Dialogue × Node) → Play View}
    (leaves : ∀ session : Session, session.phase = .inDialogue → session.Frees trigger)
    (nowhere : Ending game trigger Session.Rests (next none))
    (there : ∀ place, Ending game trigger (·.Frees trigger) (next (some place))) :
    Ending game trigger Session.Rests (Play.currentNode game >>= next) := by
  refine .part .currentNode (R := fun found session => session.Rests ∧
    (found.isSome → session.Frees trigger)) (fun session rests found next returns => ?_) ?_
  · obtain ⟨state, between, asked, returns⟩ := Play.ok_of_bind returns
    cases asked
    obtain ⟨current, rfl⟩ := Play.ok_of_lift returns
    refine ⟨rests, fun present => leaves next ?_⟩
    rw [rests.samePhase]
    cases place : next.state.cursor with
    | none =>
      rw [place] at current
      cases current
      cases present
    | some cursor => rfl
  · intro found
    cases found with
    | none => exact nowhere.of_imp fun _ known => known.1
    | some place => exact (there place).of_imp fun _ known => known.2 rfl

theorem selectChoice (id : Value) :
    Ending game "select_choice" Session.Rests (Play.selectChoice game id) := by
  refine .logged fun _ => .current (fun session talks => Session.frees_inDialogue talks ?_) .rested
    fun place => ?_
  · decide
  dsimp only
  split
  · exact .quietly (.take _ _ _) fun _ => .freed
  · exact .freed

theorem continueDialogue :
    Ending game "continue_dialogue" Session.Rests (Play.continueDialogue game) := by
  refine .logged fun _ => .current (fun session talks => Session.frees_inDialogue talks ?_) .rested
    fun place => ?_
  · decide
  dsimp only
  split
  · exact .quietly (.hop _ _) fun _ => .freed
  · exact .freed

end Ending
end Fabula
