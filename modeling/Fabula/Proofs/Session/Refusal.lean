import Fabula.Proofs.Session.Reachable
/-!
# Failed actions

Nothing is rolled back when an action fails. What an action does before it first changes the state
is its preparation: it is logged, looked up and computed. An action that fails there leaves state
and machine as they were, and so does one whose save is refused. An action that fails later leaves
what it has done; but the machine only ever moves to the place of the state. Main statements:

* `act_eq_prepare`: an action is its preparation and what that leaves to do;
* `failed_action`: what a failed action leaves behind.
-/

namespace Fabula
variable {α β : Type} {game : Game} {trigger : String} {P : Session → Prop}

namespace Play

def answer (game : Game) (trigger : String) : Play Reply := do
  return .view (← finish game trigger)

def put (game : Game) (before after : GameState) (reason : String) : Play Unit := do
  setState after
  if !after.time.same before.time then
    logTimeStep game before.time after.time (hoursBetween before.time after.time) reason

def leaveChoice (game : Game) (dialogue : Dialogue) (choice : Choice) : Play Unit := do
  if ← follow game then return
  let target := if choice.next.isPresent then dialogue.findNode? choice.next else none
  match target with
  | some node => arrive game (follow game) dialogue node
  | none => endDialogue

def prepareChange (game : Game) (change : GameState → Rolling GameState) (reason : String) :
    Play (Play Unit) := do
  let before ← state
  let after ← rolling game (change before)
  return put game before after reason

def prepareEntry (game : Game) (id : Value) : Play (Play Unit) := do
  match ← findStart game id with
  | some (dialogue, start) => return arrive game (follow game) dialogue start
  | none => return (do if (← pending).isSome then endDialogue)

def prepareHop (game : Game) (dialogue : Dialogue) (node : Node) : Play (Play Unit) := do
  match ← findTarget game node with
  | none => return endDialogue
  | some target =>
    if (dialogue.findNode? target).isSome then return setCursor (some ⟨dialogue.id, target⟩)
    else return endDialogue

/-- What an action does before it changes the state. It returns what is left to do. -/
def prepare (game : Game) : Action → Play (Play Reply)
  | .newGame setup => do
    logAction game "new_game" [("start_location", setup.location)]
    return do
      setState (.initial game setup)
      requireTime
      fireTriggers game
      answer game "new_game"
  | .load save => do
    logAction game "load_game" [("timestamp", save.timestamp)]
    return do
      setState save.state
      answer game "load_game"
  | .loadRecord data => do
    let save ← Save.ofRecord game.now.text data
    logAction game "load_game" [("timestamp", save.timestamp)]
    return do
      setState save.state
      answer game "load_game"
  | .save => do
    let save ← save game
    return return .save save
  | .selectChoice id => do
    logAction game "select_choice" [("choice_id", id)]
    match ← currentNode game with
    | some (dialogue, node) =>
      match node.findChoice? id with
      | some choice => do
        let put ← prepareChange game (Effect.applyAll · choice.effects) ("choice " ++ id.display)
        return do
          put
          leaveChoice game dialogue choice
          answer game "select_choice"
      | none => return answer game "select_choice"
    | none => return answer game "select_choice"
  | .talkTo id => do
    logAction game "talk_to" [("character_id", id)]
    match ← game.registry.characters.lookup id with
    | some character =>
      if character.dialogue.isPresent then
        let enter ← prepareEntry game character.dialogue
        return do
          enter
          answer game "talk_to"
      else return answer game "talk_to"
    | none => return answer game "talk_to"
  | .continueDialogue => do
    logAction game "continue_dialogue" []
    match ← currentNode game with
    | some (dialogue, node) =>
      if node.choices.isEmpty then
        let move ← prepareHop game dialogue node
        return do
          move
          answer game "continue_dialogue"
      else return answer game "continue_dialogue"
    | none => return answer game "continue_dialogue"
  | .takeItem item => do
    logAction game "take_item" [("item_id", item)]
    let state ← state
    let place := (← state.itemLocations.lookup item).getD .null
    if place.same state.location then
      let carrying ← state.carryItem item
      return do
        setState carrying
        answer game "take_item"
    else return answer game "take_item"
  | .travelTo location => do
    logAction game "travel" [("location_id", location)]
    let state ← state
    if state.mapEnabled.isPresent then
      match findRoute game state.location location with
      | some (travelMap, origin, destination) =>
        let hours ← travelHours travelMap origin destination
        return do
          setState { ← Play.state with location, cursor := none }
          advanceClock game hours ("travel to " ++ location.display)
          fireTriggers game
          answer game "travel"
      | none => return answer game "travel"
    else return answer game "travel"
  | .writeNote title text => do
    modify fun session => { session with notes := session.notes + 1 }
    let id := noteId (← get).notes
    logAction game "write_note" [("note_id", .text id)]
    let state ← state
    return do
      setState { state with notes := state.notes ++ [⟨id, title, text⟩] }
      answer game "write_note"
  | .deleteNote id => do
    logAction game "delete_note" [("note_id", id)]
    let state ← state
    return do
      setState { state with notes := state.notes.filter fun note => !note.id.same id }
      answer game "delete_note"
  | .setLocale locale => do
    logAction game "set_locale" [("locale", locale)]
    let _ ← game.registry.locales.lookup locale
    return do
      setState { ← state with locale }
      answer game "set_locale"
  | .look => return answer game "get_snapshot"
  | .debug effects label => do
    logAction game "debug" [("command", label)]
    let put ← prepareChange game (Effect.applyAll · effects) ("debug " ++ label.display)
    return do
      put
      answer game "debug"

theorem perform_eq (effects : List Effect) (reason : String) : perform game effects reason =
    prepareChange game (Effect.applyAll · effects) reason >>= fun rest => rest := by
  simp only [perform, alter, prepareChange, put, bind_assoc, pure_bind]

theorem enter_eq (id : Value) :
    enter game (follow game) id = prepareEntry game id >>= fun rest => rest := by
  simp only [enter, prepareEntry, bind_assoc]
  refine congrArg _ (funext fun found => ?_)
  cases found <;> rfl

theorem hop_eq (dialogue : Dialogue) (node : Node) :
    hop game dialogue node = prepareHop game dialogue node >>= fun rest => rest := by
  simp only [hop, prepareHop, bind_assoc]
  refine congrArg _ (funext fun target => ?_)
  cases target with
  | none => rfl
  | some target =>
    dsimp only
    split <;> rfl

theorem take_eq (dialogue : Dialogue) (choice : Choice) (id : Value) :
    take game dialogue choice id =
      perform game choice.effects ("choice " ++ id.display) >>= fun _ =>
        leaveChoice game dialogue choice := rfl

theorem act_eq_prepare (action : Action) :
    act game action = prepare game action >>= fun rest => rest := by
  -- The steps are the same and in the same order; what differs is how they are nested.
  cases action with
  | newGame setup => simp only [act, newGame, prepare, answer, bind_assoc, pure_bind]
  | load save => simp only [act, load, prepare, answer, bind_assoc, pure_bind]
  | loadRecord data => simp only [act, load, prepare, answer, bind_assoc, pure_bind]
  | save => simp only [act, prepare, bind_assoc, pure_bind]
  | selectChoice id =>
    simp only [act, selectChoice, prepare, answer, bind_assoc]
    refine congrArg _ (funext fun _ => congrArg _ (funext fun found => ?_))
    cases found with
    | none => simp only [pure_bind]
    | some place =>
      dsimp only
      cases place.2.findChoice? id with
      | none => simp only [pure_bind]
      | some choice => simp only [take_eq, perform_eq, bind_assoc, pure_bind]
  | talkTo id =>
    simp only [act, talkTo, prepare, answer, bind_assoc]
    refine congrArg _ (funext fun _ => congrArg _ (funext fun found => ?_))
    cases found with
    | none => simp only [pure_bind]
    | some character =>
      dsimp only
      split
      · simp only [enter_eq, bind_assoc, pure_bind]
      · simp only [pure_bind]
  | continueDialogue =>
    simp only [act, continueDialogue, prepare, answer, bind_assoc]
    refine congrArg _ (funext fun _ => congrArg _ (funext fun found => ?_))
    cases found with
    | none => simp only [pure_bind]
    | some place =>
      dsimp only
      split
      · simp only [hop_eq, bind_assoc, pure_bind]
      · simp only [pure_bind]
  | takeItem item =>
    simp only [act, takeItem, prepare, answer, bind_assoc]
    refine congrArg _ (funext fun _ => congrArg _ (funext fun state =>
      congrArg _ (funext fun place => ?_)))
    split <;> simp only [bind_assoc, pure_bind]
  | travelTo location =>
    simp only [act, travelTo, prepare, answer, bind_assoc]
    refine congrArg _ (funext fun _ => congrArg _ (funext fun state => ?_))
    split
    · generalize findRoute game state.location location = route
      cases route with
      | none => simp only [pure_bind]
      | some ends => simp only [travelAlong, bind_assoc, pure_bind]
    · simp only [pure_bind]
  | writeNote title text => simp only [act, writeNote, prepare, answer, bind_assoc, pure_bind]
  | deleteNote id => simp only [act, deleteNote, prepare, answer, bind_assoc, pure_bind]
  | setLocale locale => simp only [act, setLocale, prepare, answer, bind_assoc, pure_bind]
  | look => simp only [act, look, prepare, answer, pure_bind]
  | debug effects label =>
    simp only [act, debug, intervene, alter, prepareChange, put, prepare, answer, bind_assoc,
      pure_bind]

end Play

namespace Play

def Stays (computation : Play α) : Prop :=
  ∀ session : Session, session.Unmoved (after computation session)

theorem Keeps.stays {computation : Play α} (keeps : Keeps computation) : Stays computation :=
  fun session => (keeps session).unmoved

theorem Stays.bind {first : Play α} {next : α → Play β} (stays : Stays first)
    (rest : ∀ a, Stays (next a)) : Stays (first >>= next) :=
  after_bind (R := Session.Unmoved) .trans stays rest

theorem Stays.of_ok {computation : Play α} (stays : Stays computation) {session next : Session}
    {a : α} (returns : computation session = .ok a next) : session.Unmoved next :=
  after_of_ok returns ▸ stays session

theorem Stays.of_error {computation : Play α} (stays : Stays computation) {session next : Session}
    {failure : Failure} (fails : computation session = .error failure next) :
    session.Unmoved next :=
  after_of_error fails ▸ stays session

namespace Stays

theorem pure (a : α) : Stays (pure a) :=
  (keeps_lift (.ok a)).stays

theorem lift (result : Except Failure α) : Stays (liftM result) :=
  (keeps_lift result).stays

theorem state : Stays state :=
  fun session => .refl session

theorem logAction (name : String) (arguments : List (String × Value)) :
    Stays (logAction game name arguments) :=
  (keeps_logAction game name arguments).stays

theorem rolling (computation : Rolling α) : Stays (rolling game computation) :=
  (keeps_rolling game computation).stays

theorem currentNode : Stays (currentNode game) :=
  .bind .state fun _ => .lift _

theorem findM? {items : List α} {check : α → Play Bool} (each : ∀ item, Stays (check item)) :
    Stays (items.findM? check) :=
  findM?_closed (C := Stays) .pure .bind each

theorem findTarget (node : Node) : Stays (findTarget game node) := by
  refine .bind (.bind .state fun _ => .findM? fun _ => .rolling _) fun found => ?_
  cases found <;> exact .pure _

theorem prepareChange (change : GameState → Rolling GameState) (reason : String) :
    Stays (prepareChange game change reason) :=
  .bind .state fun _ => .bind (.rolling _) fun _ => .pure _

theorem prepareEntry (id : Value) : Stays (prepareEntry game id) := by
  refine .bind (.lift _) fun found => ?_
  cases found <;> exact .pure _

theorem prepareHop (dialogue : Dialogue) (node : Node) :
    Stays (prepareHop game dialogue node) := by
  refine .bind (.findTarget node) fun target => ?_
  cases target with
  | none => exact .pure _
  | some target =>
    dsimp only
    split <;> exact .pure _

theorem save : Stays (save game) :=
  .bind (.logAction _ _) fun _ =>
    .bind (.bind .state fun _ => .bind (.lift _) fun _ => .pure _) fun _ =>
      .bind .state fun _ => .pure _

theorem prepare (action : Action) : Stays (prepare game action) := by
  cases action with
  | newGame setup => exact .bind (.logAction _ _) fun _ => .pure _
  | load save => exact .bind (.logAction _ _) fun _ => .pure _
  | loadRecord data => exact .bind (.lift _) fun _ => .bind (.logAction _ _) fun _ => .pure _
  | save => exact .bind .save fun _ => .pure _
  | selectChoice id =>
    refine .bind (.logAction _ _) fun _ => .bind .currentNode fun found => ?_
    cases found with
    | none => exact .pure _
    | some place =>
      dsimp only
      split
      · exact .bind (.prepareChange _ _) fun _ => .pure _
      · exact .pure _
  | talkTo id =>
    refine .bind (.logAction _ _) fun _ => .bind (.lift _) fun found => ?_
    cases found with
    | none => exact .pure _
    | some character =>
      dsimp only
      split
      · exact .bind (.prepareEntry _) fun _ => .pure _
      · exact .pure _
  | continueDialogue =>
    refine .bind (.logAction _ _) fun _ => .bind .currentNode fun found => ?_
    cases found with
    | none => exact .pure _
    | some place =>
      dsimp only
      split
      · exact .bind (.prepareHop _ _) fun _ => .pure _
      · exact .pure _
  | takeItem item =>
    refine .bind (.logAction _ _) fun _ => .bind .state fun _ => .bind (.lift _) fun _ => ?_
    dsimp only
    split
    · exact .bind (.lift _) fun _ => .pure _
    · exact .pure _
  | travelTo location =>
    refine .bind (.logAction _ _) fun _ => .bind .state fun state => ?_
    split
    · generalize findRoute game state.location location = route
      cases route with
      | none => exact .pure _
      | some ends => exact .bind (.lift _) fun _ => .pure _
    · exact .pure _
  | writeNote title text =>
    -- The count of the notes is no part of what is at stake here.
    exact .bind (fun _ => ⟨rfl, rfl⟩) fun _ => .bind (fun _ => ⟨rfl, rfl⟩) fun _ =>
      .bind (.logAction _ _) fun _ => .bind .state fun _ => .pure _
  | deleteNote id =>
    exact .bind (.logAction _ _) fun _ => .bind .state fun _ => .pure _
  | setLocale locale =>
    exact .bind (.logAction _ _) fun _ => .bind (.lift _) fun _ => .pure _
  | look => exact .pure _
  | debug effects label =>
    exact .bind (.logAction _ _) fun _ => .bind (.prepareChange _ _) fun _ => .pure _

end Stays
end Play
namespace Play

theorem error_of_showView {session next : Session} {failure : Failure}
    (fails : showView game session = .error failure next) : session.Kept next := by
  obtain early | ⟨_, _, asked, late⟩ := error_of_bind fails
  · cases early
  cases asked
  obtain early | ⟨_, _, _, late⟩ := error_of_bind late
  · exact (keeps_rolling game _).of_error early
  · obtain early | ⟨_, _, _, late⟩ := error_of_bind late
    · cases early
    · cases late

theorem failure_of_finish {session next : Session} {failure : Failure}
    (fails : finish game trigger session = .error failure next) :
    failure.OfValue ∨ failure.IsTransition := by
  rw [finish_eq] at fails
  obtain early | ⟨_, _, _, late⟩ := error_of_bind fails
  · exact .inl (Quiet.follow.failsOfValue _ _ _ early)
  obtain early | ⟨_, _, _, late⟩ := error_of_bind late
  · obtain ⟨_, _, _, refused⟩ := error_of_observe early
    exact refused.imp id And.right
  · exact .inl (quiet_showView.failsOfValue _ _ _ late)

theorem machine_of_finish {session next : Session} {failure : Failure}
    (fails : finish game trigger session = .error failure next) :
    next.machine.cursor = session.machine.cursor ∨
      Cursor.Agree next.state.cursor next.machine.cursor := by
  rw [finish_eq] at fails
  obtain early | ⟨_, followed, follows, late⟩ := error_of_bind fails
  · exact .inl (by rw [Quiet.follow.machine_of_error early])
  have same := Quiet.follow.machine_of_ok follows
  obtain early | ⟨_, observed, observes, late⟩ := error_of_bind late
  · exact .inl ((error_of_observe early).1.cursor.trans (by rw [same]))
  · have kept := error_of_showView late
    rw [kept.state, kept.machine]
    exact .inr (ok_of_observe observes).2

theorem look_stays {session next : Session} {failure : Failure} (settled : session.Settled)
    (fails : look game session = .error failure next) : session.Unmoved next := by
  have fails : (observe game "get_snapshot" >>= fun _ => showView game) session =
      .error failure next := by
    rwa [look, finish_eq, bind_of_ok (follow_of_entered settled.entered)] at fails
  obtain early | ⟨_, observed, observes, late⟩ := error_of_bind fails
  · exact (error_of_observe early).1
  have kept := error_of_showView late
  -- The machine moves only to a place that differs, but a settled one is at the place of the state.
  obtain ⟨sameState, moves⟩ := moves_of_observe observes
  refine ⟨kept.state.trans sameState, ?_⟩
  rw [kept.machine]
  rcases moves with ⟨_, stays⟩ | ⟨other, moved⟩
  · rw [stays]
  · exact moved.trans (settled.sameCursor.resolve_right other)

theorem permits_look {machine : PhaseMachine} {target : Phase} (other : machine.phase ≠ target) :
    machine.permits target "get_snapshot" = .ok false := by
  have unlisted : (Transition.table.any fun transition =>
      transition.source == machine.phase && transition.target == target &&
        Value.same "get_snapshot" transition.trigger) = false := by
    refine List.any_eq_false.mpr fun transition listed => ?_
    have differs : transition.trigger ≠ "get_snapshot" := by
      revert transition
      decide
    simp [differs.symm]
  have other : (target == machine.phase) = false := by simpa using other.symm
  simp only [PhaseMachine.permits, other, Value.key, Value.key?, unlisted, bind, Except.bind, pure,
    Except.pure]
  rfl

theorem observe_refuses {session : Session}
    (other : session.phase ≠ Phase.ofCursor session.state.cursor) :
    observe game "get_snapshot" session =
      .error (.transition "get_snapshot" session.phase.name
        (Phase.ofCursor session.state.cursor).name) session := by
  have moves : Cursor.sameOption session.state.cursor session.machine.cursor = false :=
    Bool.eq_false_iff.mpr fun same => other (Cursor.Agree.phase (.inr same)).symm
  have denied := permits_look other
  have refused : session.machine.step? session.state.cursor (.text "get_snapshot") .null =
      .error (.transition "get_snapshot" session.phase.name
        (Phase.ofCursor session.state.cursor).name) := by
    simp [PhaseMachine.step?, moves, denied, Value.display, Session.phase, bind, Except.bind,
      throw, throwThe, MonadExceptOf.throw]
  rw [observe_eq, refused]
  rfl

theorem look_refused_iff (session : Session) :
    (∃ failure next, look game session = .error failure next ∧ failure.IsTransition) ↔
      ∃ led followed, follow game session = .ok led followed ∧
        followed.phase ≠ Phase.ofCursor followed.state.cursor := by
  constructor
  -- Only the observation refuses anything, and it does so only where the phases differ.
  · rintro ⟨failure, next, fails, refused⟩
    rw [look, finish_eq] at fails
    obtain early | ⟨led, followed, follows, late⟩ := error_of_bind fails
    · exact absurd refused (Quiet.follow.failsOfValue _ _ _ early).not_isTransition
    refine ⟨led, followed, follows, fun samePhase => ?_⟩
    obtain early | ⟨_, _, _, late⟩ := error_of_bind late
    · obtain ⟨_, permitted, permits, refusal⟩ := error_of_observe early
      have same : Phase.ofCursor followed.state.cursor = followed.machine.phase := samePhase.symm
      simp only [PhaseMachine.permits, same, beq_self_eq_true, if_true, Except.ok.injEq] at permits
      subst permits
      rcases refusal with ofValue | ⟨denied, _⟩
      · exact ofValue.not_isTransition refused
      · cases denied
    · exact (quiet_showView.failsOfValue _ _ _ late).not_isTransition refused
  -- No change of the phase is listed for looking around.
  · rintro ⟨led, followed, follows, otherPhase⟩
    have refused : (observe game "get_snapshot" >>= fun _ => showView game) followed = _ :=
      bind_of_error (observe_refuses otherPhase)
    rw [look, finish_eq, bind_of_ok follows]
    exact ⟨_, _, refused, trivial⟩

end Play

theorem Ending.machine_of_failure {action : Play View} (ending : Ending game trigger P action) :
    ∀ session failure next, action session = .error failure next →
      next.machine.cursor = session.machine.cursor ∨
        Cursor.Agree next.state.cursor next.machine.cursor := by
  induction ending with
  | finish _ => exact fun _ _ _ fails => Play.machine_of_finish fails
  | part quiet _ _ ih =>
    intro session failure next fails
    obtain early | ⟨a, between, returns, late⟩ := Play.error_of_bind fails
    · exact .inl (by rw [quiet.machine_of_error early])
    · rw [← quiet.machine_of_ok returns]
      exact ih a between failure next late

theorem Answering.machine_of_failure {answer : Play Reply} (answering : Answering game answer) :
    ∀ session failure next, answer session = .error failure next →
      next.machine.cursor = session.machine.cursor ∨
        Cursor.Agree next.state.cursor next.machine.cursor := by
  induction answering with
  | reply reply plain => exact fun _ _ _ fails => by cases fails
  | view ending begins =>
    intro session failure next fails
    obtain early | ⟨_, _, _, late⟩ := Play.error_of_bind fails
    · exact ending.machine_of_failure session failure next early
    · cases late
  | before asking _ ih =>
    intro session failure next fails
    obtain early | ⟨a, between, returns, late⟩ := Play.error_of_bind fails
    · exact .inl (asking.keeps.of_error early).unmoved.cursor
    · rw [← (asking.keeps.of_ok returns).machine]
      exact ih a between failure next late

theorem Ending.not_save {action : Play View} (ending : Ending game trigger P action) :
    ∀ session fault next, action session ≠ .error (.save fault) next := by
  induction ending with
  | finish _ => exact fun _ _ _ fails => (Play.failure_of_finish fails).elim id id
  | part quiet _ _ ih =>
    intro session fault next fails
    obtain early | ⟨a, between, _, late⟩ := Play.error_of_bind fails
    · exact quiet.failsOfValue _ _ _ early
    · exact ih a between fault next late

theorem Answering.kept_of_save {answer : Play Reply} (answering : Answering game answer) :
    ∀ session fault next, answer session = .error (.save fault) next → session.Unmoved next := by
  induction answering with
  | reply reply plain => exact fun _ _ _ fails => by cases fails
  | view ending begins =>
    intro session fault next fails
    obtain early | ⟨_, _, _, late⟩ := Play.error_of_bind fails
    · exact absurd early (ending.not_save session fault next)
    · cases late
  | before asking _ ih =>
    intro session fault next fails
    obtain early | ⟨a, between, returns, late⟩ := Play.error_of_bind fails
    · exact (asking.keeps.of_error early).unmoved
    · exact (asking.keeps.of_ok returns).unmoved.trans (ih a between fault next late)

structure FailedAction (game : Game) (action : Action) (failure : Failure)
    (session next : Session) : Prop where
  /-- It has failed in its preparation and moved nothing, or behind it. -/
  prepared :
    Play.prepare game action session = .error failure next ∧ session.Unmoved next ∨
      ∃ rest between, Play.prepare game action session = .ok rest between ∧
        session.Unmoved between ∧ rest between = .error failure next
  saving : action = .save → session.Unmoved next
  loading : ∀ fault, failure = .save fault → session.Unmoved next
  looking : action = .look → session.Settled → session.Unmoved next
  machine : next.machine.cursor = session.machine.cursor ∨
    Cursor.Agree next.state.cursor next.machine.cursor
  refused : (∃ fault last, Play.look game next = .error fault last ∧ fault.IsTransition) ↔
    ∃ led followed, Play.follow game next = .ok led followed ∧
      followed.phase ≠ Phase.ofCursor followed.state.cursor

theorem failed_action {action : Action} {failure : Failure} {session next : Session}
    (fails : Play.act game action session = .error failure next) :
    FailedAction game action failure session next where
  prepared := by
    rw [Play.act_eq_prepare] at fails
    have stays : Play.Stays (Play.prepare game action) := .prepare action
    obtain early | ⟨rest, between, prepares, late⟩ := Play.error_of_bind fails
    · exact .inl ⟨early, stays.of_error early⟩
    · exact .inr ⟨rest, between, prepares, stays.of_ok prepares, late⟩
  saving := by
    rintro rfl
    obtain early | ⟨_, _, _, late⟩ := Play.error_of_bind fails
    · exact Play.Stays.save.of_error early
    · cases late
  loading := by
    rintro fault rfl
    exact (Answering.act action).kept_of_save session fault next fails
  looking := by
    rintro rfl settled
    obtain early | ⟨_, _, _, late⟩ := Play.error_of_bind fails
    · exact Play.look_stays settled early
    · cases late
  machine := (Answering.act action).machine_of_failure session failure next fails
  refused := Play.look_refused_iff next

/-- Where the hour is no number, the dialogue of the guide is entered, and then its effects fail. -/
def noonState : GameState :=
  { GameState.empty "" guideGame.settings.mapEnabled guideGame.settings.locale with
    time := ⟨.int 1, "noon"⟩ }

def noonSession : Session :=
  { guideSession with state := noonState }

def noonTalk : Except Failure Reply × Session :=
  outcome (Play.act guideGame (.talkTo "guide")) noonSession

def noonFollow : Except Failure Bool × Session :=
  outcome (Play.follow guideGame) noonTalk.2

theorem noonTalk_moves : ∃ failure next,
    Play.act guideGame (.talkTo "guide") noonSession = .error failure next ∧
      ¬ noonSession.Unmoved next ∧
      ∃ led followed, Play.follow guideGame next = .ok led followed ∧
        followed.phase ≠ Phase.ofCursor followed.state.cursor := by
  have fails : noonTalk.1.isOk = false := by decide +kernel
  have placed : noonTalk.2.state.cursor.isSome := by decide +kernel
  have follows : noonFollow.1.isOk := by decide +kernel
  have waiting : noonFollow.2.phase = .idle := by decide +kernel
  have talking : Phase.ofCursor noonFollow.2.state.cursor = .inDialogue := by decide +kernel
  unfold noonFollow at follows waiting talking
  unfold noonTalk at *
  obtain ⟨failure, failed⟩ := error_of_outcome fails
  obtain ⟨led, followed⟩ := ok_of_outcome follows
  refine ⟨failure, _, failed, fun unmoved => ?_, led, _, followed, by rw [waiting, talking]; decide⟩
  rw [unmoved.state] at placed
  cases placed

theorem failed_action_talk : ∃ failure next rest between fault last,
    Play.act guideGame (.talkTo "guide") noonSession = .error failure next ∧
      Play.prepare guideGame (.talkTo "guide") noonSession = .ok rest between ∧
      noonSession.Unmoved between ∧ rest between = .error failure next ∧
      ¬ noonSession.Unmoved next ∧
      Play.look guideGame next = .error fault last ∧ fault.IsTransition ∧
      FailedAction guideGame (.talkTo "guide") failure noonSession next := by
  obtain ⟨failure, next, fails, moved, phases⟩ := noonTalk_moves
  have failed := failed_action fails
  obtain ⟨rest, between, prepares, unmoved, late⟩ :=
    failed.prepared.resolve_left fun early => moved early.2
  obtain ⟨fault, last, looks, refused⟩ := failed.refused.mpr phases
  exact ⟨failure, next, rest, between, fault, last, fails, prepares, unmoved, late, moved, looks,
    refused, failed⟩

theorem failed_action_noon :
    Session.start guideGame guideRoller 0 (some noonState) = .ok noonSession ∧
      ∃ failure next, Play.act guideGame (.talkTo "guide") noonSession = .error failure next ∧
        ¬ noonSession.Unmoved next ∧
        ∃ fault last, Play.look guideGame next = .error fault last ∧ fault.IsTransition := by
  obtain ⟨failure, next, fails, moved, phases⟩ := noonTalk_moves
  exact ⟨rfl, failure, next, fails, moved, (Play.look_refused_iff next).mpr phases⟩

end Fabula
