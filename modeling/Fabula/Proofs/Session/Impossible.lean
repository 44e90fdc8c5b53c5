import Fabula.Proofs.Session.Hop
import Fabula.Proofs.Session.Saving
/-!
# Actions that are not possible

An action that is not possible where the session stands is logged and ends like any other action:
what waits to be entered is entered, the place is observed and the cues are cleared. Between actions
nothing waits, the machine is at the place of the state, and after a view there are no cues. So the
end of an action changes nothing then. Main statements:

* `Play.finish_of_settled`: the end of an action leaves state and machine alone;
* `finishes_of_impossible`: an action that is not possible comes to its end at once;
* `impossible_changes_nothing`: so it changes neither state nor machine.
-/

namespace Fabula
variable {game : Game} {session next : Session} {state : GameState} {trigger : String}

inductive GameState.Nowhere (registry : Registry) (state : GameState) : Prop
  | outside (idle : state.cursor = none)
  | dialogue {place : Cursor} (placed : state.cursor = some place)
      (missing : registry.dialogues.lookup place.dialogue = .ok none)
  | node {place : Cursor} {dialogue : Dialogue} (placed : state.cursor = some place)
      (known : registry.dialogues.lookup place.dialogue = .ok (some dialogue))
      (missing : dialogue.findNode? place.node = none)

inductive GameState.On (registry : Registry) (state : GameState) (node : Node) : Prop
  | mk {place : Cursor} {dialogue : Dialogue} (placed : state.cursor = some place)
      (known : registry.dialogues.lookup place.dialogue = .ok (some dialogue))
      (first : dialogue.findNode? place.node = some node)

/-- The actions that are not possible in a state, and the one that only looks at it. -/
inductive Action.Impossible (registry : Registry) (state : GameState) : Action → Prop
  | look : Impossible registry state .look
  | selectNowhere {id : Value} (nowhere : state.Nowhere registry) :
      Impossible registry state (.selectChoice id)
  | selectUnknown {id : Value} {node : Node} (on : state.On registry node)
      (unknown : node.findChoice? id = none) : Impossible registry state (.selectChoice id)
  | talkUnknown {id : Value} (unknown : registry.characters.lookup id = .ok none) :
      Impossible registry state (.talkTo id)
  | talkSilent {id : Value} {character : Character}
      (known : registry.characters.lookup id = .ok (some character))
      (silent : character.dialogue.isPresent = false) : Impossible registry state (.talkTo id)
  | talkMissing {id : Value} {character : Character}
      (known : registry.characters.lookup id = .ok (some character))
      (missing : registry.dialogues.lookup character.dialogue = .ok none) :
      Impossible registry state (.talkTo id)
  | talkStartless {id : Value} {character : Character} {dialogue : Dialogue}
      (known : registry.characters.lookup id = .ok (some character))
      (found : registry.dialogues.lookup character.dialogue = .ok (some dialogue))
      (startless : dialogue.start? = none) : Impossible registry state (.talkTo id)
  | continueNowhere (nowhere : state.Nowhere registry) :
      Impossible registry state .continueDialogue
  | continueChoices {node : Node} (on : state.On registry node) (choices : node.choices ≠ []) :
      Impossible registry state .continueDialogue
  | takeElsewhere {item : Value} {recorded : Option Value}
      (looked : state.itemLocations.lookup item = .ok recorded)
      (elsewhere : (recorded.getD .null).same state.location = false) :
      Impossible registry state (.takeItem item)
  | travelDisabled {location : Value} (disabled : state.mapEnabled.isPresent = false) :
      Impossible registry state (.travelTo location)
  | travelUnlisted {location : Value}
      (unlisted : ∀ travelMap ∈ registry.maps.values,
        travelMap.findMarker? state.location = none ∨ travelMap.findMarker? location = none) :
      Impossible registry state (.travelTo location)
  | deleteUnknown {id : Value} (unknown : ∀ note ∈ state.notes, note.id.same id = false) :
      Impossible registry state (.deleteNote id)

theorem GameState.Nowhere.current {registry : Registry} (nowhere : state.Nowhere registry) :
    View.currentNode? registry state.cursor = .ok none := by
  cases nowhere with
  | outside idle =>
    rw [idle]
    rfl
  | dialogue placed missing =>
    rw [placed]
    simp only [View.currentNode?, missing]
    rfl
  | node placed known missing =>
    rw [placed]
    simp only [View.currentNode?, known, missing, bind, Except.bind, Option.map_none]
    rfl

theorem GameState.On.current {registry : Registry} {node : Node} (on : state.On registry node) :
    ∃ dialogue, View.currentNode? registry state.cursor = .ok (some (dialogue, node)) := by
  obtain ⟨placed, known, first⟩ := on
  exact ⟨_, View.currentNode?_eq_some.mpr ⟨_, placed, known, first⟩⟩

namespace Play

theorem finish_of_settled {view : View} (settled : session.Settled)
    (cleared : session.state.Cleared)
    (returns : finish game trigger session = .ok view next) :
    next.state = session.state ∧ next.machine = session.machine := by
  refine ⟨(finish_of_entered settled.entered cleared returns).1, ?_⟩
  rw [finish_eq, bind_of_ok (follow_of_entered settled.entered)] at returns
  obtain ⟨_, observed, observes, shows⟩ := ok_of_bind returns
  obtain ⟨sameState, moves⟩ := moves_of_observe observes
  have here : Cursor.sameOption session.state.cursor session.machine.cursor := by
    rcases settled.sameCursor with same | same
    · rw [← same]
      exact Cursor.sameOption_self _
    · exact same
  rw [quiet_showView.machine_of_ok shows]
  rcases moves with ⟨_, stays⟩ | ⟨elsewhere, _⟩
  · exact stays
  · exact absurd here elsewhere

def Finishes (game : Game) (session : Session) (view : View) (next : Session) : Prop :=
  ∃ trigger middle, session.Kept middle ∧ finish game trigger middle = .ok view next

theorem finishes_of_logged {name : String} {arguments : List (String × Value)} {rest : Play View}
    {view : View} (returns : (logAction game name arguments >>= fun _ => rest) session =
      .ok view next)
    (finishes : ∀ logged, session.Kept logged → rest logged = .ok view next →
      Finishes game session view next) : Finishes game session view next := by
  obtain ⟨_, logged, logs, returns⟩ := ok_of_bind returns
  exact finishes logged ((keeps_logAction game _ _).of_ok logs) returns

theorem finishes_of_current (trigger : String) {name : String} {arguments : List (String × Value)}
    {rest : Option (Dialogue × Node) → Play View} {found : Option (Dialogue × Node)} {view : View}
    (current : View.currentNode? game.registry session.state.cursor = .ok found)
    (returns : (logAction game name arguments >>= fun _ => currentNode game >>= rest) session =
      .ok view next)
    (ends : rest found = finish game trigger) : Finishes game session view next := by
  refine finishes_of_logged returns fun logged kept returns => ?_
  obtain ⟨place, between, asked, returns⟩ := ok_of_bind returns
  obtain ⟨here, rfl⟩ := current_of_ok asked
  rw [kept.state, current] at here
  cases here
  rw [ends] at returns
  exact ⟨trigger, between, kept, returns⟩

theorem enter_of_missing {id : Value} (missing : findStart game id = .ok none)
    (entered : session.Entered) : enter game (follow game) id session = .ok () session := by
  have looked : (liftM (findStart game id) : Play _) session = .ok none session := by
    rw [missing]
    rfl
  rw [enter, bind_of_ok looked]
  exact bind_of_ok (pending_of_entered entered)

theorem finishes_of_talking {id : Value} {character : Character} {view : View}
    (settled : session.Settled)
    (known : game.registry.characters.lookup id = .ok (some character))
    (missing : character.dialogue.isPresent → findStart game character.dialogue = .ok none)
    (returns : talkTo game id session = .ok view next) : Finishes game session view next := by
  refine finishes_of_logged returns fun logged kept returns => ?_
  obtain ⟨found, between, asked, returns⟩ := ok_of_bind returns
  obtain ⟨looked, rfl⟩ := ok_of_lift asked
  rw [known] at looked
  cases looked
  have entered := (settled.of_kept kept).entered
  by_cases present : character.dialogue.isPresent
  · simp only [present, if_true] at returns
    rw [bind_of_ok (enter_of_missing (missing present) entered)] at returns
    exact ⟨_, _, kept, returns⟩
  · simp only [present, Bool.false_eq_true, if_false] at returns
    exact ⟨_, _, kept, returns⟩

theorem findRoute_eq_none {origin destination : Value}
    (unlisted : ∀ travelMap ∈ game.registry.maps.values,
      travelMap.findMarker? origin = none ∨ travelMap.findMarker? destination = none) :
    findRoute game origin destination = none := by
  refine List.findSome?_eq_none_iff.mpr fun travelMap listed => ?_
  rcases unlisted travelMap listed with missing | missing
  · simp [missing]
  · cases travelMap.findMarker? origin <;> simp [missing]

theorem finishes_of_view {action : Play View} {reply : Reply}
    (finishes : ∀ view, action session = .ok view next → Finishes game session view next)
    (returns : (action >>= fun view => pure (.view view)) session = .ok reply next) :
    ∃ view, Finishes game session view next := by
  obtain ⟨view, _, returns, replies⟩ := ok_of_bind returns
  cases replies
  exact ⟨view, finishes view returns⟩

theorem finishes_of_impossible {action : Action} {reply : Reply} (settled : session.Settled)
    (impossible : action.Impossible game.registry session.state)
    (returns : Play.call game (.action action) session = .ok reply next) :
    ∃ view, Finishes game session view next := by
  cases impossible with
  | look =>
    refine finishes_of_view (fun view returns => ?_) returns
    exact ⟨_, session, ⟨rfl, rfl, rfl⟩, returns⟩
  | selectNowhere nowhere =>
    refine finishes_of_view (fun view returns => ?_) returns
    exact finishes_of_current "select_choice" nowhere.current returns rfl
  | selectUnknown on unknown =>
    refine finishes_of_view (fun view returns => ?_) returns
    obtain ⟨dialogue, current⟩ := on.current
    refine finishes_of_current "select_choice" current returns ?_
    simp only [unknown]
  | talkUnknown unknown =>
    refine finishes_of_view (fun view returns => ?_) returns
    refine finishes_of_logged returns fun logged kept returns => ?_
    obtain ⟨found, between, asked, returns⟩ := ok_of_bind returns
    obtain ⟨looked, rfl⟩ := ok_of_lift asked
    rw [unknown] at looked
    cases looked
    exact ⟨_, _, kept, returns⟩
  | talkSilent known silent =>
    refine finishes_of_view (fun view returns => ?_) returns
    exact finishes_of_talking settled known (fun present => by simp [silent] at present) returns
  | talkMissing known missing =>
    refine finishes_of_view (fun view returns => ?_) returns
    refine finishes_of_talking settled known (fun _ => ?_) returns
    rw [findStart, missing]
    rfl
  | talkStartless known found startless =>
    refine finishes_of_view (fun view returns => ?_) returns
    refine finishes_of_talking settled known (fun _ => ?_) returns
    simp only [findStart, found, bind, Except.bind, startless, Option.map_none]
    rfl
  | continueNowhere nowhere =>
    refine finishes_of_view (fun view returns => ?_) returns
    exact finishes_of_current "continue_dialogue" nowhere.current returns rfl
  | continueChoices on choices =>
    refine finishes_of_view (fun view returns => ?_) returns
    obtain ⟨dialogue, current⟩ := on.current
    refine finishes_of_current "continue_dialogue" current returns ?_
    simp only [List.isEmpty_iff, choices, if_false]
  | takeElsewhere looked elsewhere =>
    refine finishes_of_view (fun view returns => ?_) returns
    refine finishes_of_logged returns fun logged kept returns => ?_
    obtain ⟨_, _, asked, returns⟩ := ok_of_bind returns
    cases asked
    obtain ⟨_, between, found, returns⟩ := ok_of_bind returns
    obtain ⟨recorded, rfl⟩ := ok_of_lift found
    rw [kept.state, looked] at recorded
    cases recorded
    rw [kept.state] at returns
    simp only [elsewhere, Bool.false_eq_true, if_false] at returns
    exact ⟨_, _, kept, returns⟩
  | travelDisabled disabled =>
    refine finishes_of_view (fun view returns => ?_) returns
    refine finishes_of_logged returns fun logged kept returns => ?_
    obtain ⟨_, _, asked, returns⟩ := ok_of_bind returns
    cases asked
    rw [kept.state] at returns
    simp only [disabled, Bool.false_eq_true, if_false] at returns
    exact ⟨_, _, kept, returns⟩
  | travelUnlisted unlisted =>
    refine finishes_of_view (fun view returns => ?_) returns
    refine finishes_of_logged returns fun logged kept returns => ?_
    obtain ⟨_, _, asked, returns⟩ := ok_of_bind returns
    cases asked
    rw [kept.state] at returns
    simp only [findRoute_eq_none unlisted, ite_self] at returns
    exact ⟨_, _, kept, returns⟩
  | @deleteUnknown id unknown =>
    refine finishes_of_view (fun view returns => ?_) returns
    refine finishes_of_logged returns fun logged kept returns => ?_
    obtain ⟨_, _, asked, returns⟩ := ok_of_bind returns
    cases asked
    obtain ⟨_, deleted, deletes, finishes⟩ := ok_of_bind returns
    have all : logged.state.notes.filter (fun note => !note.id.same id) = logged.state.notes := by
      rw [kept.state]
      exact List.filter_eq_self.mpr fun note listed => by rw [unknown note listed, Bool.not_false]
    rw [all] at deletes
    cases deletes
    exact ⟨_, _, ⟨kept.state, kept.machine, kept.notes⟩, finishes⟩

end Play

/-- In a session that has shown a view, an action that is not possible leaves the state as it is,
and the machine with its place and its history. -/
theorem impossible_changes_nothing {content : Value}
    (read : Registry.ofRecord content = .ok game.registry) (shown : Shown game session)
    {action : Action} (impossible : action.Impossible game.registry session.state) {reply : Reply}
    (returns : Play.call game (.action action) session = .ok reply next) :
    next.state = session.state ∧ next.machine = session.machine := by
  have named := registry_ofRecord_named content _ read
  have settled := shown.reachable.settled named
  obtain ⟨view, trigger, middle, kept, finishes⟩ :=
    Play.finishes_of_impossible settled impossible returns
  have cleared : middle.state.Cleared := by
    rw [kept.state]
    exact shown.cleared
  have still := Play.finish_of_settled (settled.of_kept kept) cleared finishes
  exact ⟨still.1.trans kept.state, still.2.trans kept.machine⟩

def guideWaits : Session :=
  (outcome (Play.talkTo guideGame "guide") guideSession).2

theorem guide_waits : Shown guideGame guideWaits := by
  have returns : (outcome (Play.talkTo guideGame "guide") guideSession).1.isOk := by decide +kernel
  obtain ⟨view, talks⟩ := ok_of_outcome returns
  have calls : Play.call guideGame (.action (.talkTo "guide")) guideSession =
      .ok (.view view) guideWaits := Play.bind_of_ok talks
  exact .view (.start guide_started) calls

theorem guide_placed : guideWaits.state.cursor = some ⟨"welcome", "hello"⟩ :=
  eq_of_sameOption_texts (by decide +kernel)

theorem guide_offers : guideWaits.state.On guideGame.registry guideNode :=
  ⟨guide_placed, rfl, rfl⟩

theorem impossible_changes_nothing_guide :
    Registry.ofRecord guideContent = .ok guideGame.registry ∧ Shown guideGame guideWaits ∧
      Action.continueDialogue.Impossible guideGame.registry guideWaits.state ∧
      ∃ reply next, Play.call guideGame (.action .continueDialogue) guideWaits = .ok reply next ∧
        next.state = guideWaits.state ∧ next.machine = guideWaits.machine := by
  have impossible : Action.continueDialogue.Impossible guideGame.registry guideWaits.state :=
    .continueChoices guide_offers (by simp [guideNode])
  have returns : (outcome (Play.continueDialogue guideGame) guideWaits).1.isOk := by
    decide +kernel
  obtain ⟨view, continues⟩ := ok_of_outcome returns
  have calls : Play.call guideGame (.action .continueDialogue) guideWaits = .ok (.view view) _ :=
    Play.bind_of_ok continues
  exact ⟨guide_read, guide_waits, impossible, _, _, calls,
    impossible_changes_nothing guide_read guide_waits impossible calls⟩

end Fabula
