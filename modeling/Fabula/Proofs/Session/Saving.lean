import Fabula.Proofs.Session.Reachable
/-!
# Saving and loading

Between two actions a state has nothing to enter, and once a view has been shown it has no cues.
Such a state is what the end of an action leaves alone, so a session that loads it is where the
saved session was.
-/

namespace Fabula
variable {game : Game} {trigger : String} {P : Session → Prop}

def Game.showing (game : Game) : RunKind Unit where
  Begins _ session := ∃ turn : Turn, Reachable game turn.session ∧ turn.IsIn game ∧ turn.Shows ∧
    turn.after = session
  Goes _ turn _ := turn.IsIn game ∧ turn.Returns

/-- The sessions that calls of a game lead to which all return, one of them with a view. -/
def Shown (game : Game) (session : Session) : Prop :=
  Run game.showing () session

theorem Shown.view {session next : Session} {call : Call} {view : View}
    (reached : Reachable game session)
    (returns : Play.call game call session = .ok (.view view) next) : Shown game next :=
  .begin ⟨⟨game, call, session⟩, reached, ⟨game.now, rfl⟩, Turn.shows_of_ok returns,
    Turn.after_of_ok returns⟩

theorem Shown.reachable {session : Session} (shown : Shown game session) :
    Reachable game session := by
  refine Run.keeps (I := fun _ session => Reachable game session) shown ?_ ?_
    fun _ _ _ => False.elim
  · rintro _ _ ⟨turn, reached, within, ⟨view, shows⟩, rfl⟩
    exact .turn reached ⟨within, _, shows⟩
  · rintro _ turn _ goes reached
    exact .turn reached goes

def GameState.Cleared (state : GameState) : Prop :=
  state.clearCues = state

theorem Play.finish_clears {session next : Session} {view : View}
    (returns : Play.finish game trigger session = .ok view next) : next.state.Cleared := by
  rw [Play.finish_eq] at returns
  obtain ⟨_, _, _, returns⟩ := Play.ok_of_bind returns
  obtain ⟨_, _, _, returns⟩ := Play.ok_of_bind returns
  rw [GameState.Cleared, Play.ok_of_showView returns]
  rfl

theorem Ending.clears {action : Play View} (ending : Ending game trigger P action) :
    ∀ session view next, action session = .ok view next → next.state.Cleared := by
  induction ending with
  | finish _ => exact fun _ _ _ returns => Play.finish_clears returns
  | part _ _ _ ih =>
    intro session view next returns
    obtain ⟨a, between, _, returns⟩ := Play.ok_of_bind returns
    exact ih a between view next returns

theorem Answering.clears {answer : Play Reply} (answering : Answering game answer) :
    ∀ session reply next, answer session = .ok reply next →
      next.state.Cleared ∨ next.state = session.state ∧ ∀ view, reply ≠ .view view := by
  induction answering with
  | reply reply plain =>
    intro session given next returns
    cases returns
    exact .inr ⟨rfl, plain⟩
  | view ending begins =>
    intro session reply next returns
    obtain ⟨view, between, returns, replies⟩ := Play.ok_of_bind returns
    cases replies
    exact .inl (ending.clears session view _ returns)
  | before asking _ ih =>
    intro session reply next returns
    obtain ⟨a, between, asked, returns⟩ := Play.ok_of_bind returns
    rw [← (asking.keeps.of_ok asked).state]
    exact ih a between reply next returns

theorem Turn.Shows.cleared {turn : Turn} (shows : turn.Shows) : turn.after.state.Cleared := by
  obtain ⟨view, returns⟩ := shows
  rcases (Answering.call _).clears _ _ _ returns with cleared | ⟨_, plain⟩
  · exact cleared
  · exact absurd rfl (plain view)

theorem Turn.Returns.cleared {turn : Turn} (returns : turn.Returns)
    (cleared : turn.session.state.Cleared) : turn.after.state.Cleared := by
  obtain ⟨reply, returns⟩ := returns
  rcases (Answering.call _).clears _ _ _ returns with cleared | ⟨same, _⟩
  · exact cleared
  · rwa [same]

theorem Shown.cleared {session : Session} (shown : Shown game session) :
    session.state.Cleared := by
  refine Run.keeps (I := fun _ session => session.state.Cleared) shown ?_ ?_
    fun _ _ _ => False.elim
  · rintro _ _ ⟨turn, _, _, shows, rfl⟩
    exact shows.cleared
  · exact fun _ turn _ goes cleared => goes.2.cleared cleared

namespace Play

theorem keeps_requireTime : Keeps requireTime :=
  .bind (fun _ => ⟨rfl, rfl, rfl⟩) fun _ => .bind (keeps_lift _) fun _ => keeps_lift (.ok ())

theorem keeps_save (game : Game) : Keeps (save game) :=
  .bind (keeps_logAction game _ _) fun _ => .bind keeps_requireTime fun _ =>
    .bind (fun _ => ⟨rfl, rfl, rfl⟩) fun _ => keeps_lift (.ok _)

theorem ok_of_save {session next : Session} {saved : Save}
    (returns : save game session = .ok saved next) :
    saved = ⟨game.settings.saveVersion, session.state, game.now.text⟩ := by
  obtain ⟨_, logged, logs, returns⟩ := ok_of_bind returns
  obtain ⟨_, required, requires, returns⟩ := ok_of_bind returns
  obtain ⟨state, asked, asks, returns⟩ := ok_of_bind returns
  cases asks
  cases returns
  have keptLog := (keeps_logAction game _ _).of_ok logs
  have keptTime := keeps_requireTime.of_ok requires
  rw [keptTime.state, keptLog.state]

theorem finish_of_entered {session next : Session} {view : View} (entered : session.Entered)
    (cleared : session.state.Cleared) (returns : finish game trigger session = .ok view next) :
    next.state = session.state ∧ Cursor.Agree session.state.cursor next.machine.cursor := by
  rw [finish_eq, bind_of_ok (follow_of_entered entered)] at returns
  obtain ⟨_, observed, observes, returns⟩ := ok_of_bind returns
  obtain ⟨sameState, agree⟩ := ok_of_observe observes
  rw [ok_of_showView returns, sameState, quiet_showView.machine_of_ok returns, ← sameState]
  exact ⟨by rw [sameState]; exact cleared, agree⟩

theorem load_restores {saved : Save} {session next : Session} {view : View}
    (entered : ∀ cursor, saved.state.cursor = some cursor → cursor.needsStart = false)
    (cleared : saved.state.Cleared) (returns : load game saved session = .ok view next) :
    next.state = saved.state ∧ Cursor.Agree saved.state.cursor next.machine.cursor := by
  obtain ⟨_, logged, _, returns⟩ := ok_of_bind returns
  obtain ⟨_, loaded, loads, returns⟩ := ok_of_bind returns
  cases loads
  have entered : Session.Entered { logged with state := saved.state } := entered
  exact finish_of_entered entered cleared returns

end Play

/-- A session that has shown a view is restored by what it has saved. Saving leaves the state and
the machine alone, the save is read back from its record as it was, and whatever session loads it,
as a save or as a record, has the saved state afterwards, with its machine at the place of that
state. Any state that can be read from a record is read back from its own record as it was. -/
theorem save_restores {content : Value} (read : Registry.ofRecord content = .ok game.registry)
    {version : String} (versioned : game.settings.saveVersion = .text version)
    {session : Session} (shown : Shown game session) :
    session.Kept ((Play.save game).after session) ∧
      (∀ saved next, Play.save game session = .ok saved next →
        ∀ other : Game, Save.ofRecord other.now.text saved.toRecord = .ok saved ∧
          ∀ action ∈ [Action.load saved, .loadRecord saved.toRecord],
            ∀ second reply last, Play.act other action second = .ok reply last →
              last.state = session.state ∧
                Cursor.Agree session.state.cursor last.machine.cursor) ∧
      ∀ data state, GameState.ofRecord data = .ok state →
        GameState.ofRecord state.toRecord = .ok state := by
  refine ⟨Play.keeps_save game session, fun saved next returns other => ?_,
    fun _ state _ => ofRecord_toRecord state⟩
  have settled := shown.reachable.settled (registry_ofRecord_named content game.registry read)
  have contents := Play.ok_of_save returns
  have restored : Save.ofRecord other.now.text saved.toRecord = .ok saved :=
    save_ofRecord_toRecord _ (by rw [contents, versioned]) (by
      rw [contents]
      exact momentText_isPresent _)
  refine ⟨restored, fun action listed second reply last loads => ?_⟩
  -- The record of the save is read back as the save, so both actions load the same.
  have load : ∃ view, Play.load other saved second = .ok view last := by
    simp only [List.mem_cons, List.not_mem_nil, or_false] at listed
    rcases listed with rfl | rfl
    · obtain ⟨view, between, loads, replies⟩ := Play.ok_of_bind loads
      cases replies
      exact ⟨view, loads⟩
    · obtain ⟨saved, between, reads, loads⟩ := Play.ok_of_bind loads
      obtain ⟨same, rfl⟩ := Play.ok_of_lift reads
      rw [restored] at same
      cases same
      obtain ⟨view, between, loads, replies⟩ := Play.ok_of_bind loads
      cases replies
      exact ⟨view, loads⟩
  obtain ⟨view, loads⟩ := load
  have restores := Play.load_restores (by rw [contents]; exact settled.entered)
    (by rw [contents]; exact shown.cleared) loads
  rwa [contents] at restores

theorem guide_saves : ∃ view session saved next reply last,
    Play.call guideGame (.action (.talkTo "guide")) guideSession = .ok (.view view) session ∧
      Play.save guideGame session = .ok saved next ∧
      Play.act guideGame (.loadRecord saved.toRecord) guideSession = .ok reply last := by
  have runs : (outcome (do
      let _ ← Play.talkTo guideGame "guide"
      let saved ← Play.save guideGame
      set guideSession
      Play.act guideGame (.loadRecord saved.toRecord)) guideSession).1.isOk := by decide +kernel
  obtain ⟨reply, returns⟩ := ok_of_outcome runs
  obtain ⟨view, session, talks, returns⟩ := Play.ok_of_bind returns
  obtain ⟨saved, next, saves, returns⟩ := Play.ok_of_bind returns
  obtain ⟨_, _, restarts, loads⟩ := Play.ok_of_bind returns
  cases restarts
  exact ⟨view, session, saved, next, reply, _, Play.bind_of_ok talks, saves, loads⟩

theorem save_restores_guide :
    Registry.ofRecord guideContent = .ok guideGame.registry ∧
      guideGame.settings.saveVersion = .text "1.0" ∧
      ∃ session saved next reply last, Shown guideGame session ∧
        Play.save guideGame session = .ok saved next ∧
        Play.act guideGame (.loadRecord saved.toRecord) guideSession = .ok reply last ∧
        last.state = session.state := by
  obtain ⟨view, session, saved, next, reply, last, talks, saves, loads⟩ := guide_saves
  have shown := Shown.view (.start guide_started) talks
  have restores := (save_restores guide_read rfl shown).2.1 saved next saves guideGame
  have restored := restores.2 (.loadRecord saved.toRecord) (by simp) guideSession reply last loads
  exact ⟨guide_read, rfl, session, saved, next, reply, last, shown, saves, loads, restored.1⟩

end Fabula
