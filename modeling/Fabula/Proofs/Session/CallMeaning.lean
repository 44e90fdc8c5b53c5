import Fabula.Proofs.Session.Deed
/-!
# What is told of a call

A call that answers with a view opens with at most one deed that gives up the state it finds. From
there its deeds lead all the way to the state that the view shows, whose cues are then cleared. Main
statements:

* `meaning_of_call`: what a call that answers with a view has done;
* `Answering.state_of_plain`: any other call leaves the state alone.
-/

namespace Fabula
variable {α : Type} {game : Game}

def Action.resets : Action → Bool
  | .newGame _ | .load _ | .loadRecord _ => true
  | _ => false

def Call.resets : Call → Bool
  | .action asked => asked.resets
  | _ => false

/-- The state that a call goes on from, with the deed that leads there if it is not the state that
the call finds. -/
inductive Call.Opening (game : Game) (before : GameState) : Call → List Deed → GameState → Prop
  | newGame (setup : Setup) :
      Opening game before (.action (.newGame setup)) [.begin setup] (.initial game setup)
  | load (save : Save) : Opening game before (.action (.load save)) [.restore save.state] save.state
  | loadRecord {data : Value} {save : Save} (read : Save.ofRecord game.now.text data = .ok save) :
      Opening game before (.action (.loadRecord data)) [.restore save.state] save.state
  | other {call : Call} (goesOn : call.resets = false) : Opening game before call [] before

namespace Telling

def Shows (game : Game) (state : GameState) (view : View) : Prop :=
  ∃ roller rolled, View.build game.registry game.settings state roller = .ok view rolled

def ViewAccount (game : Game) (telling : Telling Reply) : Prop :=
  ∀ account view last, telling account = .ok (.view view) last → ∃ deeds shown,
    last.deeds = account.deeds ++ deeds ++ [.clear] ∧ Path game account.session.state deeds shown ∧
      Shows game shown view ∧ last.session.state = shown.clearCues

namespace ViewAccount

theorem after {first : Telling α} {next : α → Telling Reply}
    (early : Tells game (fun _ => True) first fun _ _ => True)
    (rest : ∀ a, ViewAccount game (next a)) : ViewAccount game (first >>= next) := by
  intro account view last returns
  obtain ⟨a, between, starts, returns⟩ := Play.ok_of_bind returns
  obtain ⟨deeds, told, path, _⟩ := early account trivial a between starts
  obtain ⟨later, shown, toldLater, pathLater, shows⟩ := rest a between view last returns
  refine ⟨deeds ++ later, shown, ?_, path.append pathLater, shows⟩
  rw [toldLater, told]
  simp only [List.append_assoc]

theorem after_lift {result : Except Failure α} {next : α → Telling Reply}
    (rest : ∀ a, ViewAccount game (next a)) : ViewAccount game (liftM result >>= next) := by
  intro account view last told
  obtain ⟨a, between, asked, returns⟩ := Play.ok_of_bind told
  obtain ⟨_, rfl⟩ := ok_of_lift asked
  exact rest a between view last returns

theorem plainly (computation : Play Reply)
    (plain : ∀ session view next, computation session ≠ .ok (.view view) next) :
    ViewAccount game (silently computation) := by
  intro account view last told
  obtain ⟨next, returns, rfl⟩ := ok_of_silently told
  exact absurd returns (plain _ _ _)

theorem nothing : ViewAccount game (silently Play.nothing) :=
  .plainly _ fun _ _ _ returns => by cases returns

theorem refuse (given : Value) : ViewAccount game (silently (Play.refuse given)) := by
  refine .plainly _ fun session view next returns => ?_
  obtain ⟨_, _, _, returns⟩ := Play.ok_of_bind returns
  cases returns

theorem finish (trigger : String) :
    ViewAccount game (Telling.finish game trigger >>= fun view => Pure.pure (.view view)) := by
  intro account view last returns
  obtain ⟨_, _, finishes, replies⟩ := Play.ok_of_bind returns
  cases replies
  obtain ⟨_, _, follows, returns⟩ := Play.ok_of_bind finishes
  obtain ⟨deeds, followed, path, _⟩ :=
    Tells.follow (P := fun _ => True) account trivial _ _ follows
  obtain ⟨_, _, told, returns⟩ := Play.ok_of_bind returns
  obtain ⟨observed, observes, rfl⟩ := ok_of_silently told
  obtain ⟨same, _⟩ := Play.ok_of_observe observes
  obtain ⟨_, _, asks, returns⟩ := Play.ok_of_bind returns
  cases asks
  obtain ⟨built, _, told, returns⟩ := Play.ok_of_bind returns
  obtain ⟨rolled, builds, rfl⟩ := ok_of_silently told
  have kept := (Play.keeps_rolling game _).of_ok builds
  obtain ⟨roller, shows⟩ := Play.ok_of_rolling builds
  obtain ⟨_, _, asks, returns⟩ := Play.ok_of_bind returns
  cases asks
  cases returns
  refine ⟨deeds, observed.state, ?_, same ▸ path, ⟨_, roller, shows⟩, ?_⟩
  · exact congrArg (· ++ _) followed
  · exact congrArg GameState.clearCues kept.state

theorem change (label : String) (command : Command) :
    ViewAccount game (Telling.change game label command) := by
  refine .after (.silent (.logAction _ _)) fun _ => .after (.alter fun before after _ _ done => ?_)
    fun _ => .finish "debug"
  cases updates : command.update before with
  | ok updated =>
    simp only [updates] at done
    cases done
    exact .command updates
  | error failure =>
    simp only [updates] at done
    cases done

theorem run (command : Command) : ViewAccount game (Telling.run game command) := by
  cases command with
  | setFlag flag => exact .change _ _
  | clearFlag flag => exact .change _ _
  | setVariable name value => exact .change _ _
  | teleport location =>
    refine .after_lift fun found => ?_
    cases found with
    | none => exact .refuse _
    | some known => exact .change _ _
  | triggerDialogue dialogue =>
    refine .after_lift fun found => ?_
    cases found with
    | none => exact .refuse _
    | some place => exact .change _ _
  | setQuestStage quest stage => exact .change _ _
  | addItem item =>
    refine .after (.silent .state) fun state => ?_
    split
    · exact .refuse _
    · exact .change _ _
  | removeItem item =>
    refine .after (.silent .state) fun state => ?_
    split
    · exact .change _ _
    · exact .refuse _
  | getVariable name =>
    refine .plainly _ fun session view next returns => ?_
    obtain ⟨_, _, _, returns⟩ := Play.ok_of_bind returns
    obtain ⟨_, _, _, returns⟩ := Play.ok_of_bind returns
    cases returns
  | inspect =>
    refine .plainly _ fun session view next returns => ?_
    obtain ⟨_, _, _, returns⟩ := Play.ok_of_bind returns
    cases returns
  | inspectState =>
    exact .plainly (Play.run game .inspectState) fun _ _ _ returns => by cases returns
  | inspectRegistry =>
    exact .plainly (Play.run game .inspectRegistry) fun _ _ _ returns => by cases returns

theorem runLine (line : String) : ViewAccount game (Telling.runLine game line) := by
  refine .after_lift fun words => ?_
  cases words with
  | nil => exact .nothing
  | cons name words =>
    dsimp only
    split
    · exact .nothing
    · refine .after_lift fun arguments => ?_
      cases Command.of? name arguments with
      | some command =>
        exact .after (.silent (Play.keeps_logCommand game _ _).stays) fun _ => .run command
      | none => exact .nothing

theorem act {action : Action} (goesOn : action.resets = false) :
    ViewAccount game (Telling.act game action) := by
  have ends {action : Action} {trigger : String}
      (tells : Tells game (fun _ => True) (Telling.lead game action) fun _ _ => True) :
      ViewAccount game (Telling.lead game action >>= fun _ =>
        Telling.finish game trigger >>= fun view =>
        Pure.pure (.view view)) :=
    .after tells fun _ => .finish trigger
  cases action with
  | newGame setup => cases goesOn
  | load saved => cases goesOn
  | loadRecord data => cases goesOn
  | save =>
    intro account view last returns
    obtain ⟨_, _, _, returns⟩ := Play.ok_of_bind returns
    cases returns
  | selectChoice id => exact ends (.selectChoice id)
  | talkTo id => exact ends (.talkTo id)
  | continueDialogue => exact ends .continueDialogue
  | takeItem item => exact ends (.takeItem item)
  | travelTo location => exact ends (.travelTo location)
  | writeNote title text => exact ends (.writeNote title text)
  | deleteNote id => exact ends (.deleteNote id)
  | setLocale locale => exact ends (.setLocale locale)
  | look => exact ends (.pure ())
  | debug effects label => exact ends (.after (.logAction _ _) fun _ => .perform _ _)

theorem call {call : Call} (goesOn : call.resets = false) :
    ViewAccount game (Telling.call game call) := by
  cases call with
  | action action => exact .act goesOn
  | command command => exact .run command
  | line line => exact .runLine line

end ViewAccount

theorem ok_of_stays {computation : Play Unit} {next : Unit → Telling α} {account last : Account}
    {a : α} (quiet : computation.Stays)
    (told : (silently computation >>= next) account = .ok a last) :
    ∃ between, between.session.state = account.session.state ∧ between.deeds = account.deeds ∧
      next () between = .ok a last := by
  obtain ⟨_, _, asked, returns⟩ := Play.ok_of_bind told
  obtain ⟨session, asks, rfl⟩ := ok_of_silently asked
  exact ⟨⟨session, account.deeds⟩, (quiet.of_ok asks).state, rfl, returns⟩

theorem ok_of_put {deed : Deed} {state : GameState} {account last : Account}
    (returns : put deed state account = .ok () last) :
    last.session.state = state ∧ last.deeds = account.deeds ++ [deed] := by
  cases returns
  exact ⟨rfl, rfl⟩

theorem ok_of_load {save : Save} {account last : Account}
    (returns : load game save account = .ok () last) :
    last.session.state = save.state ∧ last.deeds = account.deeds ++ [.restore save.state] := by
  obtain ⟨logged, _, told, returns⟩ := ok_of_stays (.logAction _ _) returns
  obtain ⟨same, put⟩ := ok_of_put returns
  exact ⟨same, by rw [put, told]⟩

theorem ok_of_begin {setup : Setup} {account last : Account}
    (returns : lead game (.newGame setup) account = .ok () last) :
    ∃ deeds, last.deeds = account.deeds ++ [.begin setup] ++ deeds ∧
      Path game (.initial game setup) deeds last.session.state := by
  obtain ⟨logged, _, told, returns⟩ := ok_of_stays (.logAction _ _) returns
  obtain ⟨_, begun, begins, returns⟩ := Play.ok_of_bind returns
  obtain ⟨initial, put⟩ := ok_of_put begins
  obtain ⟨timed, same, toldTime, returns⟩ := ok_of_stays .requireTime returns
  obtain ⟨deeds, fired, path, _⟩ :=
    Tells.fireTriggers (P := fun _ => True) timed trivial () last returns
  refine ⟨deeds, ?_, ?_⟩
  · rw [fired, toldTime, put, told]
  · rwa [same, initial] at path

end Telling

/-- What is known of a call that has answered with a view: its deeds open with one that leads to the
state that it goes on from, and lead from there to the state that the view shows. -/
structure CallMeaning (game : Game) (call : Call) (session next : Session) (view : View)
    (opening deeds : List Deed) (start shown : GameState) : Prop where
  opens : call.Opening game session.state opening start
  tells : Telling.call game call ⟨session, []⟩ =
    .ok (.view view) ⟨next, opening ++ deeds ++ [.clear]⟩
  path : Path game start deeds shown
  shows : Telling.Shows game shown view
  clears : next.state = shown.clearCues

namespace CallMeaning

theorem of_viewAccount {call : Call} {session next : Session} {view : View} {deeds : List Deed}
    (ends : Telling.ViewAccount game (Telling.call game call))
    (opens : call.Opening game session.state [] session.state)
    (tells : Telling.call game call ⟨session, []⟩ = .ok (.view view) ⟨next, deeds⟩) :
    ∃ opening deeds start shown,
      CallMeaning game call session next view opening deeds start shown := by
  obtain ⟨deeds, shown, rfl, path, shows, clears⟩ := ends ⟨session, []⟩ view _ tells
  exact ⟨[], deeds, _, shown, opens, tells, path, shows, clears⟩

theorem of_opened {call : Call} {session next : Session} {view : View} {led : Account}
    {opening early deeds : List Deed} {start : GameState} {trigger : String}
    (opens : call.Opening game session.state opening start) (told : led.deeds = opening ++ early)
    (path : Path game start early led.session.state)
    (ends : (Telling.finish game trigger >>= fun view => pure (Reply.view view)) led =
      .ok (.view view) ⟨next, deeds⟩)
    (tells : Telling.call game call ⟨session, []⟩ = .ok (.view view) ⟨next, deeds⟩) :
    ∃ opening deeds start shown,
      CallMeaning game call session next view opening deeds start shown := by
  obtain ⟨later, shown, toldLast, pathLast, shows, clears⟩ :=
    Telling.ViewAccount.finish trigger led view ⟨next, deeds⟩ ends
  refine ⟨opening, early ++ later, start, shown, opens, ?_, path.append pathLast, shows, clears⟩
  have all : deeds = opening ++ (early ++ later) ++ [.clear] := by
    rw [told] at toldLast
    simpa using toldLast
  rw [tells, all]

end CallMeaning

theorem meaning_of_call {call : Call} {session next : Session} {view : View}
    (returns : Play.call game call session = .ok (.view view) next) :
    ∃ opening deeds start shown,
      CallMeaning game call session next view opening deeds start shown := by
  -- The call that is told of is the same call.
  obtain ⟨deeds, tells⟩ : ∃ deeds,
      Telling.call game call ⟨session, []⟩ = .ok (.view view) ⟨next, deeds⟩ := by
    have retells : Retells (Telling.call game call) (Play.call game call) := retells_call call
    have same := retells ⟨session, []⟩
    rw [outcome_of_ok returns] at same
    cases tells : Telling.call game call ⟨session, []⟩ with
    | ok reply last =>
      rw [outcome_of_ok tells] at same
      cases same
      exact ⟨last.deeds, rfl⟩
    | error failure last =>
      rw [outcome_of_error tells] at same
      cases same
  cases resets : call.resets with
  | false => exact CallMeaning.of_viewAccount (.call resets) (.other resets) tells
  | true =>
    cases call with
    | command command => cases resets
    | line line => cases resets
    | action action =>
      cases action with
      | newGame setup =>
        obtain ⟨_, led, leads, ends⟩ := Play.ok_of_bind tells
        obtain ⟨early, told, path⟩ := Telling.ok_of_begin leads
        exact CallMeaning.of_opened (.newGame setup) told path ends tells
      | load save =>
        obtain ⟨_, led, leads, ends⟩ := Play.ok_of_bind tells
        obtain ⟨same, told⟩ := Telling.ok_of_load leads
        have path : Path game save.state [] led.session.state := same ▸ .nil _
        exact CallMeaning.of_opened (.load save) told path ends tells
      | loadRecord data =>
        obtain ⟨_, led, leads, ends⟩ := Play.ok_of_bind tells
        obtain ⟨save, _, reads, loads⟩ := Play.ok_of_bind leads
        obtain ⟨read, rfl⟩ := Telling.ok_of_lift reads
        obtain ⟨same, told⟩ := Telling.ok_of_load loads
        have path : Path game save.state [] led.session.state := same ▸ .nil _
        exact CallMeaning.of_opened (.loadRecord read) told path ends tells
      | _ => cases resets

theorem Answering.state_of_plain {answer : Play Reply} (answering : Answering game answer) :
    ∀ session reply next, answer session = .ok reply next → (∀ view, reply ≠ .view view) →
      next.state = session.state := by
  induction answering with
  | reply reply plain =>
    intro session given next returns _
    cases returns
    rfl
  | view ending begins =>
    intro session reply next returns plain
    obtain ⟨view, between, _, replies⟩ := Play.ok_of_bind returns
    cases replies
    exact absurd rfl (plain view)
  | before asking _ ih =>
    intro session reply next returns plain
    obtain ⟨a, between, asked, returns⟩ := Play.ok_of_bind returns
    rw [ih a between reply next returns plain, (asking.keeps.of_ok asked).state]

end Fabula
