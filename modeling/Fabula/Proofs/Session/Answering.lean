import Fabula.Proofs.Session.Ending
import Fabula.Proofs.State.Record
/-!
# How calls are answered

A session is asked for actions, for commands of the console, and for what a line typed there spells.
Whatever it is asked for, it first asks and logs, and then either makes one action or replies
without a view. `Answering` says so, and one lemma for each kind of call shows it; what holds of
every call is proved by induction on it.
-/

namespace Fabula
variable {α β : Type} {game : Game} {trigger : String} {P : Session → Prop}

inductive Call where
  | action (action : Action)
  | command (command : Command)
  | line (line : String)

def Play.call (game : Game) : Call → Play Reply
  | .action action => act game action
  | .command command => run game command
  | .line line => runLine game line

theorem Failure.OfSave.not_isTransition {failure : Failure} (ofSave : failure.OfSave) :
    ¬ failure.IsTransition := by
  rcases ofSave with ofValue | ⟨fault, rfl⟩
  · exact ofValue.not_isTransition
  · exact id

/-- Steps that ask or log and change nothing else. -/
inductive Asking : {α : Type} → Play α → Prop
  | lift {α : Type} {result : Except Failure α}
      (permitted : FailsOnly (¬ ·.IsTransition) result) : Asking (liftM result)
  | ask {α : Type} {question : Session → Except Failure α}
      (fails : ∀ session, FailsOnly Failure.OfValue (question session))
      (same : ∀ session other : Session, session.Level other →
        question other = question session) :
      Asking (Play.ask question)
  | record (event : Event) (other : event.kind ≠ .roll) :
      Asking (Play.record fun log => log.record event)

namespace Asking

theorem lift_ofValue {result : Except Failure α} (fails : FailsOnly Failure.OfValue result) :
    Asking (liftM result) :=
  .lift (fails.imp fun _ => Failure.OfValue.not_isTransition)

theorem state : Asking Play.state :=
  show Asking (Play.ask fun session => .ok session.state) from
    .ask (fun _ => failsOnly_ok _) fun _ _ level => by rw [level.state]

theorem keeps {first : Play α} (asking : Asking first) : first.Keeps := by
  cases asking with
  | lift permitted => exact Play.keeps_lift _
  | ask fails alike => exact fun session => Play.keeps_lift _ session
  | record event other => exact Play.keeps_record _

theorem permitted {first : Play α} (asking : Asking first) {session next : Session}
    {failure : Failure} (fails : first session = .error failure next) :
    ¬ failure.IsTransition := by
  cases asking with
  | lift permitted =>
    rename_i result
    cases result with
    | ok a => cases fails
    | error fault =>
      cases fails
      exact permitted _ rfl
  | ask ofValue alike =>
    exact (Play.failsOfValue_lift (ofValue session) _ _ _ fails).not_isTransition
  | record event other =>
    exact (Play.failsOfValue_recordEvent event _ _ _ fails).not_isTransition

end Asking

/-- Computations that ask and log, and then make one action or reply without a view. -/
inductive Answering (game : Game) : Play Reply → Prop
  | reply (reply : Reply) (plain : ∀ view, reply ≠ .view view) : Answering game (pure reply)
  | view {trigger : String} {P : Session → Prop} {action : Play View}
      (ending : Ending game trigger P action)
      (begins : ∀ session : Session, session.Rests → P session) :
      Answering game (action >>= fun view => pure (.view view))
  | before {α : Type} {first : Play α} {next : α → Play Reply} (asking : Asking first)
      (rest : ∀ a, Answering game (next a)) : Answering game (first >>= next)

namespace Answering

theorem value (value : Value) : Answering game (pure (.value value)) :=
  .reply _ fun _ same => by cases same

theorem freely {action : Play View} (ending : Ending game trigger (·.Frees trigger) action)
    (enters : ⟨.idle, .inDialogue, trigger⟩ ∈ Transition.table)
    (leaves : ⟨.inDialogue, .idle, trigger⟩ ∈ Transition.table) :
    Answering game (action >>= fun view => pure (.view view)) :=
  .view ending fun session _ => session.frees_of_both enters leaves

theorem rested {action : Play View} (ending : Ending game trigger Session.Rests action) :
    Answering game (action >>= fun view => pure (.view view)) :=
  .view ending fun _ rests => rests

theorem save : Answering game (Play.act game .save) := by
  simp only [Play.act, Play.save, Play.requireTime, bind_assoc, pure_bind]
  exact .before (.record _ (by simp [RunLog.unlogged, Event.kind, Happening.kind])) fun _ =>
    .before .state fun _ => .before (.lift_ofValue (clockText_failsOnly _)) fun _ =>
      .before .state fun _ => .reply _ fun _ same => by cases same

theorem act (action : Action) : Answering game (Play.act game action) := by
  cases action with
  | newGame setup => exact .freely (.newGame setup) (by decide) (by decide)
  | load save => exact .freely (.load save) (by decide) (by decide)
  | loadRecord data =>
    exact .before (.lift ((save_failsOnly _ data).imp fun _ => Failure.OfSave.not_isTransition))
      fun save => .freely (.load save) (by decide) (by decide)
  | save => exact .save
  | selectChoice id => exact .rested (.selectChoice id)
  | talkTo character => exact .freely (.talkTo character) (by decide) (by decide)
  | continueDialogue => exact .rested .continueDialogue
  | takeItem item => exact .rested (.takeItem item)
  | travelTo location => exact .freely (.travelTo location) (by decide) (by decide)
  | writeNote title text => exact .rested (.writeNote title text)
  | deleteNote id => exact .rested (.deleteNote id)
  | setLocale locale => exact .rested (.setLocale locale)
  | look => exact .rested .look
  | debug effects label =>
    exact .freely (.intervene label fun state => drawn_applyAll state effects)
      (by decide) (by decide)

theorem update_failsOnly (state : GameState) (command : Command) :
    FailsOnly Failure.OfValue (command.update state) := by
  cases command with
  | addItem item => simp [Command.update, Command.handle, addItem_failsOnly]
  | _ => simp [Command.update, Command.handle]

theorem change (label : String) (command : Command) :
    Answering game (Play.change game label command) :=
  .freely (.intervene _ fun state => .lift (update_failsOnly state command)) (by decide)
    (by decide)

theorem refuse (given : Value) : Answering game (Play.refuse given) :=
  .before (.lift_ofValue (writable_failsOnly _)) fun _ => .value _

theorem run (command : Command) : Answering game (Play.run game command) := by
  cases command with
  | setFlag flag => exact .change _ _
  | clearFlag flag => exact .change _ _
  | setVariable name value => exact .change _ _
  | getVariable name =>
    exact .before .state fun _ => .before (.lift_ofValue (lookup_failsOnly _ _)) fun _ =>
      .before (.lift_ofValue (writable_failsOnly _)) fun _ => .value _
  | teleport location =>
    refine .before (.lift_ofValue (lookup_failsOnly _ _)) fun found => ?_
    cases found with
    | none => exact .refuse _
    | some known => exact .change _ _
  | triggerDialogue dialogue =>
    refine .before (.lift_ofValue (findStart_failsOnly game dialogue)) fun found => ?_
    cases found with
    | none => exact .refuse _
    | some place => exact .change _ _
  | setQuestStage quest stage => exact .change _ _
  | addItem item =>
    refine .before .state fun state => ?_
    split
    · exact .refuse _
    · exact .change _ _
  | removeItem item =>
    refine .before .state fun state => ?_
    split
    · exact .change _ _
    · exact .refuse _
  | inspect =>
    -- The report is read off the whole session, but says nothing about the roller and the log.
    show Answering game (Play.ask Session.report >>= fun report => pure (.value (.text report)))
    refine .before (.ask report_failsOnly fun session other level => ?_) fun _ => .value _
    simp [Session.report, Session.setFlags, Session.phase, PhaseMachine.phase, level.state,
      level.cursor]
  | inspectState => exact .before .state fun _ => .value _
  | inspectRegistry => exact .value _

theorem commandWords_failsOnly (line : String) :
    FailsOnly Failure.OfValue (Play.commandWords line) := by
  unfold Play.commandWords
  cases Text.shellWords line with
  | ok words => exact failsOnly_ok words
  | error fault => exact (failsOnly_error _).2 trivial

theorem argumentsOfWords_failsOnly (name : String) (words : List String) :
    FailsOnly Failure.OfValue (Command.argumentsOfWords name words) := by
  unfold Command.argumentsOfWords
  split <;> simp

theorem runLine (line : String) : Answering game (Play.runLine game line) := by
  refine .before (.lift_ofValue (commandWords_failsOnly line)) fun words => ?_
  cases words with
  | nil => exact .value _
  | cons name words =>
    dsimp only
    split
    · exact .value .null
    · refine .before (.lift_ofValue (argumentsOfWords_failsOnly name words)) fun arguments => ?_
      split
      · exact .before (.record _ (by simp [RunLog.unlogged, Event.kind, Happening.kind]))
          fun _ => .run _
      · exact .value _

theorem call (call : Call) : Answering game (Play.call game call) := by
  cases call with
  | action action => exact .act action
  | command command => exact .run command
  | line line => exact .runLine line

end Answering
end Fabula
