import Fabula.Proofs.Session.Reachable
import Fabula.Proofs.Wording
/-!
# Translation

The texts of a game's locales are resolved where a view is built and nowhere else. Two sessions that
are played side by side, in games that differ in nothing but the locales, therefore stay the same,
and their views differ in nothing but words. Main statements:

* `Mirrors.act`: one action;
* `translation_unnoticed`: any number of them.
-/

namespace Fabula

inductive Action.Alike : Action → Action → Prop
  | same (action : Action) : Alike action action
  | load {save other : Save} (state : other.state = save.state) : Alike (.load save) (.load other)

inductive Reply.Alike : Reply → Reply → Prop
  | view {view other : View} (same : view.wordless = other.wordless) :
      Alike (.view view) (.view other)
  | save {save other : Save} (version : other.version = save.version)
      (state : other.state = save.state) : Alike (.save save) (.save other)

theorem Save.pairs_ofRecord (now later : String) (data : Value) :
    Pairs (fun save other => other.state = save.state) (ofRecord now data)
      (ofRecord later data) := by
  unfold ofRecord
  split
  · dsimp only
    split
    · exact .bind_same fun _ => .bind_same fun _ => .pure rfl
    · intro _ _ holds
      cases holds
  · intro _ _ holds
    cases holds

namespace Mirrors
variable {game : Game} {locales : Table (Table Value)} {now : Moment}

theorem finish (trigger : String) :
    Mirrors Session.Twin (InvImage Eq View.wordless) (Play.finish game trigger)
      (Play.finish (game.translated locales now) trigger) :=
  .bind_same .follow fun _ => .bind_same (.observe trigger) fun _ => .bind_same .state fun _ =>
    .bind (.rolling (View.mirrors_build locales)) fun _ _ same =>
      .bind_same .state fun _ => .bind_same (.setState _) fun _ => .pure same

theorem newGame (setup : Setup) :
    Mirrors Session.Twin (InvImage Eq View.wordless) (Play.newGame game setup)
      (Play.newGame (game.translated locales now) setup) :=
  .bind_same (.logAction _ _) fun _ => .bind_same (.setState (.initial game setup)) fun _ =>
    .bind_same .requireTime fun _ => .bind_same .fireTriggers fun _ => .finish _

theorem load {save other : Save} (state : other.state = save.state) :
    Mirrors Session.Twin (InvImage Eq View.wordless) (Play.load game save)
      (Play.load (game.translated locales now) other) := by
  unfold Play.load
  rw [state]
  exact .bind_same (.record rfl) fun _ => .bind_same (.setState save.state) fun _ => .finish _

theorem save :
    Mirrors Session.Twin (fun save other => other.version = save.version ∧ other.state = save.state)
      (Play.save game) (Play.save (game.translated locales now)) :=
  .bind_same (.logAction _ _) fun _ => .bind_same .requireTime fun _ =>
    .bind_same .state fun _ => .pure ⟨rfl, rfl⟩

theorem selectChoice (id : Value) :
    Mirrors Session.Twin (InvImage Eq View.wordless) (Play.selectChoice game id)
      (Play.selectChoice (game.translated locales now) id) := by
  refine .bind_same (.logAction _ _) fun _ => .bind_same .currentNode fun found => ?_
  cases found with
  | none => exact .finish _
  | some place =>
    dsimp only
    split
    · exact .bind_same (.take _ _ _) fun _ => .finish _
    · exact .finish _

theorem talkTo (id : Value) :
    Mirrors Session.Twin (InvImage Eq View.wordless) (Play.talkTo game id)
      (Play.talkTo (game.translated locales now) id) := by
  refine .bind_same (.logAction _ _) fun _ =>
    .bind_same (.lift (.refl (game.registry.characters.lookup id))) fun found => ?_
  cases found with
  | none => exact .finish _
  | some character =>
    dsimp only
    split
    · exact .bind_same (.enter .follow _) fun _ => .finish _
    · exact .finish _

theorem continueDialogue :
    Mirrors Session.Twin (InvImage Eq View.wordless) (Play.continueDialogue game)
      (Play.continueDialogue (game.translated locales now)) := by
  refine .bind_same (.logAction _ _) fun _ => .bind_same .currentNode fun found => ?_
  cases found with
  | none => exact .finish _
  | some place =>
    dsimp only
    split
    · exact .bind_same (.hop _ _) fun _ => .finish _
    · exact .finish _

theorem takeItem (item : Value) :
    Mirrors Session.Twin (InvImage Eq View.wordless) (Play.takeItem game item)
      (Play.takeItem (game.translated locales now) item) := by
  refine .bind_same (.logAction _ _) fun _ => .bind_same .state fun state =>
    .bind_same (.lift (.refl _)) fun place => ?_
  dsimp only
  split
  · exact .bind_same (.lift (.refl _)) fun _ => .bind_same (.setState _) fun _ => .finish _
  · exact .finish _

theorem travelTo (location : Value) :
    Mirrors Session.Twin (InvImage Eq View.wordless) (Play.travelTo game location)
      (Play.travelTo (game.translated locales now) location) := by
  refine .bind_same (.logAction _ _) fun _ => .bind_same .state fun state => ?_
  have route : Play.findRoute (game.translated locales now) state.location location =
      Play.findRoute game state.location location := rfl
  simp only [route]
  split
  · split
    · exact .bind_same (.travelAlong _ _ _ _) fun _ => .finish _
    · exact .finish _
  · exact .finish _

theorem writeNote (title text : Value) :
    Mirrors Session.Twin (InvImage Eq View.wordless) (Play.writeNote game title text)
      (Play.writeNote (game.translated locales now) title text) := by
  refine .bind_same (.edit fun _ _ twin => { twin with notes := by rw [twin.notes] }) fun _ =>
    .bind .get fun session sessionOther twin => ?_
  rw [twin.notes]
  exact .bind_same (.logAction _ _) fun _ => .bind_same .state fun _ =>
    .bind_same (.setState _) fun _ => .finish _

theorem deleteNote (id : Value) :
    Mirrors Session.Twin (InvImage Eq View.wordless) (Play.deleteNote game id)
      (Play.deleteNote (game.translated locales now) id) :=
  .bind_same (.logAction _ _) fun _ => .bind_same .state fun _ =>
    .bind_same (.setState _) fun _ => .finish _

theorem setLocale (locale : Value) :
    Mirrors Session.Twin (InvImage Eq View.wordless) (Play.setLocale game locale)
      (Play.setLocale (game.translated locales now) locale) :=
  .bind_same (.logAction _ _) fun _ => .bind_any fun _ _ => .bind_same .state fun _ =>
    .bind_same (.setState _) fun _ => .finish _

theorem debug (effects : List Effect) (label : Value) :
    Mirrors Session.Twin (InvImage Eq View.wordless) (Play.debug game effects label)
      (Play.debug (game.translated locales now) effects label) :=
  .bind_same (.logAction _ _) fun _ => .bind_same (.alter _ _) fun _ => .finish _

theorem replies {action other : Play View}
    (same : Mirrors Session.Twin (InvImage Eq View.wordless) action other) :
    Mirrors Session.Twin Reply.Alike (do return .view (← action)) (do return .view (← other)) :=
  .bind same fun _ _ same => .pure (.view same)

theorem act {action other : Action} (alike : action.Alike other) :
    Mirrors Session.Twin Reply.Alike (Play.act game action)
      (Play.act (game.translated locales now) other) := by
  cases alike with
  | load state => exact .replies (.load state)
  | same =>
    cases action with
    | newGame setup => exact .replies (.newGame setup)
    | load save => exact .replies (.load rfl)
    | loadRecord data =>
      exact .bind (.lift (Save.pairs_ofRecord _ _ data)) fun _ _ state => .replies (.load state)
    | save => exact .bind .save fun _ _ same => .pure (.save same.1 same.2)
    | selectChoice id => exact .replies (.selectChoice id)
    | talkTo character => exact .replies (.talkTo character)
    | continueDialogue => exact .replies .continueDialogue
    | takeItem item => exact .replies (.takeItem item)
    | travelTo location => exact .replies (.travelTo location)
    | writeNote title text => exact .replies (.writeNote title text)
    | deleteNote id => exact .replies (.deleteNote id)
    | setLocale locale => exact .replies (.setLocale locale)
    | look => exact .replies (.finish _)
    | debug effects label => exact .replies (.debug effects label)

end Mirrors

/-- Sessions that have been played side by side in a game with one or the other locales: with the
same dice, the same state to start from and the same actions, all of which have returned. Neither
need be played at the same moments. -/
inductive Abreast (game : Game) (here there : Table (Table Value)) : Session → Session → Prop
  | start {now later : Moment} {roller : Roller} {notes : Nat} {state : Option GameState}
      {session other : Session}
      (started : Session.start (game.translated here now) roller notes state = .ok session)
      (startedOther : Session.start (game.translated there later) roller notes state = .ok other) :
      Abreast game here there session other
  | act {now later : Moment} {session other next nextOther : Session} {action actionOther : Action}
      {reply replyOther : Reply} (abreast : Abreast game here there session other)
      (alike : action.Alike actionOther)
      (returns : Play.act (game.translated here now) action session = .ok reply next)
      (returnsOther : Play.act (game.translated there later) actionOther other =
        .ok replyOther nextOther) :
      Abreast game here there next nextOther

theorem Session.new_twin (game : Game) (here there : Table (Table Value)) (now later : Moment)
    (roller : Roller) (notes : Nat) :
    (Session.new (game.translated here now) roller notes).Twin
      (.new (game.translated there later) roller notes) :=
  ⟨rfl, rfl, rfl, rfl, rfl, rfl, rfl⟩

theorem Session.start_twin {game : Game} {here there : Table (Table Value)} {now later : Moment}
    {roller : Roller} {notes : Nat} {state : Option GameState} {session other : Session}
    (started : Session.start (game.translated here now) roller notes state = .ok session)
    (startedOther : Session.start (game.translated there later) roller notes state = .ok other) :
    session.Twin other := by
  have new := Session.new_twin game here there now later roller notes
  cases state with
  | none =>
    cases started
    cases startedOther
    exact new
  | some state =>
    have resumes : Mirrors Session.Twin Eq (Session.resume (game.translated here now) state)
        (Session.resume (game.translated there later) state) :=
      .bind_same (.setState state) fun _ => .bind_same .follow fun _ => .observe "load_game"
    exact (resumes _ _ new _ _ _ _ (resume_of_start started) (resume_of_start startedOther)).1

theorem Abreast.twin {game : Game} {here there : Table (Table Value)} {session other : Session}
    (abreast : Abreast game here there session other) : session.Twin other := by
  induction abreast with
  | start started startedOther => exact Session.start_twin started startedOther
  | @act now later _ _ _ _ _ _ _ _ _ alike returns returnsOther ih =>
    exact (Mirrors.act alike _ _ ih _ _ _ _ returns returnsOther).1

/-- Sessions that have been played side by side are the same in their states, their machines and so
their phases, and their rollers with all that these have drawn. Their logs are the same but for the
moments. So it stays with one more action, and the replies to this are the same but for words. -/
theorem translation_unnoticed {game : Game} {here there : Table (Table Value)}
    {session other : Session} (abreast : Abreast game here there session other)
    {now later : Moment} {action actionOther : Action} (alike : action.Alike actionOther)
    {reply replyOther : Reply} {next nextOther : Session}
    (returns : Play.act (game.translated here now) action session = .ok reply next)
    (returnsOther : Play.act (game.translated there later) actionOther other =
      .ok replyOther nextOther) :
    session.Twin other ∧ next.Twin nextOther ∧ reply.Alike replyOther :=
  ⟨abreast.twin, Mirrors.act alike _ _ abreast.twin _ _ _ _ returns returnsOther⟩

def phrasebook : Table (Table Value) :=
  ⟨[(.text "en", ⟨[(.text "hello", "Good day")]⟩)]⟩

def abroadGame : Game :=
  guideGame.translated phrasebook ⟨2025, 6, 1, 12, 30, 0, 0, none⟩

def abroadSession : Session :=
  .new abroadGame guideRoller 0

def talked (game : Game) : Session :=
  (outcome (Play.talkTo game "guide") (.new game guideRoller 0)).2

def hailing : Action :=
  .debug [.notify "@hello"] "hail"

theorem act_talkTo {game : Game}
    (talks : (outcome (Play.talkTo game "guide") (.new game guideRoller 0)).1.isOk) :
    ∃ reply, Play.act game (.talkTo "guide") (.new game guideRoller 0) =
      .ok reply (talked game) := by
  obtain ⟨view, returned⟩ := ok_of_outcome talks
  exact ⟨.view view, Play.bind_of_ok returned⟩

theorem talked_abreast : Abreast guideGame ∅ phrasebook (talked guideGame) (talked abroadGame) := by
  have talks : (outcome (Play.talkTo guideGame "guide") guideSession).1.isOk := by decide +kernel
  have talksOther : (outcome (Play.talkTo abroadGame "guide") abroadSession).1.isOk := by
    decide +kernel
  obtain ⟨reply, returns⟩ := act_talkTo talks
  obtain ⟨replyOther, returnsOther⟩ := act_talkTo talksOther
  have started : Session.start (guideGame.translated ∅ guideGame.now) guideRoller 0 none =
      .ok guideSession := rfl
  have startedOther : Session.start abroadGame guideRoller 0 none = .ok abroadSession := rfl
  exact .act (.start started startedOther) (.same _) returns returnsOther

def hailed (game : Game) : Option (List String) :=
  (outcome (Play.debug game [.notify "@hello"] "hail") (talked game)).1.toOption.map
    (·.notifications.map Value.display)

theorem act_hailing {game : Game} {words : List String} (heard : hailed game = some words) :
    ∃ view next, Play.act game hailing (talked game) = .ok (.view view) next ∧
      view.notifications.map Value.display = words := by
  unfold hailed at heard
  cases run : Play.debug game [.notify "@hello"] "hail" (talked game) with
  | error failure next =>
    rw [outcome_of_error run] at heard
    cases heard
  | ok view next =>
    rw [outcome_of_ok run] at heard
    exact ⟨view, next, Play.bind_of_ok run, Option.some.inj heard⟩

/-- The guide is hailed in other words, and nothing else is other than before. -/
theorem translation_unnoticed_hail : ∃ view next viewOther nextOther,
    Abreast guideGame ∅ phrasebook (talked guideGame) (talked abroadGame) ∧
      hailing.Alike hailing ∧
      Play.act guideGame hailing (talked guideGame) = .ok (.view view) next ∧
      Play.act abroadGame hailing (talked abroadGame) = .ok (.view viewOther) nextOther ∧
      view.notifications.map Value.display = ["@hello"] ∧
      viewOther.notifications.map Value.display = ["Good day"] ∧
      (talked guideGame).Twin (talked abroadGame) ∧ next.Twin nextOther ∧
      Reply.Alike (.view view) (.view viewOther) := by
  have heard : hailed guideGame = some ["@hello"] := by decide +kernel
  have heardOther : hailed abroadGame = some ["Good day"] := by decide +kernel
  obtain ⟨view, next, returns, words⟩ := act_hailing heard
  obtain ⟨viewOther, nextOther, returnsOther, wordsOther⟩ := act_hailing heardOther
  have unnoticed := translation_unnoticed talked_abreast (.same hailing) returns returnsOther
  exact ⟨view, next, viewOther, nextOther, talked_abreast, .same hailing, returns, returnsOther,
    words, wordsOther, unnoticed⟩

end Fabula
