import Fabula.Proofs.Session.Beside
import Fabula.Proofs.Session.Rerun
/-!
# Looking

A look enters what waits to be entered, shows what is pending, and asks the conditions of choices,
which may roll. Where nothing waits and nothing is pending, it therefore changes nothing but the
dice, and it changes these only by drawing. Main statements:

* `look_level`: what a look leaves alone;
* `looks_unseen`: looks that nobody draws after are not seen in the answers to other calls;
* `looks_seen`: those that somebody draws after can be, and so can those that follow a failure.
-/

namespace Fabula
variable {α β : Type} {game : Game}

structure Session.Still (session : Session) : Prop extends session.Settled where
  cleared : session.state.Cleared

def Game.poising (game : Game) : RunKind Unit where
  Begins _ session := (∃ now roller notes, session = .new (game.at now) roller notes) ∨
    ∃ turn : Turn, turn.IsIn game ∧ turn.Shows ∧ turn.after = session
  Goes _ turn _ := turn.IsIn game ∧ turn.Returns

/-- The sessions in which no call has failed since the last one that showed a view, or since the
session was new. -/
def Poised (game : Game) (session : Session) : Prop :=
  Run game.poising () session

theorem Session.Still.of_level {session other : Session} (still : session.Still)
    (level : session.Level other) : other.Still := by
  refine ⟨Session.settled_of_agree ?_ ?_, ?_⟩
  · rw [level.state, level.cursor]
    exact still.sameCursor
  · rw [Session.Entered, level.state]
    exact still.entered
  · rw [level.state]
    exact still.cleared

theorem Poised.still (named : game.registry.Named) {session : Session}
    (poised : Poised game session) : session.Still := by
  refine Run.keeps (I := fun _ session => session.Still) poised ?_ ?_ fun _ _ _ => False.elim
  · rintro _ _ (⟨now, roller, notes, rfl⟩ | ⟨turn, ⟨now, same⟩, shows, rfl⟩)
    · exact ⟨Session.settled_of_agree (.inl rfl) (fun cursor found => by cases found), rfl⟩
    · exact ⟨turn.settled_of_shows (by rwa [same]) shows, shows.cleared⟩
  · rintro _ turn _ ⟨⟨now, same⟩, returns⟩ still
    exact ⟨turn.settled (by rwa [same]) returns still.toSettled, returns.cleared still.cleared⟩

namespace Play

def KeepsNotes (computation : Play α) : Prop :=
  ∀ session, (after computation session).notes = session.notes

theorem KeepsNotes.bind {first : Play α} {next : α → Play β} (keeps : KeepsNotes first)
    (rest : ∀ a, KeepsNotes (next a)) : KeepsNotes (first >>= next) :=
  after_bind (R := fun session next => next.notes = session.notes)
    (fun early late => late.trans early) keeps rest

theorem keepsNotes_takeStep (game : Game) (step : Step) : KeepsNotes (takeStep game step) :=
  .bind (fun _ => rfl) fun _ => .bind (fun session => (keeps_record _ session).notes) fun _ _ => rfl

theorem keepsNotes_observe (game : Game) (trigger : String) :
    KeepsNotes (observe game trigger) := by
  intro session
  rw [after, outcome, observe_eq]
  refine KeepsNotes.bind (fun session => (keeps_lift _ session).notes) (fun step => ?_) session
  cases step with
  | some step => exact keepsNotes_takeStep game step
  | none => exact fun _ => rfl

theorem observe_level (game : Game) (trigger : String) {session : Session}
    (settled : session.Settled) : session.Level (after (observe game trigger) session) := by
  have notes := keepsNotes_observe game trigger session
  cases run : observe game trigger session with
  | error failure next =>
    rw [after_of_error run] at notes ⊢
    obtain ⟨unmoved, _⟩ := error_of_observe run
    exact ⟨unmoved.state, unmoved.cursor, notes⟩
  | ok a next =>
    rw [after_of_ok run] at notes ⊢
    obtain ⟨state, ⟨_, machine⟩ | ⟨other, moved⟩⟩ := moves_of_observe run
    · exact ⟨state, by rw [machine], notes⟩
    · have place := settled.sameCursor.resolve_right other
      exact ⟨state, moved.trans place, notes⟩

theorem showView_level (game : Game) {session : Session} (cleared : session.state.Cleared) :
    session.Level (after (showView game) session) := by
  have kept := keeps_rolling game (View.build game.registry game.settings session.state) session
  have asked : (outcome Play.state session).1 = .ok session.state := rfl
  rw [after, showView, outcome_bind_of_ok asked]
  show session.Level (outcome _ session).2
  rw [outcome_bind]
  cases (outcome (rolling game (View.build game.registry game.settings session.state))
    session).1 with
  | error failure => exact ⟨kept.state, by rw [← kept.machine]; rfl, kept.notes⟩
  | ok view =>
    refine ⟨?_, by rw [← kept.machine]; rfl, kept.notes⟩
    exact (congrArg GameState.clearCues kept.state).trans cleared

theorem look_level (game : Game) {session : Session} (still : session.Still) :
    session.Level (after (look game) session) := by
  have observed := observe_level game "get_snapshot" still.toSettled
  have looks : after (look game) session =
      after (observe game "get_snapshot" >>= fun _ => showView game) session := by
    rw [after, outcome, look, finish_eq, bind_of_ok (follow_of_entered still.entered)]
    rfl
  rw [looks, after, outcome_bind]
  cases (outcome (observe game "get_snapshot") session).1 with
  | error failure => exact observed
  | ok _ => exact observed.trans (showView_level game (still.of_level observed).cleared)

end Play

namespace Session

def looked (game : Game) : List Moment → Session → Session
  | [], session => session
  | now :: looks, session =>
    looked game looks (Play.after (Play.call (game.at now) (.action .look)) session)

def answersLooking (game : Game) :
    List (Moment × Call × List Moment) → Session → List Answer × Session
  | [], session => ([], session)
  | (now, call, looks) :: calls, session =>
    let (first, between) := answer (game.at now) call session
    let (others, last) := answersLooking game calls (looked game looks between)
    (first :: others, last)

end Session

def LookDraws (game : Game) (looks : List Moment) (session : Session) : Prop :=
  ∃ now ∈ looks, ¬ Play.Undrawn (Play.call (game.at now) (.action .look)) session

/-- Whether looks disturb no call of a run that goes on from a session, without the looks: each
follows a call at which the session is poised, and once one of them has drawn, none of the calls
draws. -/
def Undisturbed (game : Game) : Prop → List (Moment × Call × List Moment) → Session → Prop
  | _, [], _ => True
  | drawn, (now, call, looks) :: calls, session =>
    let next := Play.after (Play.call (game.at now) call) session
    (drawn → Play.Undrawn (Play.call (game.at now) call) session) ∧
      (looks ≠ [] → Poised game next) ∧
      Undisturbed game (drawn ∨ LookDraws game looks next) calls next

def withoutLooks (calls : List (Moment × Call × List Moment)) : List (Moment × Call) :=
  calls.map fun (now, call, _) => (now, call)

theorem Play.Agrees.answers {call : Call} {session other : Session}
    (agrees : Play.Agrees (Play.call game call) session other) :
    (Session.answer game call other).1 = (Session.answer game call session).1 := by
  have level : (outcome (Play.call game call) session).2.Level
      (outcome (Play.call game call) other).2 := agrees.level
  simp only [Session.answer, Session.phase, PhaseMachine.phase, agrees.answer, level.state,
    level.cursor]

theorem call_regular (game : Game) (call : Call) : (Play.call game call).Regular :=
  (Answering.call call).regular

theorem Session.Beside.look {session other : Session} (beside : session.Beside other)
    (still : other.Still) :
    session.Beside (Play.after (Play.call game (.action .look)) other) := by
  have looks : Play.after (Play.call game (.action .look)) other =
      Play.after (Play.look game) other := by
    show (outcome (Play.look game >>= fun view => pure (Reply.view view)) other).2 = _
    rw [outcome_bind, Play.after]
    cases (outcome (Play.look game) other).1 <;> rfl
  refine ⟨beside.toLevel.trans ?_, beside.sound,
    (call_regular game (.action .look)).replays.sound beside.otherSound⟩
  rw [looks]
  exact Play.look_level game still

theorem Session.Beside.looked {session other : Session} (looks : List Moment)
    (beside : session.Beside other) (still : session.Still) :
    session.Beside (other.looked game looks) ∧
      (other.dice = session.dice → ¬ LookDraws game looks session →
        (other.looked game looks).dice = session.dice) := by
  induction looks generalizing other with
  | nil => exact ⟨beside, fun same _ => same⟩
  | cons now looks ih =>
    have looked : session.Beside (Play.after (Play.call (game.at now) (.action .look)) other) :=
      beside.look (still.of_level beside.toLevel)
    obtain ⟨last, dice⟩ := ih looked
    refine ⟨last, fun same undrawn => ?_⟩
    have idle : Play.Undrawn (Play.call (game.at now) (.action .look)) session :=
      Classical.byContradiction fun draws => undrawn ⟨now, List.mem_cons_self, draws⟩
    have agrees := (call_regular (game.at now) (.action .look)).goesAlike session other beside
      (.inl same)
    exact dice ((agrees.idle idle).trans same)
      fun ⟨later, listed, draws⟩ => undrawn ⟨later, List.mem_cons_of_mem _ listed, draws⟩

theorem Session.Beside.looked_alike {session other : Session} {drawn : Prop}
    (looks : List Moment) (beside : session.Beside other)
    (alike : other.dice = session.dice ∨ drawn) (still : looks ≠ [] → session.Still) :
    session.Beside (other.looked game looks) ∧
      ((other.looked game looks).dice = session.dice ∨ drawn ∨ LookDraws game looks session) := by
  by_cases none : looks = []
  · subst none
    exact ⟨beside, alike.imp_right .inl⟩
  · obtain ⟨last, dice⟩ := beside.looked looks (still none)
    by_cases draws : LookDraws game looks session
    · exact ⟨last, .inr (.inr draws)⟩
    · exact ⟨last, alike.imp (fun same => dice same draws) .inl⟩

theorem answersLooking_eq (named : game.registry.Named)
    (calls : List (Moment × Call × List Moment)) :
    ∀ (drawn : Prop) (session other : Session), session.Beside other →
      other.dice = session.dice ∨ drawn → Undisturbed game drawn calls session →
      (other.answersLooking game calls).1 = (session.answers game (withoutLooks calls)).1 := by
  induction calls with
  | nil => exact fun _ _ _ _ _ _ => rfl
  | cons entry calls ih =>
    obtain ⟨now, call, looks⟩ := entry
    intro drawn session other beside alike undisturbed
    obtain ⟨undrawn, poised, rest⟩ := undisturbed
    have regular := call_regular (game.at now) call
    have agrees := regular.goesAlike session other beside (alike.imp_right undrawn)
    have between : (Play.after (Play.call (game.at now) call) session).Beside
        (Play.after (Play.call (game.at now) call) other) :=
      ⟨agrees.level, regular.replays.sound beside.sound, regular.replays.sound beside.otherSound⟩
    obtain ⟨last, alike⟩ := between.looked_alike looks (alike.imp_left agrees.dice) fun some =>
      (poised some).still named
    show (Session.answer (game.at now) call other).1 :: _ =
      (Session.answer (game.at now) call session).1 :: _
    rw [agrees.answers]
    exact congrArg _ (ih _ _ _ last alike rest)

theorem start_sound {roller : Roller} {notes : Nat} {state : Option GameState} {session : Session}
    (started : Session.start game roller notes state = .ok session) : session.log.Sound := by
  obtain ⟨_, _, _, begun, _⟩ := traced_start started
  exact begun.sound

/-- Looks are not seen in the answers to the other calls of a run, whether these return or fail: not
in what they return, in the state, or in the phase. -/
theorem looks_unseen {content : Value} (read : Registry.ofRecord content = .ok game.registry)
    {roller : Roller} {notes : Nat} {state : Option GameState} {session : Session}
    (started : Session.start game roller notes state = .ok session)
    {calls : List (Moment × Call × List Moment)}
    (undisturbed : Undisturbed game False calls session) :
    (session.answersLooking game calls).1 = (session.answers game (withoutLooks calls)).1 := by
  have sound := start_sound started
  exact answersLooking_eq (registry_ofRecord_named content game.registry read) calls False session
    session ⟨⟨rfl, rfl, rfl⟩, sound, sound⟩ (.inl rfl) undisturbed

def guideLooks : List (Moment × Call × List Moment) :=
  [(guideGame.now, guideAsks.call, [guideGame.now, guideGame.now]),
    (guideGame.now, .action (.selectChoice "bye"), [])]

theorem guide_asks : guideAsks.Shows := by
  obtain ⟨view, next, talks, _⟩ := guide_talks
  exact Turn.shows_of_ok talks

theorem guide_undisturbed : Undisturbed guideGame False guideLooks guideSession := by
  have idle : Play.Undrawn (Play.call guideGame (.action .look)) guideAsks.after := by
    refine (call_regular guideGame (.action .look)).replays.undrawn_of_length ?_ (by decide +kernel)
    exact (call_regular guideGame _).replays.sound (start_sound guide_started)
  have poised : Poised guideGame guideAsks.after :=
    .begin (.inr ⟨guideAsks, ⟨guideGame.now, rfl⟩, guide_asks, rfl⟩)
  have draws : ¬ LookDraws guideGame [guideGame.now, guideGame.now] guideAsks.after := by
    rintro ⟨now, listed, draws⟩
    obtain rfl : now = guideGame.now := by simpa using listed
    exact draws idle
  exact ⟨nofun, fun _ => poised, fun drawn => absurd (drawn.resolve_left id) draws, nofun, trivial⟩

theorem looks_unseen_guide :
    Registry.ofRecord guideContent = .ok guideGame.registry ∧
      Session.start guideGame guideRoller 0 none = .ok guideSession ∧
      Undisturbed guideGame False guideLooks guideSession ∧
      (guideSession.answersLooking guideGame guideLooks).1 =
        (guideSession.answers guideGame (withoutLooks guideLooks)).1 :=
  ⟨guide_read, guide_started, guide_undisturbed,
    looks_unseen guide_read guide_started guide_undisturbed⟩

/-- Whether a bet is offered is rolled for, so that a look at the table rolls too. A ghost adds half
a coin to the gold of a player, which fails if there is too much of it. -/
def tableContent : Value :=
  .object [
    ("characters", .list [.object [("id", "dealer"), ("dialogue", "table")]]),
    ("dialogues", .list [.object [("id", "table"), ("nodes", .list [.object [("id", "deal"),
      ("choices", .list [.object [("id", "bet"), ("conditions", .list ["roll 1 6 1"]),
        ("effects", .list ["ROLL luck 1 6"])]])]])]]),
    ("interludes", .list [.object [("id", "ghost"), ("text", "Boo."), ("trigger_location", "crypt"),
      ("effects", .list [.object [("type", "addVariable"), ("variable", "gold"),
        ("value", .float 0.5)]])]])]

def dealNode : Node where
  id := "deal"
  speaker := .null
  text := ""
  voice := .null
  portrait := .null
  choices := [⟨"bet", "", "", [.roll 1 6 (.int 1)], [.roll "luck" 1 6]⟩]
  effects := []
  branches := []
  next := .null

def ghost : Interlude where
  id := "ghost"
  background := ""
  text := "Boo."
  banner := .null
  music := .null
  voice := .null
  sounds := []
  scroll := .null
  scrollSpeed := .null
  triggerLocation := "crypt"
  conditions := []
  effects := [.addVariable "gold" (.float 0.5)]

def tableRegistry : Registry :=
  { guideRegistry with
    characters := ⟨[(.text "dealer", ⟨"dealer", "dealer", "", "", "", "table", ∅⟩)]⟩
    dialogues := ⟨[(.text "table", ⟨"table", "deal", [dealNode], .null, []⟩)]⟩
    interludes := ⟨[(.text "ghost", ghost)]⟩ }

def tableGame : Game :=
  { guideGame with registry := tableRegistry }

def tableRoller : Roller :=
  { guideRoller with recording := some (.ofStream [.int 3, .int 4, .int 5]) }

def tableSession : Session :=
  .new tableGame tableRoller 0

def dealing : Moment × Call := (tableGame.now, .action (.talkTo "dealer"))

def betting : Moment × Call := (tableGame.now, .action (.selectChoice "bet"))

def haunting : Moment × Call :=
  (tableGame.now, .action (.newGame
    ⟨"crypt", .start, ∅, ⟨[(.text "gold", .int (.ofNat (Nat.pow 10 400)))]⟩, []⟩))

def noting : Moment × Call := (tableGame.now, .action (.writeNote "ghost" "Boo!"))

def lookedAt : Moment × Call → Moment × Call × List Moment
  | (now, call) => (now, call, [now])

def unlooked : Moment × Call → Moment × Call × List Moment
  | (now, call) => (now, call, [])

def luck (answers : List Answer) : List (Option Int) :=
  answers.map fun answer => (answer.state.bindings.getOrNull "luck").int?

def hauntings (answers : List Answer) : List Bool :=
  answers.map fun answer =>
    match answer.result with
    | .ok (.view view) => view.interlude.isSome
    | _ => false

/-- A look at the table draws what the bet would have drawn, though every call returns. A look at
the ghost, after the start of the game has failed, takes what the note would have shown. -/
theorem looks_seen :
    Registry.ofRecord tableContent = .ok tableGame.registry ∧
      Session.start tableGame tableRoller 0 none = .ok tableSession ∧
      (tableSession.answers tableGame [dealing, betting]).1.all (·.result.isOk) ∧
      (tableSession.answersLooking tableGame [lookedAt dealing, unlooked betting]).1 ≠
        (tableSession.answers tableGame [dealing, betting]).1 ∧
      (tableSession.answersLooking tableGame [lookedAt haunting, unlooked noting]).1 ≠
        (tableSession.answers tableGame [haunting, noting]).1 := by
  refine ⟨rfl, rfl, by decide +kernel, fun same => ?_, fun same => ?_⟩
  · exact absurd (congrArg luck same) (by decide +kernel)
  · exact absurd (congrArg hauntings same) (by decide +kernel)

end Fabula
