import Fabula.Proofs.Session.Run
/-!
# Reachable sessions

A session is reached from its start by calls that return, each made at a moment of its own. Every
reachable session is settled, and the machine refuses nothing that is asked of it. This holds for
all content, all settings and all states to start from, because each trigger permits the changes of
the phase that its own action can make.
-/

namespace Fabula
variable {α : Type} {game : Game}

def Game.returning (game : Game) : RunKind Unit where
  Begins _ session := ∃ now roller notes state,
    Session.start (game.at now) roller notes state = .ok session
  Goes _ turn _ := turn.IsIn game ∧ turn.Returns

/-- The sessions that calls of a game lead to which all return. -/
def Reachable (game : Game) (session : Session) : Prop :=
  Run game.returning () session

theorem Reachable.start {roller : Roller} {notes : Nat} {state : Option GameState}
    {session : Session} (started : Session.start game roller notes state = .ok session) :
    Reachable game session :=
  .begin ⟨game.now, roller, notes, state, started⟩

theorem Reachable.call {session next : Session} {call : Call} {reply : Reply}
    (reached : Reachable game session) (returns : Play.call game call session = .ok reply next) :
    Reachable game next := by
  rw [← Turn.after_of_ok returns]
  exact .turn reached ⟨⟨game.now, rfl⟩, Turn.returns_of_ok returns⟩

namespace Answering

theorem permitted {answer : Play Reply} (answering : Answering game answer) :
    ∀ session failure next, session.Settled → answer session = .error failure next →
      ¬ failure.IsTransition := by
  induction answering with
  | reply reply plain => exact fun _ _ _ _ fails => by cases fails
  | view ending begins =>
    intro session failure next settled fails
    obtain early | ⟨_, _, _, late⟩ := Play.error_of_bind fails
    · exact (ending.failsOfValue session (begins session settled.toRests) _ _
        early).not_isTransition
    · cases late
  | before asking _ ih =>
    intro session failure next settled fails
    obtain early | ⟨a, between, returns, late⟩ := Play.error_of_bind fails
    · exact asking.permitted early
    · exact ih a between failure next (settled.of_kept (asking.keeps.of_ok returns)) late

theorem settles (named : game.registry.Named) {answer : Play Reply}
    (answering : Answering game answer) :
    ∀ session reply next, session.Settled → answer session = .ok reply next → next.Settled := by
  induction answering with
  | reply reply plain =>
    intro session given next settled returns
    cases returns
    exact settled
  | view ending begins =>
    intro session reply next _ returns
    obtain ⟨view, between, returns, replies⟩ := Play.ok_of_bind returns
    cases replies
    exact ending.settles named session view _ returns
  | before asking _ ih =>
    intro session reply next settled returns
    obtain ⟨a, between, asked, returns⟩ := Play.ok_of_bind returns
    exact ih a between reply next (settled.of_kept (asking.keeps.of_ok asked)) returns

theorem settles_of_view (named : game.registry.Named) {answer : Play Reply}
    (answering : Answering game answer) :
    ∀ session view next, answer session = .ok (.view view) next → next.Settled := by
  induction answering with
  | reply reply plain =>
    intro session view next returns
    cases returns
    exact absurd rfl (plain view)
  | view ending _ =>
    intro session view next returns
    obtain ⟨_, between, returns, replies⟩ := Play.ok_of_bind returns
    cases replies
    exact ending.settles named _ _ _ returns
  | before _ _ ih =>
    intro session view next returns
    obtain ⟨a, between, _, returns⟩ := Play.ok_of_bind returns
    exact ih a between view next returns

end Answering

theorem resume_of_start {roller : Roller} {notes : Nat} {state : GameState} {session : Session}
    (started : Session.start game roller notes (some state) = .ok session) :
    Session.resume game state (.new game roller notes) = .ok () session := by
  simp only [Session.start] at started
  cases resumed : Session.resume game state (Session.new game roller notes) with
  | error failure next => simp [resumed] at started
  | ok done next =>
    simp only [resumed, Except.ok.injEq] at started
    rw [started]

theorem start_settled (named : game.registry.Named) {roller : Roller} {notes : Nat}
    {state : Option GameState} {session : Session}
    (started : Session.start game roller notes state = .ok session) : session.Settled := by
  cases state with
  | none =>
    cases started
    exact Session.settled_of_agree (.inl rfl) fun cursor found => by cases found
  | some state =>
    obtain ⟨_, between, _, resumed⟩ := Play.ok_of_bind (resume_of_start started)
    obtain ⟨led, followed, follows, observes⟩ := Play.ok_of_bind resumed
    obtain ⟨sameState, agree⟩ := Play.ok_of_observe observes
    refine Session.settled_of_agree agree fun cursor found => ?_
    rw [sameState] at found
    exact Play.follow_enters named between trivial led followed follows cursor found

theorem Turn.settled_of_shows {turn : Turn} (named : turn.game.registry.Named)
    (shows : turn.Shows) : turn.after.Settled := by
  obtain ⟨view, returned⟩ := shows
  exact (Answering.call turn.call).settles_of_view named _ _ _ returned

theorem Turn.settled {turn : Turn} (named : turn.game.registry.Named) (returns : turn.Returns)
    (settled : turn.session.Settled) : turn.after.Settled := by
  obtain ⟨reply, returned⟩ := returns
  exact (Answering.call turn.call).settles named _ _ _ settled returned

theorem Reachable.settled (named : game.registry.Named) {session : Session}
    (reached : Reachable game session) : session.Settled := by
  refine Run.keeps (I := fun _ session => session.Settled) reached ?_ ?_ fun _ _ _ => False.elim
  · rintro _ session ⟨now, roller, notes, state, started⟩
    have namedThen : (game.at now).registry.Named := named
    exact start_settled namedThen started
  · rintro _ turn _ ⟨⟨now, same⟩, returns⟩ settled
    exact turn.settled (by rwa [same]) returns settled

/-- Whatever is asked of a reachable session, the machine does not refuse the change of the phase.
When the call returns, the machine is at the place of the state, in the phase of that place, and no
dialogue waits to be entered. -/
theorem call_settles {content : Value} (read : Registry.ofRecord content = .ok game.registry)
    {session : Session} (reached : Reachable game session) (call : Call) :
    (∀ failure next, Play.call game call session = .error failure next →
        ¬ failure.IsTransition) ∧
      ∀ reply next, Play.call game call session = .ok reply next → next.Settled := by
  have named := registry_ofRecord_named content game.registry read
  have answering : Answering game (Play.call game call) := .call call
  have settled := reached.settled named
  exact ⟨fun failure next => answering.permitted session failure next settled,
    fun reply next => answering.settles named session reply next settled⟩

/-- A guide has a dialogue of one node, which rolls and lets an hour pass. -/
def guideContent : Value :=
  .object [
    ("characters", .list [.object [("id", "guide"), ("dialogue", "welcome")]]),
    ("dialogues", .list [.object [("id", "welcome"), ("nodes", .list [.object [("id", "hello"),
      ("effects", .list ["ROLL luck 1 6", "ADVANCE time 1"]),
      ("choices", .list [.object [("id", "bye")]])]])]])]

def guideNode : Node where
  id := "hello"
  speaker := .null
  text := ""
  voice := .null
  portrait := .null
  choices := [⟨"bye", "", "", [], []⟩]
  effects := [.roll "luck" 1 6, .advanceTime (.int 1)]
  branches := []
  next := .null

def guideRegistry : Registry where
  locations := ∅
  characters := ⟨[(.text "guide", ⟨"guide", "guide", "", "", "", "welcome", ∅⟩)]⟩
  items := ∅
  maps := ∅
  dialogues := ⟨[(.text "welcome", ⟨"welcome", "hello", [guideNode], .null, []⟩)]⟩
  quests := ∅
  journal := ∅
  interludes := ∅
  locales := ∅

def guideGame : Game where
  registry := guideRegistry
  settings := .standard
  now := ⟨2024, 1, 1, 0, 0, 0, 0, none⟩

def guideRoller : Roller where
  seed := .int 0
  source := .ofSeed 0
  draws := []
  recording := some (.ofStream [.int 4])
  refusal := none

def guideSession : Session :=
  .new guideGame guideRoller 0

theorem guide_talks : ∃ view next,
    Play.call guideGame (.action (.talkTo "guide")) guideSession = .ok (.view view) next ∧
      next.phase = .inDialogue := by
  have returns : (outcome (Play.talkTo guideGame "guide") guideSession).1.isOk := by decide +kernel
  have talks : (outcome (Play.talkTo guideGame "guide") guideSession).2.phase = .inDialogue := by
    decide +kernel
  obtain ⟨view, returned⟩ := ok_of_outcome returns
  exact ⟨view, _, Play.bind_of_ok returned, talks⟩

theorem guide_started : Session.start guideGame guideRoller 0 none = .ok guideSession := rfl

theorem guide_read : Registry.ofRecord guideContent = .ok guideGame.registry := rfl

theorem call_settles_guide :
    Registry.ofRecord guideContent = .ok guideGame.registry ∧ Reachable guideGame guideSession ∧
      ∃ reply next, Play.call guideGame (.action (.talkTo "guide")) guideSession = .ok reply next ∧
        next.phase = .inDialogue ∧ next.Settled := by
  obtain ⟨view, next, returns, talks⟩ := guide_talks
  have reached := Reachable.start guide_started
  have settles := call_settles guide_read reached (.action (.talkTo "guide"))
  exact ⟨guide_read, reached, .view view, next, returns, talks, settles.2 _ next returns⟩

end Fabula
