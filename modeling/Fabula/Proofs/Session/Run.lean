import Fabula.Proofs.Session.Answering
/-!
# Runs

In a run every call is made of the session that the call before has left. Kinds of runs differ in
where they begin and in what carries them on. A session of any of them can be saved, and what loads
the save goes on with the same run. `Run.keeps` is the induction that all of them share.
-/

namespace Fabula
variable {ι : Type} {game : Game}

def Game.at (game : Game) (now : Moment) : Game :=
  { game with now }

structure Turn where
  game : Game
  call : Call
  session : Session

namespace Turn

def after (turn : Turn) : Session :=
  Play.after (Play.call turn.game turn.call) turn.session

def IsIn (turn : Turn) (game : Game) : Prop :=
  ∃ now, turn.game = game.at now

def Returns (turn : Turn) : Prop :=
  ∃ reply, Play.call turn.game turn.call turn.session = .ok reply turn.after

def Shows (turn : Turn) : Prop :=
  ∃ view, Play.call turn.game turn.call turn.session = .ok (.view view) turn.after

/-- Whether a call that replaces the state comes to do so: it returns, or the state is another one
when it fails. -/
def Begins (turn : Turn) : Prop :=
  ∀ failure next, Play.call turn.game turn.call turn.session = .error failure next →
    next.state ≠ turn.session.state

def Resumes (turn : Turn) (holder : Session) : Prop :=
  ∃ other saved left, Play.call other (.action .save) holder = .ok (.save saved) left ∧
    (turn.call = .action (.load saved) ∨ turn.call = .action (.loadRecord saved.toRecord))

theorem after_of_ok {call : Call} {session next : Session} {reply : Reply}
    (returns : Play.call game call session = .ok reply next) :
    (⟨game, call, session⟩ : Turn).after = next :=
  Play.after_of_ok returns

theorem returns_of_ok {call : Call} {session next : Session} {reply : Reply}
    (returns : Play.call game call session = .ok reply next) :
    (⟨game, call, session⟩ : Turn).Returns :=
  ⟨reply, by rwa [after_of_ok returns]⟩

theorem returns_of_isOk {turn : Turn}
    (returns : (outcome (Play.call turn.game turn.call) turn.session).1.isOk) : turn.Returns :=
  ok_of_outcome returns

theorem shows_of_ok {call : Call} {session next : Session} {view : View}
    (returns : Play.call game call session = .ok (.view view) next) :
    (⟨game, call, session⟩ : Turn).Shows :=
  ⟨view, by rwa [after_of_ok returns]⟩

theorem Returns.begins {turn : Turn} (returns : turn.Returns) : turn.Begins := by
  intro failure next fails
  obtain ⟨reply, same⟩ := returns
  rw [same] at fails
  cases fails

end Turn

/-- What makes up the runs of a kind. The index is what is remembered of a run. -/
structure RunKind (ι : Type) where
  Begins : ι → Session → Prop
  Goes : ι → Turn → ι → Prop
  Loads : Turn → Prop := fun _ => False

inductive Run (kind : RunKind ι) : ι → Session → Prop
  | begin {index : ι} {session : Session} (begins : kind.Begins index session) :
      Run kind index session
  | turn {index next : ι} {turn : Turn} (run : Run kind index turn.session)
      (goes : kind.Goes index turn next) : Run kind next turn.after
  | load {index : ι} {holder : Session} {turn : Turn} (holds : Run kind index holder)
      (resumes : turn.Resumes holder) (loads : kind.Loads turn) : Run kind index turn.after

/-- What holds where runs of a kind begin holds in all of them, if every turn preserves it and it
passes from a session to what loads its save. -/
theorem Run.keeps {kind : RunKind ι} {I : ι → Session → Prop} {index : ι} {session : Session}
    (run : Run kind index session)
    (begins : ∀ index session, kind.Begins index session → I index session)
    (goes : ∀ index turn next, kind.Goes index turn next → I index turn.session →
      I next turn.after)
    (loads : ∀ index holder turn, kind.Loads turn → turn.Resumes holder → I index holder →
      I index turn.after) : I index session := by
  induction run with
  | begin started => exact begins _ _ started
  | turn _ carries ih => exact goes _ _ _ carries ih
  | load _ resumes permitted ih => exact loads _ _ _ permitted resumes ih

end Fabula
