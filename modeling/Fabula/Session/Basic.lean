import Fabula.Content.Registry
import Fabula.Phase
import Fabula.Rules.Application
import Fabula.Rules.Evaluation
import Fabula.Settings
/-!
# Sessions

A session is a state together with its roller, its run log and the machine that follows its phase.
What is played with does not change while it is played. Everything that a session does is a
computation on it that may fail; a failure keeps what has been done before it. Whatever is logged
is logged under the time that the session's clock shows at that point. Where that cannot be written,
nothing is logged: the event loses its number, and a draw fails the computation that has made it.
-/

namespace Fabula

/-- What a session is played with: the content, the settings, and the moment at which everything is
logged and saved. -/
structure Game where
  registry : Registry
  settings : Settings
  now : Moment
deriving Repr

/-- A session. The notes that have been written in it are counted, because their ids are
numbered. -/
structure Session where
  state : GameState
  roller : Roller
  log : RunLog
  machine : PhaseMachine
  notes : Nat
deriving Repr

abbrev Play (α : Type) : Type :=
  EStateM Failure Session α

def RunLog.replayRoller (log : RunLog) (entropy : Nat := 0) : Except Failure Roller :=
  Roller.replaying log.rollStream log.seed entropy

namespace Session

def clockedLog (session : Session) : RunLog :=
  { session.log with clock := some (Value.text <$> session.state.time.text) }

/-- The roller as the run log listens to it: no draw is taken where the time cannot be written. -/
def heardRoller (session : Session) : Roller :=
  { session.roller with
    refusal := match session.state.time.text with
      | .ok _ => none
      | .error failure => some failure }

def phase (session : Session) : Phase :=
  session.machine.phase

def text (session : Session) : String :=
  "Engine(location=" ++ session.state.location.quoted ++ ", phase=" ++ session.phase.name ++ ")"

end Session

namespace Play

def state : Play GameState :=
  return (← get).state

def setState (state : GameState) : Play Unit :=
  modify fun session => { session with state }

def setCursor (cursor : Option Cursor) : Play Unit :=
  modify fun session => { session with state := { session.state with cursor } }

def endDialogue : Play Unit :=
  setCursor none

def record (write : RunLog → Except Failure (Event × RunLog)) : Play Unit := do
  match write (← get).clockedLog with
  | .ok (_, log) => modify fun session => { session with log }
  | .error failure => do
    modify fun session => { session with log := session.log.skip }
    throw failure

def logAction (game : Game) (name : String) (arguments : List (String × Value)) : Play Unit :=
  record fun log =>
    log.logAction game.now name ⟨arguments.map fun argument => (.text argument.1, argument.2)⟩

def logDraw (game : Game) (draw : Draw) : Play Unit :=
  record fun log =>
    log.logRoll game.now draw.bounds draw.rolls (.int 0) draw.total draw.reason .null

/-- Hands the roller back to the session and logs the draws that it has announced since. -/
def settle (game : Game) (roller : Roller) : Play Unit := do
  let drawn := (← get).roller.draws.length
  modify fun session => { session with roller }
  ((roller.draws.drop drawn).filter (·.isWritable)).forM (logDraw game)

def rolling {α : Type} (game : Game) (computation : Rolling α) : Play α := do
  match computation (← get).heardRoller with
  | .ok result roller => do
    settle game roller
    return result
  | .error failure roller => do
    settle game roller
    throw failure

def allPass (game : Game) (conditions : List Condition) : Play Bool := do
  rolling game (Condition.allPass (← state) conditions)

def hoursBetween (before after : Clock) : Except Failure Number := do
  let days ← after.day.difference before.day
  let hours ← after.hour.difference before.hour
  return ← (← days.mul (.int Clock.hoursPerDay)).add hours

def logTimeStep (game : Game) (before after : Clock) (hours : Except Failure Number)
    (reason : String) : Play Unit := do
  let earlier ← before.text
  let later ← after.text
  let hours ← hours
  record fun log => log.logTimeStep game.now earlier later (.number hours) reason .null

def alter (game : Game) (change : GameState → Rolling GameState) (reason : String) :
    Play Unit := do
  let before ← state
  let after ← rolling game (change before)
  setState after
  if !after.time.same before.time then
    logTimeStep game before.time after.time (hoursBetween before.time after.time) reason

def perform (game : Game) (effects : List Effect) (reason : String) : Play Unit :=
  alter game (Effect.applyAll · effects) reason

def advanceClock (game : Game) (hours : Int) (reason : String) : Play Unit := do
  let before ← state
  let time ← before.time.advance (.int hours)
  setState { before with time }
  logTimeStep game before.time time (.ok (.int hours)) reason

end Play
end Fabula
