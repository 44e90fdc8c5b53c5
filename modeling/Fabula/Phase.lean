import Fabula.RunLog
import Fabula.State.Basic
/-!
# Phases

A session is idle or in a dialogue. After every action the place in the dialogue is observed: a
change of the phase must be one that the action's trigger permits, and every change of place is
recorded. What is not permitted is refused and leaves no trace.
-/

namespace Fabula

inductive Phase where
  | idle
  | inDialogue
deriving DecidableEq, Repr

namespace Phase

def name : Phase → String
  | .idle => "idle"
  | .inDialogue => "in_dialogue"

def ofName (value : Value) : Except Failure Phase :=
  match [idle, inDialogue].find? fun phase => value.same phase.name with
  | some phase => .ok phase
  | none => .error (.unsuitable (.phaseName value))

def ofCursor : Option Cursor → Phase
  | none => .idle
  | some _ => .inDialogue

end Phase

structure Transition where
  source : Phase
  target : Phase
  trigger : String
deriving DecidableEq, Repr

def Transition.table : List Transition := [
  ⟨.idle, .inDialogue, "new_game"⟩,
  ⟨.idle, .inDialogue, "load_game"⟩,
  ⟨.idle, .inDialogue, "talk_to"⟩,
  ⟨.idle, .inDialogue, "travel"⟩,
  ⟨.idle, .inDialogue, "debug"⟩,
  ⟨.inDialogue, .idle, "new_game"⟩,
  ⟨.inDialogue, .idle, "load_game"⟩,
  ⟨.inDialogue, .idle, "talk_to"⟩,
  ⟨.inDialogue, .idle, "select_choice"⟩,
  ⟨.inDialogue, .idle, "continue_dialogue"⟩,
  ⟨.inDialogue, .idle, "travel"⟩,
  ⟨.inDialogue, .idle, "debug"⟩]

def Cursor.describe : Option Cursor → String
  | none => Phase.idle.name
  | some cursor =>
    Phase.inDialogue.name ++ "(" ++ cursor.dialogue.display ++ ":" ++ cursor.node.display ++ ")"

structure Step where
  source : Option Cursor
  target : Option Cursor
  trigger : Value
  context : Value
deriving Repr

def Step.toRecord (step : Step) : Value :=
  .object [("from_state", Cursor.describe step.source), ("to_state", Cursor.describe step.target),
    ("trigger", step.trigger), ("context", step.context)]

/-- What is known about the place of a session: where it is and how it came there. Hooks are called
after every recorded step; their calls are kept with the number of the hook. -/
structure PhaseMachine where
  cursor : Option Cursor
  history : List Step
  hooks : Nat
  calls : List (Nat × Step)
deriving Repr

namespace PhaseMachine

def new : PhaseMachine :=
  ⟨none, [], 0, []⟩

def phase (machine : PhaseMachine) : Phase :=
  .ofCursor machine.cursor

/-- Whether a trigger permits to be in a phase next. Staying in a phase is always permitted, and
nothing but a key is looked up as a trigger. -/
def permits (machine : PhaseMachine) (target : Phase) (trigger : Value) : Except Failure Bool :=
  if target == machine.phase then .ok true
  else do
    let _ ← trigger.key
    return Transition.table.any fun transition =>
      transition.source == machine.phase && transition.target == target &&
        trigger.same transition.trigger

def addHook (machine : PhaseMachine) : PhaseMachine :=
  { machine with hooks := machine.hooks + 1 }

def note (machine : PhaseMachine) (step : Step) : PhaseMachine :=
  { machine with history := machine.history ++ [step] }

def move (machine : PhaseMachine) (step : Step) : PhaseMachine :=
  { machine with
    cursor := step.target
    calls := machine.calls ++ (List.range machine.hooks).map (·, step) }

def take (machine : PhaseMachine) (step : Step) : PhaseMachine :=
  (machine.note step).move step

def step? (machine : PhaseMachine) (cursor : Option Cursor) (trigger context : Value) :
    Except Failure (Option Step) := do
  if Cursor.sameOption cursor machine.cursor then return none
  if !(← machine.permits (.ofCursor cursor) trigger) then
    throw (.transition trigger.display machine.phase.name (Phase.ofCursor cursor).name)
  return some ⟨machine.cursor, cursor, trigger, context.orElse (.record [])⟩

def info (machine : PhaseMachine) : Value :=
  .object [("current_state", machine.phase.name),
    ("dialogue_id", (machine.cursor.map Cursor.dialogue).getD .null),
    ("node_id", (machine.cursor.map Cursor.node).getD .null),
    ("transitions", .int machine.history.length)]

def text (machine : PhaseMachine) : String :=
  "DialogueStateMachine(state=" ++ Cursor.describe machine.cursor ++ ")"

end PhaseMachine

/-- A machine outside of a session. It keeps the phase beside the place, and may have a log that it
writes to. -/
structure Tracker where
  phase : Phase
  machine : PhaseMachine
  log : Option RunLog
deriving Repr

namespace Tracker

def new (log : Option RunLog) : Tracker :=
  ⟨.idle, .new, log⟩

def permits (tracker : Tracker) (target : Phase) (trigger : Value) : Except Failure Bool :=
  if target == tracker.phase then .ok true
  else do
    let _ ← trigger.key
    return Transition.table.any fun transition =>
      transition.source == tracker.phase && transition.target == target &&
        trigger.same transition.trigger

def step? (tracker : Tracker) (cursor : Option Cursor) (trigger context : Value) :
    Except Failure (Option Step) := do
  if Cursor.sameOption cursor tracker.machine.cursor then return none
  if !(← tracker.permits (.ofCursor cursor) trigger) then
    throw (.transition trigger.display tracker.phase.name (Phase.ofCursor cursor).name)
  return some ⟨tracker.machine.cursor, cursor, trigger, context.orElse (.record [])⟩

def logStep (now : Moment) (step : Step) : EStateM Failure Tracker Unit := fun tracker =>
  match tracker.log with
  | none => .ok () tracker
  | some log =>
    match log.logTransition now (Cursor.describe step.source) (Cursor.describe step.target)
        step.trigger step.context with
    | .ok (_, log) => .ok () { tracker with log := some log }
    | .error failure => .error failure { tracker with log := some log.skip }

/-- Takes a step. It is in the history before it is logged; phase and place change after that, and
the hooks are called last. -/
def take (now : Moment) (step : Step) : EStateM Failure Tracker Unit := do
  modify fun tracker => { tracker with machine := tracker.machine.note step }
  logStep now step
  modify fun tracker =>
    { tracker with phase := .ofCursor step.target, machine := tracker.machine.move step }

def observe (now : Moment) (cursor : Option Cursor) (trigger context : Value) :
    EStateM Failure Tracker Bool := do
  match ← (← get).step? cursor trigger context with
  | none => return false
  | some step => do
    take now step
    return true

end Tracker

def PhaseMachine.observe (machine : PhaseMachine) (log : RunLog) (now : Moment)
    (cursor : Option Cursor) (trigger context : Value) :
    Except Failure (Bool × PhaseMachine × RunLog) :=
  match Tracker.observe now cursor trigger context ⟨machine.phase, machine, some log⟩ with
  | .ok moved tracker => .ok (moved, tracker.machine, tracker.log.getD log)
  | .error failure _ => .error failure

end Fabula
