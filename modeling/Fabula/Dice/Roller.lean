import Fabula.Dice.Seed
import Fabula.Dice.Twister
/-!
# Rollers

All chance in a session comes from its roller. A roller hands out numbers within bounds and keeps a
log of them. It can replay recorded numbers first: then it hands out the recording whatever the
bounds are, and draws live once the recording is used up or stopped. A recording is not checked, so
what it hands out can be any value.

A draw is made before anything is written about it. If its bounds have too many digits, it fails
before it is logged; if its total or its reason has, or if whoever listens refuses it, it fails once
it is logged.
-/

namespace Fabula

structure Draw where
  low : Int
  high : Int
  total : Value
  reason : Value
deriving Repr

namespace Draw

def bounds (draw : Draw) : String :=
  toString draw.low ++ ".." ++ toString draw.high

def rolls (draw : Draw) : Value :=
  .list [draw.total]

def text (draw : Draw) : String :=
  draw.bounds ++ ": " ++ draw.rolls.quoted ++ " = " ++ draw.total.display

def toRecord (draw : Draw) : Value :=
  .object [("notation", draw.bounds), ("rolls", draw.rolls), ("total", draw.total),
    ("reason", draw.reason)]

def isBounded (draw : Draw) : Bool :=
  Number.isWritable (.int draw.low) && Number.isWritable (.int draw.high)

def isWritable (draw : Draw) : Bool :=
  draw.isBounded && draw.total.isWritable && draw.reason.isWritable

end Draw

/-- Recorded numbers and how far they have been replayed. Overruns are the draws that found the
recording used up. -/
structure Recording where
  stream : List Value
  position : Nat
  overruns : Nat
  stopped : Bool
deriving Repr

namespace Recording

def ofStream (stream : List Value) : Recording :=
  ⟨stream, 0, 0, false⟩

def remaining (recording : Recording) : Nat :=
  recording.stream.length - recording.position

def mode (recording : Recording) : String :=
  if recording.stopped then "disabled" else "replaying"

def text (recording : Recording) : String :=
  "ReplayDiceRoller(mode=" ++ recording.mode ++ ", position=" ++ toString recording.position ++
    "/" ++ toString recording.stream.length ++ ")"

end Recording

/-- A source of numbers with the draws that it has made since they were last cleared. The refusal is
why its listener takes no draws, if it takes none. -/
structure Roller where
  seed : Value
  source : Twister
  draws : List Draw
  recording : Option Recording
  refusal : Option Failure
deriving Repr

namespace Roller

/-- The draws that are logged. One whose bounds cannot be written has been made all the same. -/
def log (roller : Roller) : List Draw :=
  roller.draws.filter (·.isBounded)

def ofSeed (seed : Value) (entropy : Nat := 0) : Except Failure Roller := do
  return ⟨seed, .ofSeed (← seed.seed entropy), [], none, none⟩

def replaying (stream : List Value) (seed : Value) (entropy : Nat := 0) :
    Except Failure Roller := do
  return { ← ofSeed seed entropy with recording := some (.ofStream stream) }

def stopReplay (roller : Roller) : Roller :=
  { roller with recording := roller.recording.map ({ · with stopped := true }) }

def clearLog (roller : Roller) : Roller :=
  { roller with draws := [] }

def drawLive (low high : Int) (roller : Roller) : Int × Roller :=
  let (n, source) := roller.source.below (high - low + 1).toNat
  (low + n, { roller with source })

def draw (low high : Int) (roller : Roller) : Value × Roller :=
  let live := fun (roller : Roller) =>
    let (total, roller) := roller.drawLive low high
    (Value.int total, roller)
  match roller.recording with
  | none => live roller
  | some recording =>
    if recording.stopped then live roller
    else
      match recording.stream[recording.position]? with
      | some total =>
        (total, { roller with
          recording := some { recording with position := recording.position + 1 } })
      | none =>
        live { roller with recording := some { recording with overruns := recording.overruns + 1 } }

def roll (a b : Int) (reason : Value) (roller : Roller) : Value × Roller :=
  let low := min a b
  let high := max a b
  let (total, roller) := roller.draw low high
  (total, { roller with draws := roller.draws ++ [⟨low, high, total, reason⟩] })

/-- Tells of a draw. This fails first if the draw cannot be written, then if the listener refuses
it. -/
def announce (roller : Roller) (draw : Draw) : Except Failure Unit := do
  if !draw.isWritable then throw (.unsuitable .unwritable)
  if let some refusal := roller.refusal then throw refusal

end Roller

/-- A computation that may roll and may fail. What has been rolled stays rolled when it fails. -/
abbrev Rolling (α : Type) : Type :=
  EStateM Failure Roller α

instance {σ : Type} : MonadLift (Except Failure) (EStateM Failure σ) where
  monadLift
    | .ok a => pure a
    | .error failure => throw failure

namespace Rolling

def roll (a b : Int) (reason : Value) : Rolling Value := do
  let total ← modifyGet (Roller.roll a b reason)
  (← get).announce ⟨min a b, max a b, total, reason⟩
  return total

/-- Starts the source anew. A seed that starts nothing is kept all the same. -/
def reseed (seed : Value) (entropy : Nat := 0) : Rolling Unit := do
  modify fun roller => { roller with seed }
  let source := Twister.ofSeed (← seed.seed entropy)
  modify fun roller => { roller with source }

end Rolling
end Fabula
