import Fabula.Session.Basic
import Fabula.View
/-!
# Walking through dialogues

Arriving at a node moves the cursor there and applies the node's effects. A node without choices
then hops once: to the target of the first branch whose condition passes, else to the default
target, else out of the dialogue. A hop only moves the cursor.

An effect that starts a dialogue leaves the cursor on the empty node id; following it enters that
dialogue at its start node. The effects there can start the next dialogue, and so on, at most as
often as the settings allow; a chain that is longer ends the dialogue.
-/

namespace Fabula

def Value.given? : Value → Option Value
  | .null => none
  | value => some value

namespace Play

def findBranch (game : Game) (branches : List Branch) : Play (Option Branch) := do
  let state ← state
  branches.findM? fun branch => rolling game (branch.condition.passes state)

def findTarget (game : Game) (node : Node) : Play (Option Value) := do
  match ← findBranch game node.branches with
  | some branch => return branch.next.given?
  | none => return (node.next.orElse .null).given?

def hop (game : Game) (dialogue : Dialogue) (node : Node) : Play Unit := do
  match ← findTarget game node with
  | none => endDialogue
  | some target =>
    if (dialogue.findNode? target).isSome then setCursor (some ⟨dialogue.id, target⟩)
    else endDialogue

def pending : Play (Option Value) := do
  match (← state).cursor with
  | some cursor => return if cursor.needsStart then some cursor.dialogue else none
  | none => return none

/-- Arrives at a node. What follows the effects of the node says whether they have led
elsewhere. -/
def arrive (game : Game) (follow : Play Bool) (dialogue : Dialogue) (node : Node) :
    Play Unit := do
  let cursor : Cursor := ⟨dialogue.id, node.id⟩
  setCursor (some cursor)
  perform game node.effects ("node " ++ dialogue.id.display ++ ":" ++ node.id.display)
  if ← follow then return
  if node.choices.isEmpty && Cursor.sameOption (← state).cursor (some cursor) then
    hop game dialogue node

def findStart (game : Game) (id : Value) : Except Failure (Option (Dialogue × Node)) := do
  let some dialogue ← game.registry.dialogues.lookup id | return none
  return dialogue.start?.map fun start => (dialogue, start)

/-- Enters a dialogue at its start node. One that is not there is not entered, and if it was to be
started, the dialogue ends. -/
def enter (game : Game) (follow : Play Bool) (id : Value) : Play Unit := do
  match ← findStart game id with
  | some (dialogue, start) => arrive game follow dialogue start
  | none => if (← pending).isSome then endDialogue

/-- Enters the dialogue that an effect has started, and says whether there was one. At most so many
dialogues are entered in a chain. -/
def followWithin (game : Game) : Nat → Play Bool
  | 0 => do
    if (← pending).isNone then return false
    endDialogue
    return true
  | limit + 1 => do
    let some id ← pending | return false
    enter game (followWithin game limit) id
    return true

def follow (game : Game) : Play Bool :=
  followWithin game game.settings.redirectLimit

def firesAt (game : Game) (location : Value) (dialogue : Dialogue) : Play Bool := do
  if !dialogue.triggerLocation.same location then return false
  if !(← allPass game dialogue.conditions) then return false
  return dialogue.start?.isSome

def interludeFiresAt (game : Game) (location : Value) (interlude : Interlude) : Play Bool := do
  if !interlude.triggerLocation.same location then return false
  allPass game interlude.conditions

def fireDialogue (game : Game) (location : Value) : Play Unit := do
  match ← game.registry.dialogues.values.findM? (firesAt game location) with
  | some dialogue => enter game (follow game) dialogue.id
  | none => pure ()

def fireInterlude (game : Game) (location : Value) : Play Unit := do
  match ← game.registry.interludes.values.findM? (interludeFiresAt game location) with
  | some interlude => do
    setState { ← state with interlude := interlude.id }
    perform game interlude.effects ("interlude " ++ interlude.id.display)
  | none => pure ()

def fireTriggers (game : Game) : Play Unit := do
  let location := (← state).location
  fireDialogue game location
  fireInterlude game location

/-- Lets the machine take a step. It is in the machine's history before it is logged. -/
def takeStep (game : Game) (step : Step) : Play Unit := do
  modify fun session => { session with machine := session.machine.note step }
  record fun log => log.logTransition game.now (Cursor.describe step.source)
    (Cursor.describe step.target) step.trigger step.context
  modify fun session => { session with machine := session.machine.move step }

def observe (game : Game) (trigger : String) : Play Unit := do
  let session ← get
  match ← session.machine.step? session.state.cursor trigger .null with
  | some step => takeStep game step
  | none => pure ()

/-- Ends an action: enters what is still to be entered, observes where that leads, builds the view
and clears the cues that it shows. -/
def finish (game : Game) (trigger : String) : Play View := do
  let _ ← follow game
  observe game trigger
  let view ← rolling game (View.build game.registry game.settings (← state))
  setState (← state).clearCues
  return view

end Play
end Fabula
