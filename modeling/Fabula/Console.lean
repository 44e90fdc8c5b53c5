import Fabula.Parameter
import Fabula.Session.Action
/-!
# The console

Commands for looking into a session and for changing it from outside. Every change is made as one
action, so it is logged like any other. What a command is given is not checked. A command can be
written as a line of words. A line whose first word is no command, or whose other words do not fit
the command, does nothing at all.
-/

namespace Fabula

inductive Command where
  | setFlag (flag : Value)
  | clearFlag (flag : Value)
  | setVariable (name value : Value)
  | getVariable (name : Value)
  | teleport (location : Value)
  | triggerDialogue (dialogue : Value)
  | setQuestStage (quest stage : Value)
  | addItem (item : Value)
  | removeItem (item : Value)
  | inspect
  | inspectState
  | inspectRegistry
deriving Repr

namespace Command

def names : List String := [
  "set_flag", "clear_flag", "set_variable", "get_variable", "teleport", "trigger_dialogue",
  "set_quest_stage", "add_item", "remove_item", "inspect", "inspect_state", "inspect_registry"]

def of? : String → List Value → Option Command
  | "set_flag", [flag] => some (.setFlag flag)
  | "clear_flag", [flag] => some (.clearFlag flag)
  | "set_variable", [name, value] => some (.setVariable name value)
  | "get_variable", [name] => some (.getVariable name)
  | "teleport", [location] => some (.teleport location)
  | "trigger_dialogue", [dialogue] => some (.triggerDialogue dialogue)
  | "set_quest_stage", [quest, stage] => some (.setQuestStage quest stage)
  | "add_item", [item] => some (.addItem item)
  | "remove_item", [item] => some (.removeItem item)
  | "inspect", [] => some .inspect
  | "inspect_state", [] => some .inspectState
  | "inspect_registry", [] => some .inspectRegistry
  | _, _ => none

def argumentsOfWords : String → List String → Except Failure (List Value)
  | "set_variable", [name, word] => do return [.text name, ← Value.ofWord word]
  | _, words => .ok (words.map Value.text)

def arguments : Command → List Value
  | .setFlag flag | .clearFlag flag => [flag]
  | .setVariable name value => [name, value]
  | .teleport location => [location]
  | .triggerDialogue dialogue => [dialogue]
  | .setQuestStage quest stage => [quest, stage]
  | .addItem item | .removeItem item => [item]
  | .getVariable name => [name]
  | .inspect | .inspectState | .inspectRegistry => []

def handle (state : GameState) : Command → Except Failure GameState
  | .setFlag flag => return state.setFlag (← flag.key) true
  | .clearFlag flag => return state.setFlag (← flag.key) false
  | .setVariable name value => return state.setVariable (← name.key) value
  | .teleport location => return { state with location }
  | .triggerDialogue dialogue => return { state with cursor := some (.starting dialogue) }
  | .setQuestStage quest stage => return state.setQuestStage (← quest.key) stage
  | .addItem item => state.addItem item
  | .removeItem item => return state.dropItem item
  | .getVariable _ | .inspect | .inspectState | .inspectRegistry => return state

def update (state : GameState) (command : Command) : Except Failure GameState := do
  let _ ← (Value.list command.arguments).writable
  command.handle state

end Command

namespace Session

def setFlags (session : Session) : Except Failure (List Value) :=
  Value.sorted (session.state.flags.entries.filterMap fun (flag, value) =>
    if value.isPresent then some (.ofKey flag) else none)

def report (session : Session) : Except Failure String := do
  let state := session.state
  return "\n".intercalate [
    "=== NARRATIVE ENGINE INSPECTOR ===",
    "Location: " ++ (← state.location.write),
    "Time: " ++ (← state.time.text),
    "Phase: " ++ session.phase.name,
    "Flags: " ++ (← (Value.list (← session.setFlags)).write),
    "Variables: " ++ (← (Value.ofTable state.bindings).write),
    "Inventory: " ++ (← (Value.list state.inventory).write),
    "Quests: " ++ (← (Value.ofTable state.quests).write),
    "",
    "Commands: " ++ ", ".intercalate Command.names]

end Session

namespace Play

def nothing : Play Reply :=
  return .value .null

def refuse (given : Value) : Play Reply := do
  let _ ← given.writable
  nothing

def change (game : Game) (label : String) (command : Command) : Play Reply := do
  return .view (← intervene game (fun state => command.update state) (.text label))

def run (game : Game) : Command → Play Reply
  | .setFlag flag => change game "set_flag" (.setFlag flag)
  | .clearFlag flag => change game "clear_flag" (.clearFlag flag)
  | .setVariable name value => change game "set_variable" (.setVariable name value)
  | .getVariable name => do
    let value := (← (← state).bindings.lookup name).getD .null
    let _ ← (Value.list [name, value]).writable
    return .value value
  | .teleport location => do
    match ← game.registry.locations.lookup location with
    | some _ => change game "teleport" (.teleport location)
    | none => refuse location
  | .triggerDialogue dialogue => do
    match ← findStart game dialogue with
    | some _ => change game "trigger_dialogue" (.triggerDialogue dialogue)
    | none => refuse dialogue
  | .setQuestStage quest stage => change game "set_quest_stage" (.setQuestStage quest stage)
  | .addItem item => do
    if Value.memberOf item (← state).inventory then refuse item
    else change game "add_item" (.addItem item)
  | .removeItem item => do
    if Value.memberOf item (← state).inventory then
      change game "remove_item" (.removeItem item)
    else refuse item
  | .inspect => return .value (.text (← (← get).report))
  | .inspectState => return .value (← state).toRecord
  | .inspectRegistry => return .value game.registry.summary

def logCommand (game : Game) (name : String) (arguments : List Value) : Play Unit :=
  record fun log =>
    log.logCustom game.now "debug_command"
      ⟨[(.text "command", .text name), (.text "arguments", .list arguments)]⟩

def commandWords (line : String) : Except Failure (List String) :=
  (Text.shellWords line).mapError fun fault => .unsuitable (.commandLine fault)

def runLine (game : Game) (line : String) : Play Reply := do
  match ← commandWords line with
  | [] => nothing
  | name :: words =>
    if !Command.names.contains name then return ← nothing
    let arguments ← Command.argumentsOfWords name words
    match Command.of? name arguments with
    | some command => do
      logCommand game name arguments
      run game command
    | none => nothing

end Play
end Fabula
