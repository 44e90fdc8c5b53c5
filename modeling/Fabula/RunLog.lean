import Fabula.Dice.Roller
import Fabula.Json.Writer
import Fabula.Moment
import Fabula.Value.Order
/-!
# Run logs

A run log keeps what happens in a session: draws, changes of the dialogue, actions of the player,
advances of the clock, and custom events. Events are numbered from one in the order in which they
are logged, and every subscriber gets each event that is logged while it is subscribed. A paused
log keeps nothing. A log can be written to a record and read back; nothing in such a record is
checked but the kinds and the timestamps.
-/

namespace Fabula

inductive EventKind where
  | roll
  | transition
  | action
  | timeStep
  | custom
deriving DecidableEq, Repr

namespace EventKind

def all : List EventKind :=
  [.roll, .transition, .action, .timeStep, .custom]

def name : EventKind → String
  | .roll => "roll"
  | .transition => "transition"
  | .action => "action"
  | .timeStep => "time_step"
  | .custom => "custom"

def ofName (value : Value) : Except Failure EventKind :=
  match all.find? fun kind => value.same kind.name with
  | some kind => .ok kind
  | none => .error (.unsuitable (.eventKind value))

end EventKind

inductive Happening where
  | roll (bounds rolls modifier total reason : Value)
  | transition (source target trigger : Value)
  | action (name arguments : Value)
  | timeStep (before after hours reason : Value)
  | custom
deriving Repr

structure Event where
  moment : Moment
  sequence : Value
  gameTime : Value
  context : Value
  happening : Happening
deriving Repr

def Happening.kind : Happening → EventKind
  | .roll .. => .roll
  | .transition .. => .transition
  | .action .. => .action
  | .timeStep .. => .timeStep
  | .custom => .custom

def Happening.isA : EventKind → Happening → Bool
  | .roll, .roll .. => true
  | .transition, .transition .. => true
  | .action, .action .. => true
  | .timeStep, .timeStep .. => true
  | .custom, .custom => true
  | _, _ => false

namespace Event

def kind (event : Event) : EventKind :=
  event.happening.kind

def argumentsText (arguments : Value) : Except Failure String := do
  let fields ← arguments.fields
  return ", ".intercalate (← fields.entries.mapM fun (key, value) => do
    return (← (Value.ofKey key).write) ++ "=" ++ (← value.writeQuoted))

def happeningText (context : Value) : Happening → Except Failure String
  | .roll bounds rolls _ total reason =>
    return "ROLL " ++ (← bounds.write) ++ ": " ++ (← rolls.write) ++ " = " ++ (← total.write) ++
      " (" ++ (← reason.write) ++ ")"
  | .transition source target trigger =>
    return "TRANSITION " ++ (← source.write) ++ " -> " ++ (← target.write) ++ " (trigger: " ++
      (← trigger.write) ++ ")"
  | .action name arguments => do
    let arguments ← argumentsText arguments
    return "ACTION " ++ (← name.write) ++ "(" ++ arguments ++ ")"
  | .timeStep before after hours reason =>
    return "TIME " ++ (← before.write) ++ " -> " ++ (← after.write) ++ " (+" ++
      (← hours.write) ++ "h, " ++ (← reason.write) ++ ")"
  | .custom => do
    let name := (← context.fields).getD "event_name" EventKind.custom.name
    return "CUSTOM " ++ (← name.write)

def text (event : Event) : Except Failure String := do
  let happening ← happeningText event.context event.happening
  return "[" ++ (← event.sequence.write) ++ "] " ++ happening

def happeningFields : Happening → List (String × Value)
  | .roll bounds rolls modifier total reason =>
    [("notation", bounds), ("rolls", rolls), ("modifier", modifier), ("total", total),
      ("reason", reason)]
  | .transition source target trigger =>
    [("from_state", source), ("to_state", target), ("trigger", trigger)]
  | .action name arguments => [("action", name), ("arguments", arguments)]
  | .timeStep before after hours reason =>
    [("old_time", before), ("new_time", after), ("hours_advanced", hours), ("reason", reason)]
  | .custom => []

def toRecord (event : Event) : Value :=
  .object ([("event_type", .text event.kind.name), ("timestamp", .text event.moment.text),
    ("sequence_number", event.sequence), ("game_time", event.gameTime),
    ("context", event.context)] ++ happeningFields event.happening)

def readHappening (fields : Table Value) : EventKind → Happening
  | .roll =>
    .roll (fields.getD "notation" "") (fields.getD "rolls" (.list []))
      (fields.getD "modifier" (.int 0)) (fields.getD "total" (.int 0)) (fields.getD "reason" "")
  | .transition =>
    .transition (fields.getD "from_state" "") (fields.getD "to_state" "")
      (fields.getD "trigger" "")
  | .action => .action (fields.getD "action" "") (fields.getD "arguments" (.record []))
  | .timeStep =>
    .timeStep (fields.getD "old_time" "") (fields.getD "new_time" "")
      (fields.getD "hours_advanced" (.int 0)) (fields.getD "reason" "")
  | .custom => .custom

def readMoment (data : Value) (name : String) : Except Failure Moment := do
  let .text given := (← data.member name) | throw .wrongKind
  match Moment.ofText given with
  | .ok moment => return moment
  | .error fault => throw (.unsuitable (.timestamp fault given))

def ofRecord (data : Value) : Except Failure Event := do
  let kind ← EventKind.ofName (← data.member "event_type")
  let fields ← data.fields
  return {
    moment := ← readMoment data "timestamp"
    sequence := fields.getD "sequence_number" (.int 0)
    gameTime := fields.getOrNull "game_time"
    context := fields.getD "context" (.record [])
    happening := readHappening fields kind }

end Event

/-- Who gets the events of a log. A broken subscriber fails at every event, which nobody else
notices. -/
structure Subscriber where
  name : String
  isBroken : Bool
deriving DecidableEq, Repr

/-- A log of what happens in a session. The clock is what the game's clock shows, if there is one;
it fails if that cannot be written. Deliveries are the events that subscribers got, in order. -/
structure RunLog where
  start : Moment
  seed : Value
  sequence : Value
  events : List Event
  clock : Option (Except Failure Value)
  subscribers : List Subscriber
  deliveries : List (Subscriber × Event)
  isPaused : Bool
deriving Repr

namespace RunLog

def new (now : Moment) : RunLog where
  start := now
  seed := .null
  sequence := .int 0
  events := []
  clock := none
  subscribers := []
  deliveries := []
  isPaused := false

def reset (log : RunLog) (now : Moment) : RunLog :=
  { log with events := [], sequence := .int 0, start := now }

def pause (log : RunLog) : RunLog :=
  { log with isPaused := true }

def resume (log : RunLog) : RunLog :=
  { log with isPaused := false }

def setSeed (log : RunLog) (seed : Value) : RunLog :=
  { log with seed }

def setClock (log : RunLog) (shows : Except Failure Value) : RunLog :=
  { log with clock := some shows }

def subscribe (log : RunLog) (subscriber : Subscriber) : RunLog :=
  { log with subscribers := log.subscribers ++ [subscriber] }

def unsubscribe (log : RunLog) (subscriber : Subscriber) : RunLog :=
  { log with subscribers := log.subscribers.erase subscriber }

def record (log : RunLog) (event : Event) : Except Failure (Event × RunLog) := do
  if log.isPaused then return (event, log)
  let sequence := Value.number (← log.sequence.sum (.int 1))
  let event := { event with sequence, gameTime := ← log.clock.getD (.ok event.gameTime) }
  return (event, { log with
    sequence
    events := log.events ++ [event]
    deliveries := log.deliveries ++ log.subscribers.map fun subscriber => (subscriber, event) })

def skip (log : RunLog) : RunLog :=
  match log.sequence.sum (.int 1) with
  | .ok sequence => { log with sequence := .number sequence }
  | .error _ => log

def unlogged (now : Moment) (context : Value) (happening : Happening) : Event where
  moment := now
  sequence := .int 0
  gameTime := .null
  context := context.orElse (.record [])
  happening

def logRoll (log : RunLog) (now : Moment) (bounds rolls modifier total reason context : Value) :
    Except Failure (Event × RunLog) := do
  let rolls ← rolls.items
  log.record (unlogged now context (.roll bounds (.list rolls) modifier total reason))

def logTransition (log : RunLog) (now : Moment) (source target trigger context : Value) :
    Except Failure (Event × RunLog) :=
  log.record (unlogged now context (.transition source target trigger))

def logAction (log : RunLog) (now : Moment) (name : Value) (arguments : Table Value) :
    Except Failure (Event × RunLog) :=
  log.record (unlogged now .null (.action name (.ofTable arguments)))

def logTimeStep (log : RunLog) (now : Moment) (before after hours reason context : Value) :
    Except Failure (Event × RunLog) :=
  log.record (unlogged now context (.timeStep before after hours reason))

def logCustom (log : RunLog) (now : Moment) (name : Value) (details : Table Value) :
    Except Failure (Event × RunLog) :=
  let named : Table Value := ⟨[("event_name", name)]⟩
  let context := details.entries.foldl (fun table entry => table.insert entry.1 entry.2) named
  log.record (unlogged now (.ofTable context) .custom)

def eventsSince (log : RunLog) (kind : Option EventKind) (since : Value) :
    Except Failure (List Event) := do
  let later ← log.events.filterM fun event => event.sequence.after since
  return match kind with
    | none => later
    | some kind => later.filter fun event => event.kind == kind

def ofKind (log : RunLog) (kind : EventKind) : List Event :=
  log.events.filter fun event => event.happening.isA kind

def rollStream (log : RunLog) : List Value :=
  log.events.filterMap fun event =>
    match event.happening with
    | .roll _ _ _ total _ => some total
    | _ => none

def summary (log : RunLog) : Value :=
  .object [("session_start", .text log.start.text), ("seed", log.seed),
    ("total_events", .int log.events.length), ("rolls", count .roll),
    ("transitions", count .transition), ("actions", count .action),
    ("time_steps", count .timeStep), ("last_sequence", log.sequence)]
where
  count (kind : EventKind) : Value := .int (log.ofKind kind).length

/-- The last events of a list, as many as asked for. A negative number leaves out as many at the
start; zero and absence ask for all. -/
def lastEvents (events : List Event) (count : Value) : Except Failure (List Event) :=
  if !count.isPresent then .ok events
  else
    match count.arithmetic? with
    | some (.int n) =>
      .ok (events.drop (if n < 0 then n.natAbs else events.length - n.natAbs))
    | _ => .error .wrongKind

def lines (log : RunLog) (kinds : List EventKind) (count : Value) :
    Except Failure (List String) := do
  let seed ← match log.seed with
    | .null => pure "not set"
    | seed => seed.write
  let heading := ["=== Run Log ===", "Session: " ++ log.start.text, "Seed: " ++ seed,
    "Total Events: " ++ toString log.events.length, ""]
  let wanted :=
    if kinds.isEmpty then log.events
    else log.events.filter fun event => kinds.contains event.kind
  return heading ++ (← (← lastEvents wanted count).mapM Event.text)

def text (log : RunLog) (kinds : List EventKind) (count : Value) : Except Failure String := do
  return "\n".intercalate (← log.lines kinds count)

def toRecord (log : RunLog) : Value :=
  .object [("session_start", .text log.start.text), ("seed", log.seed), ("sequence", log.sequence),
    ("events", .list (log.events.map Event.toRecord))]

def toJson (log : RunLog) (indent : Value) : Except Failure String := do
  return Json.write ⟨← Json.indentOf indent, true⟩ (← log.toRecord.writable)

def ofRecord (data : Value) : Except Failure RunLog := do
  let start ← Event.readMoment data "session_start"
  let fields ← data.fields
  let events ← (← (fields.getD "events" (.list [])).items).mapM Event.ofRecord
  return { new start with
    seed := fields.getOrNull "seed"
    sequence := fields.getD "sequence" (.int 0)
    events }

def recordedTotal (data : Value) : Except Failure (Option Value) := do
  let fields ← data.fields
  if (fields.getOrNull "event_type").same EventKind.roll.name then
    return some (fields.getD "total" (.int 0))
  else return none

end RunLog

def Roller.ofLogRecord (data : Value) (entropy : Nat := 0) : Except Failure Roller := do
  let fields ← data.fields
  let totals ← (← (fields.getD "events" (.list [])).items).mapM RunLog.recordedTotal
  replaying (totals.filterMap id) (fields.getOrNull "seed") entropy

end Fabula
