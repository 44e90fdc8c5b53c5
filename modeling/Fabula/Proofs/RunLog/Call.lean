import Fabula.Proofs.Outcome
import Fabula.RunLog
/-!
# What is asked of a run log

A run log is used by one call after the other: something is logged, its clock is set or moves on,
someone subscribes or leaves. An event is handed to the subscribers in turn, each of which may fail
at it; `recordAmong_eq` says that this makes no difference. A call that fails leaves what it has
done. Main statements:

* `Entry.log_eq`: the five ways to log differ in the event that they make and in nothing else;
* `outcome_log`: what becomes of an entry;
* `record_paused`, `record_keeping`: whether an event is kept.
-/

namespace Fabula

def Event.numbered (event : Event) (n : Int) (time : Value) : Event :=
  { event with sequence := .int n, gameTime := time }

namespace RunLog

abbrev Reaction : Type :=
  Subscriber → Event → Except Failure Unit

def hand (react : Reaction) (event : Event) (subscriber : Subscriber) :
    EStateM Failure (List (Subscriber × Event)) Unit := do
  modify (· ++ [(subscriber, event)])
  react subscriber event

/-- Hands an event to one subscriber after the other. What one of them fails with is caught. -/
def handAround (react : Reaction) (event : Event) (subscribers : List Subscriber) :
    EStateM Failure (List (Subscriber × Event)) Unit :=
  subscribers.forM fun subscriber =>
    tryCatch (hand react event subscriber) fun _ => pure ()

def recordAmong (react : Reaction) (log : RunLog) (event : Event) :
    Except Failure (Event × RunLog) := do
  if log.isPaused then return (event, log)
  let sequence := Value.number (← log.sequence.sum (.int 1))
  let event := { event with sequence, gameTime := ← log.clock.getD (.ok event.gameTime) }
  let kept := { log with sequence, events := log.events ++ [event] }
  match handAround react event kept.subscribers kept.deliveries with
  | .ok () deliveries => return (event, { kept with deliveries })
  | .error failure _ => throw failure

theorem hand_caught (react : Reaction) (event : Event) (subscriber : Subscriber)
    (deliveries : List (Subscriber × Event)) :
    tryCatch (hand react event subscriber) (fun _ => pure ()) deliveries =
      .ok () (deliveries ++ [(subscriber, event)]) := by
  let handing : Except Failure Unit → EStateM Failure (List (Subscriber × Event)) Unit :=
    fun reaction => do
      modify (· ++ [(subscriber, event)])
      reaction
  have caught : ∀ reaction, tryCatch (handing reaction) (fun _ => pure ()) deliveries =
      .ok () (deliveries ++ [(subscriber, event)]) := by
    intro reaction
    cases reaction <;> rfl
  exact caught (react subscriber event)

theorem handAround_eq (react : Reaction) (event : Event) (subscribers : List Subscriber)
    (deliveries : List (Subscriber × Event)) :
    handAround react event subscribers deliveries =
      .ok () (deliveries ++ subscribers.map (·, event)) := by
  induction subscribers generalizing deliveries with
  | nil => simp [handAround, pure, EStateM.pure]
  | cons subscriber rest ih =>
    show EStateM.bind (tryCatch (hand react event subscriber) fun _ => pure ())
      (fun _ => handAround react event rest) deliveries = _
    rw [EStateM.bind, hand_caught]
    show handAround react event rest _ = _
    rw [ih]
    simp

theorem recordAmong_eq (react : Reaction) (log : RunLog) (event : Event) :
    log.recordAmong react event = log.record event := by
  simp only [recordAmong, record, handAround_eq]

inductive Entry where
  | roll (bounds rolls modifier total reason context : Value)
  | transition (source target trigger context : Value)
  | action (name : Value) (arguments : Table Value)
  | timeStep (before after hours reason context : Value)
  | custom (name : Value) (details : Table Value)

namespace Entry

def log (log : RunLog) (now : Moment) : Entry → Except Failure (Event × RunLog)
  | .roll bounds rolls modifier total reason context =>
    log.logRoll now bounds rolls modifier total reason context
  | .transition source target trigger context => log.logTransition now source target trigger context
  | .action name arguments => log.logAction now name arguments
  | .timeStep before after hours reason context =>
    log.logTimeStep now before after hours reason context
  | .custom name details => log.logCustom now name details

def event (now : Moment) : Entry → Except Failure Event
  | .roll bounds rolls modifier total reason context => do
    return unlogged now context (.roll bounds (.list (← rolls.items)) modifier total reason)
  | .transition source target trigger context =>
    return unlogged now context (.transition source target trigger)
  | .action name arguments => return unlogged now .null (.action name (.ofTable arguments))
  | .timeStep before after hours reason context =>
    return unlogged now context (.timeStep before after hours reason)
  | .custom name details =>
    let named : Table Value := ⟨[("event_name", name)]⟩
    let context := details.entries.foldl (fun table entry => table.insert entry.1 entry.2) named
    return unlogged now (.ofTable context) .custom

theorem log_eq (log : RunLog) (now : Moment) (entry : Entry) :
    entry.log log now = entry.event now >>= log.record := by
  cases entry with
  | roll bounds rolls modifier total reason context =>
    simp only [Entry.log, Entry.event, logRoll]
    cases rolls.items <;> rfl
  | transition => rfl
  | action => rfl
  | timeStep => rfl
  | custom => rfl

theorem moment_of_event {now : Moment} {entry : Entry} {event : Event}
    (made : entry.event now = .ok event) : event.moment = now := by
  cases entry with
  | roll bounds rolls modifier total reason context =>
    simp only [Entry.event] at made
    cases listed : rolls.items with
    | ok items =>
      rw [listed] at made
      cases made
      rfl
    | error failure =>
      rw [listed] at made
      cases made
  | transition => cases made; rfl
  | action => cases made; rfl
  | timeStep => cases made; rfl
  | custom => cases made; rfl

end Entry

def tick (log : RunLog) (shows : Except Failure Value) : RunLog :=
  { log with clock := log.clock.map fun _ => shows }

inductive Call where
  | log (entry : Entry) (now : Moment) (react : Reaction)
  | pause
  | resume
  | reset (now : Moment)
  | setSeed (seed : Value)
  | setClock (shows : Except Failure Value)
  | tick (shows : Except Failure Value)
  | subscribe (subscriber : Subscriber)
  | unsubscribe (subscriber : Subscriber)

/-- Logs an event, or gives it a number all the same where its time cannot be shown. -/
def keep (react : Reaction) (event : Event) : EStateM Failure RunLog Event := fun log =>
  match log.recordAmong react event with
  | .ok (event, log) => .ok event log
  | .error failure => .error failure log.skip

namespace Call

def change : Call → RunLog → RunLog
  | .log .. => id
  | .pause => RunLog.pause
  | .resume => RunLog.resume
  | .reset now => (·.reset now)
  | .setSeed seed => (·.setSeed seed)
  | .setClock shows => (·.setClock shows)
  | .tick shows => (·.tick shows)
  | .subscribe subscriber => (·.subscribe subscriber)
  | .unsubscribe subscriber => (·.unsubscribe subscriber)

def perform : Call → EStateM Failure RunLog (Option Event)
  | .log entry now react => do return some (← keep react (← entry.event now))
  | call => do
    modify call.change
    return none

end Call

def after (log : RunLog) (calls : List Call) : RunLog :=
  calls.foldl (fun log call => (outcome call.perform log).2) log

theorem after_cons (log : RunLog) (call : Call) (calls : List Call) :
    log.after (call :: calls) = (outcome call.perform log).2.after calls := rfl

theorem outcome_log (log : RunLog) (entry : Entry) (now : Moment) (react : Reaction) :
    outcome (Call.log entry now react).perform log =
      match entry.event now with
      | .error failure => (.error failure, log)
      | .ok event =>
        match log.record event with
        | .ok (event, next) => (.ok (some event), next)
        | .error failure => (.error failure, log.skip) := by
  have performed : (Call.log entry now react).perform log =
      ((liftM (entry.event now) : EStateM Failure RunLog Event) >>= fun event =>
        keep react event >>= fun event => pure (some event)) log := rfl
  cases made : entry.event now with
  | error failure =>
    rw [made] at performed
    rw [outcome, performed]
    rfl
  | ok event =>
    cases recorded : log.record event <;>
      simp [outcome, Call.perform, made, keep, recordAmong_eq, recorded, liftM, monadLift,
        MonadLift.monadLift, pure, EStateM.pure, bind, EStateM.bind]

def keeping (log : RunLog) (event : Event) : RunLog :=
  { log with
    sequence := event.sequence
    events := log.events ++ [event]
    deliveries := log.deliveries ++ log.subscribers.map (·, event) }

theorem record_paused {log : RunLog} (paused : log.isPaused = true) (event : Event) :
    log.record event = .ok (event, log) := by
  simp [record, paused, pure, Except.pure]

theorem record_keeping {log : RunLog} {n : Int} {time : Value} (running : log.isPaused = false)
    (counts : log.sequence = .int n) (event : Event)
    (shows : log.clock.getD (.ok event.gameTime) = .ok time) :
    log.record event =
      .ok (event.numbered (n + 1) time, log.keeping (event.numbered (n + 1) time)) := by
  obtain ⟨start, seed, sequence, events, clock, subscribers, deliveries, isPaused⟩ := log
  cases running
  cases counts
  show (clock.getD (.ok event.gameTime) >>= fun time => _) = _
  rw [shows]
  rfl

end RunLog
end Fabula
