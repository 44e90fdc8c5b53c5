import Fabula.Proofs.Dice.Replayer
import Fabula.Proofs.Moment
import Fabula.Proofs.RunLog
import Fabula.Proofs.RunLog.Numbered
/-!
# Restoring a run log

A run log that is read back from its record has the same start, seed, number and events; its clock,
its subscribers and a pause are not in the record. So it answers every query alike, and from the
same clock and without a pause it goes on alike. Main statements:

* `Event.ofRecord_toRecord`, `ofRecord_toRecord`: what is written is read back;
* `Dated.after`: the moments in a log are those that it was called at;
* `perform_unheard`: the audience of a log makes no difference to what it keeps;
* `restored_stands_in`: all of this for a new log and any calls.
-/

namespace Fabula

theorem EventKind.ofName_name (kind : EventKind) : ofName (.text kind.name) = .ok kind := by
  cases kind <;> simp [ofName, all, name]

namespace Event

theorem readMoment_text {data : Value} {name : String} {moment : Moment} (shown : moment.IsLocal)
    (found : data.member name = .ok (.text moment.text)) :
    readMoment data name = .ok moment := by
  simp only [readMoment, found, bind, Except.bind, shown.ofText_text]
  rfl

theorem ofRecord_toRecord {event : Event} (shown : event.moment.IsLocal) :
    ofRecord event.toRecord = .ok event := by
  obtain ⟨moment, sequence, gameTime, context, happening⟩ := event
  have kind : (toRecord ⟨moment, sequence, gameTime, context, happening⟩).member "event_type" =
      .ok (.text happening.kind.name) := by
    rfl
  have time : (toRecord ⟨moment, sequence, gameTime, context, happening⟩).member "timestamp" =
      .ok (.text moment.text) := by
    rfl
  simp only [ofRecord, kind, EventKind.ofName_name, readMoment_text shown time, bind, Except.bind]
  cases happening <;> rfl

end Event

namespace RunLog

def recorded (log : RunLog) : RunLog :=
  { log with clock := none, subscribers := [], deliveries := [], isPaused := false }

structure Dated (log : RunLog) : Prop where
  start : log.start.IsLocal
  events : ∀ event ∈ log.events, event.moment.IsLocal

theorem ofRecord_toRecord {log : RunLog} (dated : log.Dated) :
    ofRecord log.toRecord = .ok log.recorded := by
  have read := mapM_read fun event member => Event.ofRecord_toRecord (dated.events event member)
  have start : Event.readMoment log.toRecord "session_start" = .ok log.start :=
    Event.readMoment_text dated.start rfl
  rw [List.map_id'] at read
  rw [ofRecord, start]
  show ((log.events.map Event.toRecord).mapM Event.ofRecord >>= fun events => _) = _
  rw [read]
  rfl

def Call.Dated : Call → Prop
  | .log _ now _ | .reset now => now.IsLocal
  | _ => True

theorem record_cases {log next : RunLog} {event answer : Event}
    (done : log.record event = .ok (answer, next)) :
    next = log ∨ answer.moment = event.moment ∧ next = log.keeping answer := by
  obtain ⟨start, seed, sequence, events, clock, subscribers, deliveries, isPaused⟩ := log
  cases isPaused with
  | true =>
    cases done
    exact .inl rfl
  | false =>
    simp only [record, Bool.false_eq_true, if_false, bind, Except.bind, pure, Except.pure] at done
    split at done
    · cases done
    · split at done
      · cases done
      · cases done
        exact .inr ⟨rfl, rfl⟩

theorem log_cases (log : RunLog) (entry : Entry) (now : Moment) (react : Reaction) :
    let next := (outcome (Call.log entry now react).perform log).2
    next = log ∨ next = log.skip ∨ ∃ kept : Event, kept.moment = now ∧ next = log.keeping kept := by
  rw [outcome_log]
  cases made : entry.event now with
  | error failure => exact .inl rfl
  | ok event =>
    cases done : log.record event with
    | error failure => exact .inr (.inl (by simp only [done]))
    | ok answered =>
      simp only [done]
      rcases record_cases done with same | ⟨moment, grown⟩
      · exact .inl same
      · exact .inr (.inr ⟨_, moment.trans (Entry.moment_of_event made), grown⟩)

theorem Dated.perform {log : RunLog} (dated : log.Dated) {call : Call} (called : call.Dated) :
    (outcome call.perform log).2.Dated := by
  cases call with
  | log entry now react =>
    rcases log.log_cases entry now react with same | skipped | ⟨kept, moment, grown⟩
    · rwa [same]
    · rw [skipped, skip]
      cases log.sequence.sum (.int 1) <;> exact ⟨dated.start, dated.events⟩
    · rw [grown]
      refine ⟨dated.start, ?_⟩
      show ∀ event ∈ log.events ++ [kept], event.moment.IsLocal
      rw [List.forall_mem_append, List.forall_mem_singleton, moment]
      exact ⟨dated.events, called⟩
  | reset now => exact ⟨called, List.forall_mem_nil _⟩
  | pause | resume | setSeed | setClock | tick | subscribe | unsubscribe =>
    exact ⟨dated.start, dated.events⟩

theorem Dated.after {log : RunLog} (dated : log.Dated) {calls : List Call}
    (called : ∀ call ∈ calls, call.Dated) : (log.after calls).Dated := by
  induction calls generalizing log with
  | nil => exact dated
  | cons call rest ih =>
    rw [List.forall_mem_cons] at called
    exact ih (dated.perform called.1) called.2

def unheard (log : RunLog) : RunLog :=
  { log with subscribers := [], deliveries := [] }

theorem toRecord_unheard (log : RunLog) : log.unheard.toRecord = log.toRecord := rfl

theorem record_unheard (log : RunLog) (event : Event) :
    log.unheard.record event =
      (fun answered => (answered.1, answered.2.unheard)) <$> log.record event := by
  obtain ⟨start, seed, sequence, events, clock, subscribers, deliveries, isPaused⟩ := log
  cases isPaused with
  | true => rfl
  | false =>
    simp only [record, unheard]
    cases sequence.sum (.int 1) with
    | error failure => rfl
    | ok sequence => cases clock.getD (.ok event.gameTime) <;> rfl

theorem skip_unheard (log : RunLog) : log.unheard.skip = log.skip.unheard := by
  simp only [skip, unheard]
  cases log.sequence.sum (.int 1) <;> rfl

theorem perform_unheard (log : RunLog) (call : Call) :
    (outcome call.perform log.unheard).2.unheard = (outcome call.perform log).2.unheard := by
  cases call with
  | log entry now react =>
    cases made : entry.event now with
    | error failure => simp only [outcome_log, made, unheard]
    | ok event =>
      cases done : log.record event with
      | error failure =>
        simp only [outcome_log, made, record_unheard, done, Functor.map, Except.map, skip_unheard]
        rfl
      | ok answered =>
        simp only [outcome_log, made, record_unheard, done, Functor.map, Except.map]
        rfl
  | pause | resume | reset | setSeed | setClock | tick | subscribe | unsubscribe => rfl

theorem after_unheard {log other : RunLog} (same : other.unheard = log.unheard)
    (calls : List Call) : (other.after calls).unheard = (log.after calls).unheard := by
  induction calls generalizing log other with
  | nil => exact same
  | cons call rest ih =>
    apply ih
    rw [← perform_unheard other, same, perform_unheard log]

/-- The record of a new log after any calls can be read, and what is read stands in for the log: it
has the same record and answers every query alike; the record gives a roller that replays the draws
of the log with its seed; and from the clock that the log has, and without a pause, both have the
same record after further calls. -/
theorem restored_stands_in {start : Moment} (started : start.IsLocal) {calls : List Call}
    (called : ∀ call ∈ calls, call.Dated) :
    let log := (new start).after calls
    ∃ restored, ofRecord log.toRecord = .ok restored ∧ restored.toRecord = log.toRecord ∧
      (∀ kind since, restored.eventsSince kind since = log.eventsSince kind since) ∧
      (∀ kind, restored.ofKind kind = log.ofKind kind) ∧
      restored.summary = log.summary ∧
      (∀ kinds count, restored.text kinds count = log.text kinds count) ∧
      restored.rollStream = log.rollStream ∧
      (∀ entropy, Roller.ofLogRecord log.toRecord entropy =
        Roller.replaying log.rollStream log.seed entropy) ∧
      (∀ entropy n, log.seed.seed entropy = .ok n →
        ∃ replayer, Roller.ofLogRecord log.toRecord entropy = .ok replayer ∧
          replayer.seed = log.seed ∧
          ∀ asks : List Roller.Ask, asks.length = log.rollStream.length →
            replayer.answers (asks.map .draw) =
              (List.zipWith Roller.Ask.entry asks log.rollStream).map Draw.answer) ∧
      ∀ further, (({ restored with clock := log.clock }).after further).toRecord =
        (log.resume.after further).toRecord := by
  intro log
  have dated : log.Dated := Dated.after ⟨started, List.forall_mem_nil _⟩ called
  have replaying := ofLogRecord_toRecord log
  refine ⟨log.recorded, ofRecord_toRecord dated, rfl, fun _ _ => rfl, fun _ => rfl, rfl,
    fun _ _ => rfl, rfl, replaying, ?_, ?_⟩
  · intro entropy n seeded
    have made := (replaying entropy).trans (Roller.replaying_eq seeded _)
    exact ⟨_, made, rfl, fun asks enough => Roller.answers_recording rfl rfl enough⟩
  · intro further
    have same : RunLog.unheard { log.recorded with clock := log.clock } = log.resume.unheard := rfl
    rw [← toRecord_unheard, after_unheard same, toRecord_unheard]

def brokenCalls : List Call :=
  let react : Reaction := fun _ _ => .ok ()
  [.setSeed (.int 7), .setClock (.ok "Day 1, 8:00"),
    .log (.roll "1..6" (.list [.int 4]) (.int 0) (.int 4) "luck" .null) .newYear react,
    .tick (.error .wrongKind), .log (.action "wait" ∅) .newYear react,
    .tick (.ok "Day 1, 9:00"), .log (.transition "idle" "end" "leave" .null) .newYear react,
    .log (.timeStep "Day 1, 8:00" "Day 1, 9:00" (.int 1) "rest" .null) .newYear react, .pause,
    .log (.custom "rain" ∅) .newYear react]

theorem restored_stands_in_broken :
    Moment.newYear.IsLocal ∧ (∀ call ∈ brokenCalls, call.Dated) ∧
      let log := (new .newYear).after brokenCalls
      ∃ restored, ofRecord log.toRecord = .ok restored ∧
        restored.summary.member "total_events" = .ok (.int 3) ∧
        restored.summary.member "last_sequence" = .ok (.int 4) ∧
        restored.rollStream = [.int 4] ∧
        (∃ replayer, Roller.ofLogRecord log.toRecord = .ok replayer ∧ replayer.seed = .int 7) ∧
        (({ restored with clock := log.clock }).after brokenCalls).toRecord =
          (log.resume.after brokenCalls).toRecord := by
  have started : Moment.newYear.IsLocal := by
    constructor <;> decide
  have called : ∀ call ∈ brokenCalls, call.Dated := by
    simp [brokenCalls, Call.Dated, started]
  obtain ⟨restored, read, _, _, _, summary, _, stream, _, replays, alike⟩ :=
    restored_stands_in started called
  obtain ⟨replayer, made, seed, _⟩ := replays 0 7 rfl
  refine ⟨started, called, restored, read, ?_, ?_, stream, ⟨replayer, made, seed⟩,
    alike brokenCalls⟩
  · rw [summary]
    rfl
  · rw [summary]
    rfl

end RunLog

end Fabula
