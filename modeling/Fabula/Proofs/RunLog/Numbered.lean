import Mathlib.Data.List.Basic
import Fabula.Proofs.RunLog.Call
/-!
# The numbers and the deliveries of a run log

As long as the clock of a log can be read, its events are numbered without a gap. So the number of
an event is its place, and a reader who remembers the last number that it has seen loses nothing
and gets nothing twice. Every event that is kept is handed to every subscription that is open then,
once. Main statements:

* `Numbered.perform`, `delivers_perform`: what one call preserves, and what it delivers;
* `eventsSince_eq_drop`: the events after a number;
* `events_numbered`: the numbers, kinds and deliveries after any calls.
-/

namespace Fabula

def Moment.newYear : Moment :=
  ⟨2024, 1, 1, 0, 0, 0, 0, none⟩

namespace RunLog

namespace Call

def Shows : Call → Prop
  | .setClock shows | .tick shows => ∃ time, shows = .ok time
  | _ => True

def pauses (paused : Bool) : Call → Bool
  | .pause => true
  | .resume => false
  | _ => paused

def listens (audience : List Subscriber) : Call → List Subscriber
  | .subscribe subscriber => audience ++ [subscriber]
  | .unsubscribe subscriber => audience.erase subscriber
  | _ => audience

def adds (call : Call) (log : RunLog) : List Event :=
  (outcome call.perform log).2.events.drop log.events.length

end Call

def pausedAfter (calls : List Call) : Bool :=
  calls.foldl (fun paused call => call.pauses paused) false

/-- The events that calls add to a log, each with the subscriptions that are open then. -/
def news (log : RunLog) (audience : List Subscriber) : List Call → List (Event × List Subscriber)
  | [] => []
  | call :: rest =>
    (call.adds log).map (·, audience) ++
      news (outcome call.perform log).2 (call.listens audience) rest

/-- Every event, for each of the subscriptions that are open when it is added. -/
def handedOut (news : List (Event × List Subscriber)) : List (Subscriber × Event) :=
  news.flatMap fun (event, audience) => audience.map (·, event)

structure Numbered (log : RunLog) : Prop where
  numbers : log.events.map (·.sequence) = (List.range' 1 log.events.length).map fun n => .int n
  last : log.sequence = .int log.events.length
  shows : ∀ shows, log.clock = some shows → ∃ time, shows = .ok time

theorem new_numbered (start : Moment) : (new start).Numbered where
  numbers := rfl
  last := rfl
  shows _ clocked := by cases clocked

namespace Numbered
variable {log : RunLog} {event : Event}

theorem keeping (numbered : log.Numbered)
    (next : event.sequence = .int (log.events.length + 1)) : (log.keeping event).Numbered where
  numbers := by
    have length : (log.keeping event).events.length = log.events.length + 1 := by
      simp [RunLog.keeping]
    rw [length, List.range'_concat, List.map_append, ← numbered.numbers]
    simp [RunLog.keeping, next, Int.add_comm]
  last := by simp [RunLog.keeping, next]
  shows := numbered.shows

theorem record_eq (numbered : log.Numbered) (event : Event) :
    (log.isPaused = true ∧ log.record event = .ok (event, log)) ∨
      ∃ time, log.isPaused = false ∧
        let kept := event.numbered (log.events.length + 1) time
        log.record event = .ok (kept, log.keeping kept) := by
  cases paused : log.isPaused with
  | true => exact .inl ⟨rfl, record_paused paused event⟩
  | false =>
    obtain ⟨time, shows⟩ : ∃ time, log.clock.getD (.ok event.gameTime) = .ok time := by
      cases clocked : log.clock with
      | none => exact ⟨_, rfl⟩
      | some shows => exact numbered.shows shows clocked
    exact .inr ⟨time, rfl, record_keeping paused numbered.last event shows⟩

theorem log_eq (numbered : log.Numbered) (entry : Entry) (now : Moment) (react : Reaction) :
    (outcome (Call.log entry now react).perform log).2 = log ∨
      ∃ kept : Event, log.isPaused = false ∧ kept.sequence = .int (log.events.length + 1) ∧
        (outcome (Call.log entry now react).perform log).2 = log.keeping kept := by
  rw [outcome_log]
  cases entry.event now with
  | error failure => exact .inl rfl
  | ok event =>
    rcases numbered.record_eq event with ⟨_, recorded⟩ | ⟨time, running, recorded⟩
    · exact .inl (by simp only [recorded])
    · exact .inr ⟨event.numbered _ time, running, rfl, by simp only [recorded]⟩

theorem perform (numbered : log.Numbered) {call : Call} (shown : call.Shows) :
    (outcome call.perform log).2.Numbered := by
  cases call with
  | log entry now react =>
    rcases numbered.log_eq entry now react with same | ⟨kept, _, next, grown⟩
    · rwa [same]
    · rw [grown]
      exact numbered.keeping next
  | reset now => exact ⟨rfl, rfl, numbered.shows⟩
  | setClock shows =>
    refine ⟨numbered.numbers, numbered.last, ?_⟩
    intro _ clocked
    cases clocked
    exact shown
  | tick shows =>
    refine ⟨numbered.numbers, numbered.last, ?_⟩
    intro _ clocked
    obtain ⟨_, _, rfl⟩ := Option.map_eq_some_iff.mp clocked
    exact shown
  | pause | resume | setSeed | subscribe | unsubscribe =>
    exact ⟨numbered.numbers, numbered.last, numbered.shows⟩

theorem after (numbered : log.Numbered) {calls : List Call}
    (shown : ∀ call ∈ calls, call.Shows) : (log.after calls).Numbered := by
  induction calls generalizing log with
  | nil => exact numbered
  | cons call rest ih =>
    rw [List.forall_mem_cons] at shown
    exact ih (numbered.perform shown.1) shown.2

end Numbered

theorem delivers_perform {log : RunLog} (numbered : log.Numbered) (call : Call) :
    (outcome call.perform log).2.deliveries =
        log.deliveries ++ handedOut ((call.adds log).map (·, log.subscribers)) ∧
      (outcome call.perform log).2.subscribers = call.listens log.subscribers ∧
      (outcome call.perform log).2.isPaused = call.pauses log.isPaused := by
  cases call with
  | log entry now react =>
    rcases numbered.log_eq entry now react with same | ⟨kept, _, _, grown⟩
    · simp [Call.adds, Call.listens, Call.pauses, same, handedOut]
    · simp [Call.adds, Call.listens, Call.pauses, grown, handedOut, keeping]
  | reset now =>
    refine ⟨?_, rfl, rfl⟩
    show log.deliveries = log.deliveries ++ handedOut ((([] : List Event).drop _).map _)
    simp [handedOut]
  | pause | resume | setSeed | setClock | tick | subscribe | unsubscribe =>
    refine ⟨?_, rfl, rfl⟩
    show log.deliveries = log.deliveries ++ handedOut ((log.events.drop log.events.length).map _)
    simp [handedOut]

theorem delivers_after {log : RunLog} (numbered : log.Numbered) {calls : List Call}
    (shown : ∀ call ∈ calls, call.Shows) :
    (log.after calls).deliveries =
        log.deliveries ++ handedOut (news log log.subscribers calls) ∧
      (log.after calls).isPaused =
        calls.foldl (fun paused call => call.pauses paused) log.isPaused := by
  induction calls generalizing log with
  | nil => exact ⟨by simp [after, news, handedOut], rfl⟩
  | cons call rest ih =>
    rw [List.forall_mem_cons] at shown
    obtain ⟨delivered, subscribed, paused⟩ := delivers_perform numbered call
    obtain ⟨later, pausedLater⟩ := ih (numbered.perform shown.1) shown.2
    rw [delivered, subscribed] at later
    rw [paused] at pausedLater
    refine ⟨?_, pausedLater⟩
    rw [after_cons, later, news]
    simp [handedOut]

theorem after_int (m k : Int) : (Value.int m).after (.int k) = .ok (decide (k < m)) := by
  simp only [Value.after, Value.int, Value.operands, Value.arithmetic?, Number.lt, Number.value,
    Binary64.Extended.lt, Rat.intCast_lt_intCast, bind, Except.bind, pure, Except.pure]

theorem filterAuxM_later {events : List Event} {first : Nat} (k : Int)
    (numbers : events.map (·.sequence) =
      (List.range' first events.length).map fun n : Nat => Value.int n) (found : List Event) :
    (events.filterAuxM (fun event => event.sequence.after (.int k)) found) =
      .ok ((events.drop (k + 1 - first).toNat).reverse ++ found) := by
  induction events generalizing first found with
  | nil => simp [List.filterAuxM, pure, Except.pure]
  | cons event rest ih =>
    simp only [List.map_cons, List.length_cons, List.range'_succ, List.cons.injEq] at numbers
    show (event.sequence.after (.int k) >>= fun later => _) = _
    rw [numbers.1, after_int]
    show rest.filterAuxM _ (bif decide (k < first) then event :: found else found) = _
    rw [ih numbers.2]
    by_cases seen : k < first
    · have none : (k + 1 - first).toNat = 0 := by omega
      have noneLater : (k + 1 - (first + 1 : Nat)).toNat = 0 := by omega
      rw [none, noneLater, decide_eq_true seen, cond_true, List.drop_zero, List.drop_zero,
        List.reverse_cons, List.append_assoc]
      rfl
    · have more : (k + 1 - first).toNat = (k + 1 - (first + 1 : Nat)).toNat + 1 := by omega
      rw [more, decide_eq_false seen, cond_false, List.drop_succ_cons]

theorem Numbered.filterM_later {log : RunLog} (numbered : log.Numbered) (k : Int) :
    (log.events.filterM fun event => event.sequence.after (.int k)) =
      .ok (log.events.drop k.toNat) := by
  have place : k + 1 - (1 : Nat) = k := by omega
  rw [List.filterM, filterAuxM_later k numbered.numbers, place]
  show Except.ok _ = _
  rw [List.append_nil, List.reverse_reverse]

theorem isA_eq (kind : EventKind) (happening : Happening) :
    happening.isA kind = (happening.kind == kind) := by
  cases kind <;> cases happening <;> rfl

theorem Numbered.eventsSince_eq_drop {log : RunLog} (numbered : log.Numbered) (k : Int) :
    log.eventsSince none (.int k) = .ok (log.events.drop k.toNat) := by
  rw [eventsSince, numbered.filterM_later]
  rfl

theorem Numbered.eventsSince_eq_ofKind {log : RunLog} (numbered : log.Numbered)
    (kind : EventKind) : log.eventsSince (some kind) (.int 0) = .ok (log.ofKind kind) := by
  simp only [eventsSince, numbered.filterM_later, ofKind, isA_eq]
  rfl

theorem lengths_ofKind (log : RunLog) :
    (log.ofKind .roll).length + (log.ofKind .transition).length + (log.ofKind .action).length +
      (log.ofKind .timeStep).length + (log.ofKind .custom).length = log.events.length := by
  simp only [ofKind, isA_eq]
  induction log.events with
  | nil => rfl
  | cons event rest ih =>
    simp only [List.filter_cons, List.length_cons]
    cases event.happening.kind <;> simp <;> omega

/-- The events of a log are numbered from one; a paused log keeps nothing and any other keeps what
is logged; kinds and forms agree; the events after a number are those behind so many; and every
subscription is handed every event that is added while it is open, once and in order, whatever
subscribers do with it. -/
theorem events_numbered (start : Moment) {calls : List Call}
    (shown : ∀ call ∈ calls, call.Shows) :
    let log := (new start).after calls
    let n := log.events.length
    (log.events.map (·.sequence) = (List.range' 1 n).map fun i => .int i) ∧
      log.summary.member "total_events" = .ok (.int n) ∧
      log.summary.member "last_sequence" = .ok (.int n) ∧
      (pausedAfter calls = true → ∀ entry now react,
        (outcome (Call.log entry now react).perform log).2 = log) ∧
      (pausedAfter calls = false → ∀ entry now react event, entry.event now = .ok event →
        ∃ kept next, outcome (Call.log entry now react).perform log = (.ok (some kept), next) ∧
          next.events = log.events ++ [kept]) ∧
      (∀ kind, log.eventsSince (some kind) (.int 0) = .ok (log.ofKind kind)) ∧
      (log.ofKind .roll).length + (log.ofKind .transition).length + (log.ofKind .action).length +
        (log.ofKind .timeStep).length + (log.ofKind .custom).length = n ∧
      (∀ k : Int, log.eventsSince none (.int k) = .ok (log.events.drop k.toNat)) ∧
      log.deliveries = handedOut (news (new start) [] calls) := by
  intro log n
  have numbered : log.Numbered := (new_numbered start).after shown
  obtain ⟨delivered, paused⟩ := delivers_after (new_numbered start) shown
  refine ⟨numbered.numbers, rfl, ?_, ?_, ?_, numbered.eventsSince_eq_ofKind, lengths_ofKind log,
    numbered.eventsSince_eq_drop, ?_⟩
  · show Except.ok log.sequence = _
    rw [numbered.last]
  · intro stopped entry now react
    rcases numbered.log_eq entry now react with same | ⟨_, running, _⟩
    · exact same
    · cases running.symm.trans (paused.trans stopped)
  · intro running entry now react event made
    rcases numbered.record_eq event with ⟨stopped, _⟩ | ⟨time, _, recorded⟩
    · cases stopped.symm.trans (paused.trans running)
    · refine ⟨event.numbered (n + 1) time, log.keeping (event.numbered (n + 1) time), ?_, rfl⟩
      simp only [outcome_log, made, recorded, n]
  · exact delivered

def noisyCalls : List Call :=
  let action := Entry.action "wait" ∅
  let react : Reaction := fun subscriber _ =>
    if subscriber.isBroken then .error .wrongKind else .ok ()
  [.setClock (.ok "Day 1, 8:00"), .subscribe ⟨"broken", true⟩, .subscribe ⟨"reader", false⟩,
    .log action .newYear react, .pause, .log action .newYear react, .resume,
    .log (.roll "1..6" .null (.int 0) (.int 4) "" .null) .newYear react,
    .tick (.ok "Day 1, 9:00"), .log (.custom "rain" ∅) .newYear react,
    .unsubscribe ⟨"broken", true⟩, .log action .newYear react]

theorem events_numbered_noisy :
    (∀ call ∈ noisyCalls, call.Shows) ∧
      ((new .newYear).after noisyCalls).events.map (·.sequence) = [.int 1, .int 2, .int 3] ∧
      ((new .newYear).after noisyCalls).deliveries.map (fun delivery =>
        (delivery.1.name, delivery.2.sequence)) =
          [("broken", .int 1), ("reader", .int 1), ("broken", .int 2), ("reader", .int 2),
            ("reader", .int 3)] := by
  have shown : ∀ call ∈ noisyCalls, call.Shows := by
    simp [noisyCalls, Call.Shows]
  obtain ⟨numbers, _, _, _, _, _, _, _, delivered⟩ := events_numbered .newYear shown
  refine ⟨shown, numbers, ?_⟩
  rw [delivered]
  rfl

end RunLog
end Fabula
