import Fabula.Proofs.Dice.Rolling
import Fabula.Proofs.State.Record
/-!
# What run logs keep

A log that is not paused and counts in whole numbers keeps every event, unless its clock fails: then
the event loses its number and nothing else happens. Main statements:

* `record_shown`, `record_hidden`: what becomes of an event;
* `ofLogRecord_toRecord`: the record of a log gives the roller that replays its draws.
-/

namespace Fabula

def Happening.totals : Happening → List Value
  | .roll _ _ _ total _ => [total]
  | _ => []

theorem Happening.totals_eq_nil {happening : Happening} (other : happening.kind ≠ .roll) :
    happening.totals = [] := by
  cases happening <;> simp_all [totals, kind]

namespace RunLog

/-- Whether a log keeps events: it is not paused, and counts in whole numbers. -/
structure Sound (log : RunLog) : Prop where
  running : log.isPaused = false
  counts : ∃ n : Int, log.sequence = .int n

structure Extends (log next : RunLog) (totals : List Value) : Prop where
  sound : next.Sound
  seed : next.seed = log.seed
  stream : next.rollStream = log.rollStream ++ totals

theorem Extends.trans {log between next : RunLog} {early late : List Value}
    (first : log.Extends between early) (rest : between.Extends next late) :
    log.Extends next (early ++ late) :=
  ⟨rest.sound, rest.seed.trans first.seed, by
    rw [rest.stream, first.stream, List.append_assoc]⟩

theorem Sound.extends {log : RunLog} (sound : log.Sound) : log.Extends log [] :=
  ⟨sound, rfl, by simp⟩

theorem skip_extends {log : RunLog} (sound : log.Sound) : log.Extends log.skip [] := by
  obtain ⟨running, n, counts⟩ := sound
  have next : log.sequence.sum (.int 1) = .ok (.int (n + 1)) := by rw [counts]; rfl
  have skipped : log.skip = { log with sequence := .int (n + 1) } := by
    rw [skip, next]
    rfl
  rw [skipped]
  exact ⟨⟨running, n + 1, rfl⟩, rfl, by simp [rollStream]⟩

theorem record_shown {log : RunLog} (sound : log.Sound) {text : Value}
    (clock : log.clock = some (.ok text)) (event : Event) :
    ∃ logged, log.record event = .ok logged ∧ log.Extends logged.2 event.happening.totals := by
  obtain ⟨running, n, counts⟩ := sound
  have next : log.sequence.sum (.int 1) = .ok (.int (n + 1)) := by rw [counts]; rfl
  simp only [record, running, next, clock, bind, Except.bind, pure, Except.pure, Option.getD_some]
  refine ⟨_, rfl, ⟨rfl, n + 1, rfl⟩, rfl, ?_⟩
  cases event.happening <;> simp [rollStream, Happening.totals]

theorem record_hidden {log : RunLog} (sound : log.Sound) {failure : Failure}
    (clock : log.clock = some (.error failure)) (event : Event) :
    log.record event = .error failure := by
  obtain ⟨running, n, counts⟩ := sound
  have next : log.sequence.sum (.int 1) = .ok (.int (n + 1)) := by rw [counts]; rfl
  simp [record, running, next, clock, bind, Except.bind]

theorem recordedTotal_toRecord (event : Event) :
    recordedTotal event.toRecord = .ok event.happening.totals.head? := by
  cases happened : event.happening <;>
    simp [recordedTotal, Event.toRecord, Event.kind, Event.happeningFields, happened,
      Happening.kind, Happening.totals, Value.object, Value.fields, Table.getOrNull, Table.getD,
      Table.find?, Key.same_text, EventKind.name, bind, Except.bind, pure, Except.pure]

theorem ofLogRecord_toRecord (log : RunLog) (entropy : Nat) :
    Roller.ofLogRecord log.toRecord entropy =
      Roller.replaying log.rollStream log.seed entropy := by
  have totals := mapM_read fun event (_ : event ∈ log.events) => recordedTotal_toRecord event
  have stream : (log.events.map fun event => event.happening.totals.head?).filterMap id =
      log.rollStream := by
    rw [List.filterMap_map, rollStream]
    congr 1
    funext event
    cases happened : event.happening <;> simp [happened, Happening.totals]
  simp only [Roller.ofLogRecord, bind, Except.bind, Value.fields, toRecord, Value.object,
    List.map_cons, List.map_nil, Value.items, Table.getD, Table.find?, Key.same_text,
    String.reduceBEq, Bool.false_eq_true, not_false_eq_true, List.find?_cons_of_neg, BEq.rfl,
    List.find?_cons_of_pos, Option.map_some, Option.getD_some, totals, stream, Table.getOrNull]

end RunLog
end Fabula
