import Mathlib.Algebra.Ring.Int.Defs
import Fabula.Proofs.Session.Course
import Fabula.Proofs.Session.Place
/-!
# The ledger of the clock

Travelling moves the clock, and so do effects, but whatever moves it is logged: a session that is
played in whole hours keeps a complete account of its time. A fold of effects is one step of it,
wherever it has gone in between. Main statements:

* `Session.Successor.accounted`: one call keeps the account, or leaves a time that cannot be
  written;
* `clock_accounted`: the account of a run.
-/

namespace Fabula
variable {game : Game} {registry : Registry}

structure TimeStep where
  before : Value
  after : Value
  hours : Value

def Event.timeStep? (event : Event) : Option TimeStep :=
  match event.happening with
  | .timeStep before after hours _ => some ⟨before, after, hours⟩
  | _ => none

def timeSteps (events : List Event) : List TimeStep :=
  events.filterMap Event.timeStep?

namespace TimeStep

def Chain : Value → List TimeStep → Value → Prop
  | first, [], last => last = first
  | first, step :: rest, last => step.before = first ∧ Chain step.after rest last

theorem Chain.append {steps later : List TimeStep} {first middle last : Value}
    (early : Chain first steps middle) (late : Chain middle later last) :
    Chain first (steps ++ later) last := by
  induction steps generalizing first with
  | nil => exact early ▸ late
  | cons step rest ih => exact ⟨early.1, ih early.2⟩

end TimeStep

namespace Clock

def whole (day hour : Int) : Clock :=
  ⟨.int day, .int hour⟩

def hours? : Clock → Option Int
  | ⟨.number (.int day), .number (.int hour)⟩ => some (hoursPerDay * day + hour)
  | _ => none

/-- Whether time steps account for the way of a clock: they lead from the one time to the other,
and their hours add up to what lies between. -/
structure Accounts (start : Clock) (steps : List TimeStep) (now : Clock) : Prop where
  chain : ∃ first last : String, start.text = .ok first ∧ now.text = .ok last ∧
    TimeStep.Chain first steps last
  hours : ∃ (counted : List Int) (began reached : Int), start.hours? = some began ∧
    now.hours? = some reached ∧ steps.map TimeStep.hours = counted.map Value.int ∧
      counted.sum = reached - began

theorem whole_of_hours? {clock : Clock} {total : Int} (counts : clock.hours? = some total) :
    ∃ day hour, clock = whole day hour ∧ total = hoursPerDay * day + hour := by
  unfold hours? at counts
  split at counts
  · next day hour =>
    cases counts
    exact ⟨day, hour, rfl, rfl⟩
  · cases counts

theorem Accounts.refl {clock : Clock} {total : Int} {shown : String}
    (counts : clock.hours? = some total) (shows : clock.text = .ok shown) :
    clock.Accounts [] clock where
  chain := ⟨shown, shown, shows, shows, rfl⟩
  hours := ⟨[], total, total, counts, counts, rfl, (Int.sub_self total).symm⟩

theorem Accounts.trans {start middle now : Clock} {steps later : List TimeStep}
    (early : start.Accounts steps middle) (late : middle.Accounts later now) :
    start.Accounts (steps ++ later) now := by
  obtain ⟨first, between, starts, passes, chain⟩ := early.chain
  obtain ⟨again, last, passes', ends, chain'⟩ := late.chain
  cases passes.symm.trans passes'
  obtain ⟨counted, began, halfway, begins, halves, read, sum⟩ := early.hours
  obtain ⟨counted', again, reached, halves', reaches, read', sum'⟩ := late.hours
  cases halves.symm.trans halves'
  refine ⟨⟨first, last, starts, ends, chain.append chain'⟩, ?_⟩
  refine ⟨counted ++ counted', began, reached, begins, reaches, ?_, ?_⟩
  · rw [List.map_append, read, read', List.map_append]
  · rw [List.sum_append, sum, sum']
    omega

theorem same_whole {day hour : Int} {clock : Clock} {total : Int}
    (counts : clock.hours? = some total) (same : clock.same (whole day hour)) :
    clock = whole day hour := by
  obtain ⟨day', hour', rfl, _⟩ := whole_of_hours? counts
  simp only [Clock.same, whole, Value.int, Value.alike, Value.arithmetic?, Option.any_some,
    Number.alike, Number.value, Bool.and_eq_true, beq_iff_eq, Binary64.Extended.finite.injEq,
    Rat.intCast_inj] at same
  rw [same.1, same.2]

theorem advance_whole {day hour hours : Int} {clock : Clock}
    (advances : (whole day hour).advance (.int hours) = .ok clock) :
    clock.hours? = some (hoursPerDay * day + hour + hours) := by
  have computes : (whole day hour).advance (.int hours) =
      .ok (whole (day + (hour + hours).fdiv hoursPerDay) ((hour + hours).fmod hoursPerDay)) := rfl
  rw [computes] at advances
  cases advances
  have parts := Int.mul_fdiv_add_fmod (hour + hours) hoursPerDay
  simp only [whole, hours?, Value.int, Option.some.injEq]
  rw [Int.mul_add, Int.add_assoc, parts, Int.add_assoc]

theorem hoursBetween_whole {before after : Clock} {began reached : Int}
    (begins : before.hours? = some began) (reaches : after.hours? = some reached) :
    Play.hoursBetween before after = .ok (.int (reached - began)) := by
  obtain ⟨day, hour, rfl, rfl⟩ := whole_of_hours? begins
  obtain ⟨day', hour', rfl, rfl⟩ := whole_of_hours? reaches
  have computes : Play.hoursBetween (whole day hour) (whole day' hour') =
      .ok (.int ((day' - day) * hoursPerDay + (hour' - hour))) := rfl
  rw [computes]
  congr 2
  simp only [hoursPerDay]
  omega

theorem Measures.whole {before after : Clock} {measured : Except Failure Number}
    {began reached : Int} (measures : before.Measures after measured)
    (begins : before.hours? = some began) (reaches : after.hours? = some reached) :
    measured = .ok (.int (reached - began)) := by
  cases measures with
  | between => exact hoursBetween_whole begins reaches
  | given advances =>
    obtain ⟨day, hour, rfl, rfl⟩ := whole_of_hours? begins
    have reached := (advance_whole advances).symm.trans reaches
    simp only [Option.some.injEq] at reached
    congr 2
    omega

end Clock

section
variable {before after : GameState} {roller rolled : Roller} {total : Int}

def Effect.WholeHours : Effect → Prop
  | .advanceTime hours => ∃ n, hours = .int n
  | _ => True

theorem time_of_apply {effect : Effect} (applies : effect.apply before roller = .ok after rolled) :
    after.time = before.time ∨ ∃ hours, effect = .advanceTime hours ∧
      before.time.advance (.number hours) = .ok after.time := by
  cases touches_of_apply applies with
  | neither time => exact .inl time
  | advances advances => exact .inr ⟨_, rfl, advances⟩
  | adds adds =>
    obtain ⟨_, _, rfl⟩ := addItem_eq adds
    exact .inl rfl
  | removes => exact .inl rfl
  | moves => exact .inl rfl

theorem hours_of_advance {hours : Int} {clock next : Clock} (counts : clock.hours? = some total)
    (advances : clock.advance (.int hours) = .ok next) : ∃ reached, next.hours? = some reached := by
  obtain ⟨day, hour, rfl, _⟩ := Clock.whole_of_hours? counts
  exact ⟨_, Clock.advance_whole advances⟩

theorem hours_of_applyAll {effects : List Effect} (whole : ∀ effect ∈ effects, effect.WholeHours)
    (applies : Effect.applyAll before effects roller = .ok after rolled)
    (counts : before.time.hours? = some total) : ∃ reached, after.time.hours? = some reached := by
  induction effects generalizing before roller total with
  | nil =>
    cases applies
    exact ⟨total, counts⟩
  | cons effect rest ih =>
    obtain ⟨between, middle, early, late⟩ := Play.ok_of_bind applies
    have wholeRest : ∀ other ∈ rest, other.WholeHours := fun other listed =>
      whole other (List.mem_cons_of_mem _ listed)
    obtain same | ⟨hours, rfl, advances⟩ := time_of_apply early
    · exact ih wholeRest late (same ▸ counts)
    · obtain ⟨n, rfl⟩ := whole _ List.mem_cons_self
      obtain ⟨reached, counts⟩ := hours_of_advance counts advances
      exact ih wholeRest late counts

theorem time_of_update {command : Command} (updates : command.update before = .ok after) :
    after.time = before.time := by
  replace updates := command.handle_of_update updates
  cases command with
  | setFlag | clearFlag | setVariable | setQuestStage =>
    obtain ⟨_, rfl⟩ := ok_of_keyed updates
    rfl
  | addItem item =>
    obtain ⟨_, _, rfl⟩ := addItem_eq updates
    rfl
  | _ =>
    cases updates
    rfl

def Registry.WholeHours (registry : Registry) : Prop :=
  ∀ effects, registry.Authored effects → ∀ effect ∈ effects, effect.WholeHours

def Call.WholeHours : Call → Prop
  | .action (.debug effects _) => ∀ effect ∈ effects, effect.WholeHours
  | _ => True

theorem Call.WholeHours.applies {call : Call} {effects : List Effect}
    (brings : call.WholeHours) (authors : registry.WholeHours)
    (applies : call.Applies registry effects) : ∀ effect ∈ effects, effect.WholeHours := by
  cases applies with
  | authored authored => exact authors effects authored
  | debug label => exact brings

variable {call : Call} (authors : game.registry.WholeHours) (brings : call.WholeHours)
include authors brings

theorem hours_of_deed {deed : Deed} (does : deed.Meaning game before after)
    (permitted : call.Permits game.registry deed) (counts : before.time.hours? = some total) :
    ∃ reached, after.time.hours? = some reached := by
  cases does with
  | apply applies => exact hours_of_applyAll (brings.applies authors permitted) applies counts
  | wait advances => exact hours_of_advance counts advances
  | carry carries =>
    obtain ⟨_, _, rfl⟩ := carryItem_eq carries
    exact ⟨total, counts⟩
  | command updates => exact ⟨total, time_of_update updates ▸ counts⟩
  | _ => exact ⟨total, counts⟩

end

theorem timeSteps_append (events later : List Event) :
    timeSteps (events ++ later) = timeSteps events ++ timeSteps later :=
  List.filterMap_append

theorem timeSteps_eq_nil {events : List Event} (other : ∀ event ∈ events, event.kind ≠ .timeStep) :
    timeSteps events = [] := by
  refine List.filterMap_eq_nil_iff.mpr fun event listed => ?_
  have kind := other event listed
  cases happened : event.happening with
  | timeStep before after hours reason =>
    simp [Event.kind, happened, Happening.kind] at kind
  | _ => simp [Event.timeStep?, happened]

theorem ok_of_isOk {α : Type} {result : Except Failure α} (returns : result.isOk) :
    ∃ a, result = .ok a := by
  cases result with
  | ok a => exact ⟨a, rfl⟩
  | error failure => cases returns

theorem RunLog.record_running {log : RunLog} (running : log.isPaused = false) (counts : log.Counts)
    {text : Value} (clock : log.clock = some (.ok text)) (event : Event) :
    ∃ logged next, log.record event = .ok (logged, next) := by
  obtain ⟨n, sequence⟩ := counts
  have next : ∃ m, log.sequence.sum (.int 1) = .ok m := by
    rw [sequence]
    cases n with
    | int n => exact ⟨_, rfl⟩
    | float x => exact ⟨_, rfl⟩
  obtain ⟨m, sums⟩ := next
  simp [record, running, sums, clock, bind, Except.bind, pure, Except.pure]

namespace Session
variable {session next : Session} {call : Call} {start : Clock} {earlier : List Event}

structure Accounted (start : Clock) (earlier : List Event) (session : Session) : Prop where
  running : session.log.isPaused = false
  counts : session.log.Counts
  account : ∃ since, session.log.events = earlier ++ since ∧
    start.Accounts (timeSteps since) session.state.time

theorem Accounted.calm (accounted : session.Accounted start earlier) (calm : session.Calm next) :
    next.Accounted start earlier := by
  obtain ⟨since, logged, account⟩ := accounted.account
  obtain ⟨more, grown, other⟩ := calm.log.events
  refine ⟨calm.log.paused.trans accounted.running, calm.log.counts accounted.counts,
    since ++ more, ?_, ?_⟩
  · rw [grown, logged, List.append_assoc]
  · rw [timeSteps_append, timeSteps_eq_nil other, List.append_nil, calm.state]
    exact account

theorem Accounted.edit (accounted : session.Accounted start earlier) {state : GameState}
    (still : state.time = session.state.time) :
    ({ session with state } : Session).Accounted start earlier := by
  obtain ⟨since, logged, account⟩ := accounted.account
  exact ⟨accounted.running, accounted.counts, since, logged, still ▸ account⟩

theorem record_eq_ok {write : RunLog → Except Failure (Event × RunLog)} {logged : Event × RunLog}
    (writes : write session.clockedLog = .ok logged) :
    Play.record write session = .ok () { session with log := logged.2 } := by
  have asked : (get : Play Session) session = .ok session session := rfl
  rw [Play.record, Play.bind_of_ok asked, writes]
  rfl

theorem logTimeStep_eq {before after : Clock} {hours : Number} {reason first last : String}
    (begins : before.text = .ok first) (ends : after.text = .ok last) :
    Play.logTimeStep game before after (.ok hours) reason = Play.record fun log =>
      log.logTimeStep game.now first last (.number hours) reason .null := by
  have lifted {γ : Type} (a : γ) : (liftM (Except.ok a : Except Failure γ) : Play γ) = pure a := rfl
  simp only [Play.logTimeStep, begins, ends, lifted, pure_bind]

theorem logTimeStep_kept (hours : Number) (reason : String) {before : Clock} {first last : String}
    (running : session.log.isPaused = false) (counts : session.log.Counts)
    (begins : before.text = .ok first) (ends : session.state.time.text = .ok last) :
    ∃ event next, Play.logTimeStep game before session.state.time (.ok hours) reason session =
        .ok () next ∧ next.state = session.state ∧ next.log.isPaused = false ∧ next.log.Counts ∧
      next.log.events = session.log.events ++ [event] ∧
        event.timeStep? = some ⟨first, last, .number hours⟩ := by
  have shown : session.clockedLog.clock = some (.ok (.text last)) := by
    simp [clockedLog, ends, Functor.map, Except.map]
  have goesOn : session.clockedLog.isPaused = false := running
  obtain ⟨event, log, records⟩ := RunLog.record_running goesOn counts shown
    (RunLog.unlogged game.now .null (.timeStep first last (.number hours) reason))
  obtain ⟨paused, ⟨stopped, _⟩ | ⟨numbered, happened, grown⟩⟩ := RunLog.record_eq_ok records
  · simp [goesOn] at stopped
  · refine ⟨event, { session with log }, ?_, rfl, paused.trans running, numbered, grown, ?_⟩
    · rw [logTimeStep_eq begins ends]
      have writes : session.clockedLog.logTimeStep game.now first last (.number hours) reason
          .null = .ok (event, log) := records
      rw [record_eq_ok writes]
    · simp [Event.timeStep?, happened, RunLog.unlogged]

theorem Due.shown {after : GameState} {step : Play Unit} (due : session.Due game call after step)
    (logs : step { session with state := after } = .ok () next) :
    ∃ last, after.time.text = .ok last := by
  cases due with
  | mk does permitted measures =>
    obtain ⟨_, _, _, logs⟩ := Play.ok_of_bind logs
    obtain ⟨last, _, shows, _⟩ := Play.ok_of_bind logs
    exact ⟨last, (Play.ok_of_lift shows).1⟩

section
variable (authors : game.registry.WholeHours) (brings : call.WholeHours)
include authors brings

theorem Accounted.due (accounted : session.Accounted start earlier) {after : GameState}
    {step : Play Unit} {last : String} (due : session.Due game call after step)
    (shows : after.time.text = .ok last) :
    ∃ next, step { session with state := after } = .ok () next ∧
      next.Accounted start earlier := by
  obtain ⟨since, logged, account⟩ := accounted.account
  obtain ⟨_, first, _, begins, _⟩ := account.chain
  obtain ⟨counted, began, reached, _, reaches, _⟩ := account.hours
  cases due with
  | @mk deed _ hours reason does permitted measures =>
    obtain ⟨total, totals⟩ := hours_of_deed authors brings does permitted reaches
    have measured := measures.whole reaches totals
    subst measured
    let middle : Session := { session with state := after }
    have goesOn : middle.log.isPaused = false := accounted.running
    obtain ⟨event, next, logs, kept, running, counts, grown, happened⟩ :=
      logTimeStep_kept (.int (total - reached)) reason goesOn accounted.counts begins shows
    refine ⟨next, logs, running, counts, since ++ [event], ?_, ?_⟩
    · rw [grown, ← List.append_assoc, ← logged]
    · rw [timeSteps_append, kept]
      refine account.trans ⟨⟨first, last, begins, shows, ?_⟩, ?_⟩
      · simp [timeSteps, happened, TimeStep.Chain]
      · refine ⟨[total - reached], reached, total, reaches, totals, ?_, by simp⟩
        simp [timeSteps, happened, Value.int]

theorem Move.accounted (move : session.Move game call next)
    (accounted : session.Accounted start earlier) : next.Accounted start earlier := by
  cases move with
  | calm calm => exact accounted.calm calm
  | clear => exact accounted.edit rfl
  | deed does permitted still =>
    obtain ⟨since, _, account⟩ := accounted.account
    obtain ⟨_, _, reached, _, reaches, _⟩ := account.hours
    obtain ⟨total, totals⟩ := hours_of_deed authors brings does permitted reaches
    obtain same | alike := still
    · exact accounted.edit same
    · obtain ⟨day, hour, whole, _⟩ := Clock.whole_of_hours? reaches
      rw [whole] at alike
      exact accounted.edit ((Clock.same_whole totals alike).trans whole.symm)
  | tick due logs =>
    obtain ⟨last, shows⟩ := due.shown logs
    obtain ⟨again, logged, accounted⟩ := accounted.due authors brings due shows
    cases logs.symm.trans logged
    exact accounted

theorem Moves.accounted (moves : session.Moves game call next)
    (accounted : session.Accounted start earlier) : next.Accounted start earlier := by
  induction moves with
  | refl => exact accounted
  | tail _ move ih => exact move.accounted authors brings ih

theorem Successor.accounted (ends : session.Successor game call next)
    (accounted : session.Accounted start earlier) (written : next.state.time.text.isOk) :
    next.Accounted start earlier := by
  obtain ⟨last, moves, rfl | ⟨due, fails⟩⟩ := ends
  · exact Moves.accounted authors brings moves accounted
  · -- The call has halted after a deed, and its time step could have been logged.
    have before := Moves.accounted authors brings moves accounted
    have left := due.state_of_after
    rw [Play.after_of_error fails] at left
    rw [left] at written
    obtain ⟨shown, shows⟩ := ok_of_isOk written
    obtain ⟨_, logs, _⟩ := before.due authors brings due shows
    rw [fails] at logs
    cases logs

end
end Session

/-- Runs over a registry that go on from a new game, whose log is not paused. Their calls may fail,
but each leaves a time that can be written. -/
def Registry.timing (registry : Registry) (setup : Setup) (before : Session) : RunKind Unit where
  Begins _ session := ∃ turn : Turn, turn.game.registry = registry ∧
    turn.call = .action (.newGame setup) ∧ turn.session = before ∧ before.log.isPaused = false ∧
      turn.Begins ∧ turn.after = session ∧ session.state.time.text.isOk
  Goes _ turn _ := turn.game.registry = registry ∧ turn.call.resets = false ∧
    turn.call.WholeHours ∧ turn.after.state.time.text.isOk

def Timed (registry : Registry) (setup : Setup) (before session : Session) : Prop :=
  Run (registry.timing setup before) () session

theorem start_written {setup : Setup} {session : Session}
    (begins : (⟨game, .action (.newGame setup), session⟩ : Turn).Begins)
    (written : (Play.after (Play.call game (.action (.newGame setup)))
      session).state.time.text.isOk) : ∃ shown, setup.time.text = .ok shown := by
  cases shows : setup.time.text with
  | ok shown => exact ⟨shown, rfl⟩
  | error failure =>
    -- The new game fails as soon as it has replaced the state.
    have same := Play.call_newGame game setup
    cases run : Play.logAction game "new_game" [("start_location", setup.location)] session with
    | error fault middle =>
      have fails : Play.call game (.action (.newGame setup)) session = .error fault middle := by
        rw [same, Play.bind_of_error run]
      have calm := (Play.Calms.logAction _ _).of_error run
      exact absurd calm.state (begins _ _ fails)
    | ok _ middle =>
      have fails : Play.call game (.action (.newGame setup)) session =
          .error failure { middle with state := .initial game setup } := by
        rw [same, Play.bind_of_ok run]
        refine Play.bind_of_ok rfl |>.trans (Play.bind_of_error ?_)
        have asked : Play.state { middle with state := GameState.initial game setup } =
          .ok (.initial game setup) { middle with state := .initial game setup } := rfl
        have time : (GameState.initial game setup).time.text = .error failure := shows
        rw [Play.requireTime, Play.bind_of_ok asked, time]
        rfl
      rw [Play.after_of_error fails] at written
      have time : (GameState.initial game setup).time.text = .error failure := shows
      rw [time] at written
      cases written

theorem Session.Accounted.newGame {setup : Setup} {before : Session} {day hour : Int}
    (authors : game.registry.WholeHours) (whole : setup.time = .whole day hour)
    (running : before.log.isPaused = false)
    (begins : (⟨game, .action (.newGame setup), before⟩ : Turn).Begins)
    (written : (Play.after (Play.call game (.action (.newGame setup)))
      before).state.time.text.isOk) :
    (Play.after (Play.call game (.action (.newGame setup))) before).Accounted setup.time
      before.log.events := by
  obtain ⟨middle, opening, start, calm, logged, opens, ends⟩ := begins.opens
  cases opens with
  | other goesOn => cases goesOn
  | newGame =>
    have counts := (logged rfl).resolve_left (by simp [calm.log.paused, running])
    obtain ⟨since, grown, other⟩ := calm.log.events
    obtain ⟨shown, shows⟩ := start_written begins written
    have begun : ({ middle with state := .initial game setup } : Session).Accounted setup.time
        before.log.events := by
      refine ⟨calm.log.paused.trans running, counts, since, grown, ?_⟩
      rw [timeSteps_eq_nil other]
      have starts : setup.time.hours? = some (Clock.hoursPerDay * day + hour) := by
        rw [whole]
        rfl
      exact .refl starts shows
    have brings : Call.WholeHours (.action (.newGame setup)) := trivial
    exact ends.accounted authors brings begun written

theorem Session.Accounted.call {start : Clock} {earlier : List Event} {session : Session}
    {call : Call} (authors : game.registry.WholeHours)
    (accounted : session.Accounted start earlier) (goesOn : call.resets = false)
    (brings : call.WholeHours)
    (written : (Play.after (Play.call game call) session).state.time.text.isOk) :
    (Play.after (Play.call game call) session).Accounted start earlier := by
  cases aftermath_of_call game call session with
  | early fails calm => exact accounted.calm calm
  | opened calm _ opens ends =>
    cases opens with
    | other goesOn =>
      have begun := (accounted.calm calm).edit (congrArg GameState.time calm.state.symm)
      exact ends.accounted authors brings begun written
    | _ => cases goesOn

theorem Timed.accounted {setup : Setup} {before session : Session} {day hour : Int}
    (timed : Timed registry setup before session) (authors : registry.WholeHours)
    (whole : setup.time = .whole day hour) :
    session.Accounted setup.time before.log.events := by
  refine Run.keeps (I := fun _ session => session.Accounted setup.time before.log.events) timed
    ?_ ?_ fun _ _ _ => False.elim
  · rintro _ _ ⟨⟨game, call, _⟩, rfl, rfl, rfl, running, begins, rfl, written⟩
    exact .newGame authors whole running begins written
  · rintro _ ⟨game, call, session⟩ _ ⟨rfl, goesOn, brings, written⟩ accounted
    exact accounted.call authors goesOn brings written

/-- The account of a run. The time steps that have been logged since a new game began lead from the
time at which it starts to the time that the clock shows, and the hours in them add up to the hours
between the two. -/
theorem clock_accounted {setup : Setup} {before session : Session} {day hour : Int}
    (authors : registry.WholeHours) (whole : setup.time = .whole day hour)
    (timed : Timed registry setup before session) :
    ∃ since, session.log.events = before.log.events ++ since ∧
      setup.time.Accounts (timeSteps since) session.state.time :=
  (timed.accounted authors whole).account

theorem guide_whole : guideRegistry.WholeHours := by
  have known {dialogue : Dialogue} (listed : dialogue ∈ guideRegistry.dialogues.values) :
      dialogue.nodes = [guideNode] := by
    simp only [guideRegistry, Table.values, List.map_cons, List.map_nil,
      List.mem_singleton] at listed
    rw [listed]
  intro effects authored
  cases authored with
  | node dialogue listed =>
    rw [known dialogue] at listed
    cases List.mem_singleton.mp listed
    simp [guideNode, Effect.WholeHours]
  | choice dialogue listed offered =>
    rw [known dialogue] at listed
    cases List.mem_singleton.mp listed
    cases List.mem_singleton.mp offered
    simp
  | interlude listed => cases listed

theorem guide_timed : Timed guideRegistry guideSetup guideSession guideTalks.after := by
  have written : guideBegins.after.state.time.text.isOk := by decide +kernel
  have started : Timed guideRegistry guideSetup guideSession guideBegins.after :=
    .begin ⟨guideBegins, rfl, rfl, rfl, rfl, guide_begins.begins, rfl, written⟩
  exact .turn started ⟨rfl, rfl, trivial, by decide +kernel⟩

theorem clock_accounted_guide : guideRegistry.WholeHours ∧ guideSetup.time = .whole 1 0 ∧
    Timed guideRegistry guideSetup guideSession guideTalks.after ∧
      ∃ since, guideTalks.after.log.events = guideSession.log.events ++ since ∧
        guideSetup.time.Accounts (timeSteps since) guideTalks.after.state.time ∧
          (timeSteps since).length = 1 := by
  obtain ⟨since, logged, account⟩ := clock_accounted guide_whole rfl guide_timed
  have steps : (timeSteps guideTalks.after.log.events).length = 1 := by decide +kernel
  have none : guideSession.log.events = [] := rfl
  rw [logged, none, List.nil_append] at steps
  exact ⟨guide_whole, rfl, guide_timed, since, logged, account, steps⟩

end Fabula
