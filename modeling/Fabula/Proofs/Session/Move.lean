import Mathlib.Logic.Relation
import Fabula.Proofs.Session.CallMeaning
/-!
# What a call does to state and log

A call moves a session in small ways, whether it returns or fails: it asks, logs and rolls, it does
a deed that leaves the clock alone, it does one that moves the clock and logs a time step, or it
clears the cues. A call that fails halts where it stands, or between a deed and the time step that
would have been logged for it.
-/

namespace Fabula
variable {α β : Type} {game : Game}

namespace RunLog

def Counts (log : RunLog) : Prop :=
  ∃ n, log.sequence = .number n

structure Grows (log next : RunLog) : Prop where
  paused : next.isPaused = log.isPaused
  counts : log.Counts → next.Counts
  events : ∃ since, next.events = log.events ++ since ∧ ∀ event ∈ since, event.kind ≠ .timeStep

theorem Grows.refl (log : RunLog) : log.Grows log :=
  ⟨rfl, id, [], (List.append_nil _).symm, fun _ listed => by cases listed⟩

theorem Grows.trans {log between next : RunLog} (first : log.Grows between)
    (rest : between.Grows next) : log.Grows next := by
  obtain ⟨early, early_eq, early_other⟩ := first.events
  obtain ⟨late, late_eq, late_other⟩ := rest.events
  refine ⟨rest.paused.trans first.paused, rest.counts ∘ first.counts, early ++ late, ?_, ?_⟩
  · rw [late_eq, early_eq, List.append_assoc]
  · intro event listed
    exact (List.mem_append.mp listed).elim (early_other event) (late_other event)

theorem skip_grows (log : RunLog) : log.Grows log.skip := by
  unfold skip
  cases log.sequence.sum (.int 1) with
  | ok n => exact ⟨rfl, fun _ => ⟨n, rfl⟩, [], (List.append_nil _).symm, fun _ h => by cases h⟩
  | error failure => exact .refl log

theorem record_eq_ok {log next : RunLog} {event logged : Event}
    (records : log.record event = .ok (logged, next)) :
    next.isPaused = log.isPaused ∧
      (log.isPaused = true ∧ next = log ∨
        next.Counts ∧ logged.happening = event.happening ∧
          next.events = log.events ++ [logged]) := by
  unfold record at records
  cases paused : log.isPaused with
  | true =>
    simp only [paused, if_true] at records
    cases records
    exact ⟨paused, .inl ⟨rfl, rfl⟩⟩
  | false =>
    simp only [paused, Bool.false_eq_true, if_false, bind, Except.bind] at records
    cases sums : log.sequence.sum (.int 1) with
    | error failure => simp [sums] at records
    | ok n =>
      cases shown : log.clock.getD (.ok event.gameTime) with
      | error failure => simp [sums, shown] at records
      | ok text =>
        simp only [sums, shown, pure, Except.pure] at records
        cases records
        exact ⟨rfl, .inr ⟨⟨n, rfl⟩, rfl, rfl⟩⟩

theorem record_grows {log next : RunLog} {event logged : Event} (other : event.kind ≠ .timeStep)
    (records : log.record event = .ok (logged, next)) : log.Grows next := by
  obtain ⟨paused, ⟨_, rfl⟩ | ⟨counts, happened, events⟩⟩ := record_eq_ok records
  · exact .refl _
  · refine ⟨paused, fun _ => counts, [logged], events, ?_⟩
    rintro event listed
    cases List.mem_singleton.mp listed
    simpa only [Event.kind, happened] using other

def Logged (log : RunLog) : Prop :=
  log.isPaused = true ∨ log.Counts

theorem logged_of_record {log next : RunLog} {event logged : Event}
    (records : log.record event = .ok (logged, next)) : next.Logged := by
  obtain ⟨_, ⟨paused, rfl⟩ | ⟨counts, _, _⟩⟩ := record_eq_ok records
  · exact .inl paused
  · exact .inr counts

end RunLog

structure Session.Calm (session next : Session) : Prop where
  state : next.state = session.state
  log : session.log.Grows next.log

theorem Session.Calm.refl (session : Session) : session.Calm session :=
  ⟨rfl, .refl _⟩

theorem Session.Calm.trans {session between next : Session} (first : session.Calm between)
    (rest : between.Calm next) : session.Calm next :=
  ⟨rest.state.trans first.state, first.log.trans rest.log⟩

namespace Play

def Calms (computation : Play α) : Prop :=
  ∀ session : Session, session.Calm (after computation session)

namespace Calms

theorem of_ok {computation : Play α} (calms : Calms computation) {session next : Session} {a : α}
    (returns : computation session = .ok a next) : session.Calm next :=
  after_of_ok returns ▸ calms session

theorem of_error {computation : Play α} (calms : Calms computation) {session next : Session}
    {failure : Failure} (fails : computation session = .error failure next) : session.Calm next :=
  after_of_error fails ▸ calms session

theorem bind {first : Play α} {next : α → Play β} (calms : Calms first)
    (rest : ∀ a, Calms (next a)) : Calms (first >>= next) :=
  after_bind (R := Session.Calm) .trans calms rest

theorem lift (result : Except Failure α) : Calms (liftM result) := by
  intro session
  cases result <;> exact .refl session

theorem pure (a : α) : Calms (pure a) :=
  lift (.ok a)

theorem state : Calms state :=
  fun session => .refl session

theorem session : Calms (get : Play Session) :=
  fun session => .refl session

theorem modify {change : Session → Session}
    (keeps : ∀ session : Session, session.Calm (change session)) : Calms (modify change) :=
  keeps

theorem findM? {items : List α} {check : α → Play Bool} (each : ∀ item, Calms (check item)) :
    Calms (items.findM? check) :=
  findM?_closed (C := Calms) .pure .bind each

theorem record {write : RunLog → Except Failure (Event × RunLog)}
    (grows : ∀ log logged, write log = .ok logged → log.Grows logged.2) :
    Calms (record write) := by
  intro session
  rw [after, outcome_record]
  cases written : write session.clockedLog with
  | ok logged =>
    have grown := grows _ _ written
    exact ⟨rfl, grown.paused, grown.counts, grown.events⟩
  | error failure => exact ⟨rfl, session.log.skip_grows⟩

theorem logAction (name : String) (arguments : List (String × Value)) :
    Calms (logAction game name arguments) :=
  .record fun _ _ => RunLog.record_grows (by simp [RunLog.unlogged, Event.kind, Happening.kind])

theorem logCommand (name : String) (arguments : List Value) :
    Calms (logCommand game name arguments) :=
  .record fun _ _ => RunLog.record_grows (by simp [RunLog.unlogged, Event.kind, Happening.kind])

theorem logDraw (draw : Draw) : Calms (logDraw game draw) := by
  refine .record fun log logged written => ?_
  cases rolls : draw.rolls.items with
  | error failure => simp [RunLog.logRoll, rolls, Bind.bind, Except.bind] at written
  | ok items =>
    simp only [RunLog.logRoll, rolls, Bind.bind, Except.bind] at written
    exact RunLog.record_grows (by simp [RunLog.unlogged, Event.kind, Happening.kind]) written

theorem logDraws (draws : List Draw) : Calms (draws.forM (Play.logDraw game)) := by
  induction draws with
  | nil => exact .pure _
  | cons draw rest ih => exact .bind (.logDraw draw) fun _ => ih

theorem settle (roller : Roller) : Calms (settle game roller) :=
  .bind .session fun _ => .bind (.modify fun _ => ⟨rfl, .refl _⟩) fun _ => .logDraws _

theorem rolling (computation : Rolling α) : Calms (rolling game computation) := by
  intro session
  rw [after, outcome, rolling_eq]
  exact Calms.bind (.settle _) (fun _ => .lift _) session

theorem allPass (conditions : List Condition) : Calms (allPass game conditions) :=
  .bind .state fun _ => .rolling _

theorem findTarget (node : Node) : Calms (findTarget game node) := by
  refine .bind (.bind .state fun _ => .findM? fun _ => .rolling _) fun found => ?_
  cases found <;> exact .pure _

theorem pending : Calms pending := by
  intro session
  rw [after_of_ok (pending_eq session)]
  exact .refl session

theorem firesAt (location : Value) (dialogue : Dialogue) :
    Calms (firesAt game location dialogue) := by
  unfold Play.firesAt
  split
  · exact .pure _
  · refine .bind (.allPass _) fun passes => ?_
    cases passes <;> exact .pure _

theorem interludeFiresAt (location : Value) (interlude : Interlude) :
    Calms (interludeFiresAt game location interlude) := by
  unfold Play.interludeFiresAt
  split
  · exact .pure _
  · exact .allPass _

theorem requireTime : Calms requireTime :=
  .bind .state fun _ => .bind (.lift _) fun _ => .pure _

theorem currentNode : Calms (currentNode game) :=
  .bind .state fun _ => .lift _

theorem takeStep (step : Step) : Calms (takeStep game step) :=
  .bind (.modify fun session => ⟨rfl, .refl _⟩) fun _ =>
    .bind (.record fun _ _ => RunLog.record_grows
      (by simp [RunLog.unlogged, Event.kind, Happening.kind])) fun _ =>
      .modify fun session => ⟨rfl, .refl _⟩

theorem observe (trigger : String) : Calms (observe game trigger) := by
  refine .bind .session fun session => .bind (.lift _) fun found => ?_
  cases found with
  | some step => exact .takeStep step
  | none => exact .pure _

theorem save : Calms (save game) :=
  .bind (.logAction _ _) fun _ => .bind .requireTime fun _ => .bind .state fun _ => .pure _

end Calms
end Play

inductive Registry.Authored (registry : Registry) : List Effect → Prop
  | node {dialogue : Dialogue} {node : Node} (known : dialogue ∈ registry.dialogues.values)
      (listed : node ∈ dialogue.nodes) : Authored registry node.effects
  | choice {dialogue : Dialogue} {node : Node} {choice : Choice}
      (known : dialogue ∈ registry.dialogues.values) (listed : node ∈ dialogue.nodes)
      (offered : choice ∈ node.choices) : Authored registry choice.effects
  | interlude {interlude : Interlude} (known : interlude ∈ registry.interludes.values) :
      Authored registry interlude.effects

inductive Call.Applies (registry : Registry) : Call → List Effect → Prop
  | authored {call : Call} {effects : List Effect} (authored : registry.Authored effects) :
      Applies registry call effects
  | debug (effects : List Effect) (label : Value) :
      Applies registry (.action (.debug effects label)) effects

def Call.writes : Call → Bool
  | .action (.writeNote _ _) | .action (.deleteNote _) => true
  | _ => false

def Call.translates : Call → Bool
  | .action (.setLocale _) => true
  | _ => false

/-- Whether a deed is one that a call can do: effects are those that the call can apply, and notes
and the locale are left to the calls that are about them. -/
def Call.Permits (registry : Registry) (call : Call) : Deed → Prop
  | .apply effects => call.Applies registry effects
  | .write _ | .delete _ => call.writes
  | .translate _ => call.translates
  | _ => True

inductive Clock.Measures (before after : Clock) : Except Failure Number → Prop
  | given {hours : Int} (advances : before.advance (.int hours) = .ok after) :
      Measures before after (.ok (.int hours))
  | between : Measures before after (Play.hoursBetween before after)

namespace Session
variable {call : Call} {session between next : Session}

/-- A deed that moves the clock, and the time step that is to be logged after it. -/
inductive Due (game : Game) (call : Call) (session : Session) : GameState → Play Unit → Prop
  | mk {deed : Deed} {after : GameState} {hours : Except Failure Number} {reason : String}
      (does : deed.Meaning game session.state after) (permitted : call.Permits game.registry deed)
      (measures : session.state.time.Measures after.time hours) :
      Due game call session after
        (Play.logTimeStep game session.state.time after.time hours reason)

inductive Move (game : Game) (call : Call) : Session → Session → Prop
  | calm {session next : Session} (calm : session.Calm next) : Move game call session next
  | deed {session : Session} {deed : Deed} {after : GameState}
      (does : deed.Meaning game session.state after) (permitted : call.Permits game.registry deed)
      (still : after.time = session.state.time ∨ after.time.same session.state.time) :
      Move game call session { session with state := after }
  | tick {session next : Session} {after : GameState} {step : Play Unit}
      (due : session.Due game call after step)
      (logs : step { session with state := after } = .ok () next) : Move game call session next
  | clear {session : Session} : Move game call session
      { session with state := session.state.clearCues }

/-- What is left where a time step cannot be logged. -/
inductive Halt (game : Game) (call : Call) : Session → Session → Prop
  | mk {session next : Session} {after : GameState} {step : Play Unit} {failure : Failure}
      (due : session.Due game call after step)
      (fails : step { session with state := after } = .error failure next) :
      Halt game call session next

abbrev Moves (game : Game) (call : Call) : Session → Session → Prop :=
  Relation.ReflTransGen (Move game call)

def Successor (game : Game) (call : Call) (session next : Session) : Prop :=
  ∃ last, session.Moves game call last ∧ (next = last ∨ last.Halt game call next)

theorem Calm.moves (calm : session.Calm next) : session.Moves game call next :=
  .single (.calm calm)

theorem Moves.ends (moves : session.Moves game call next) : session.Successor game call next :=
  ⟨next, moves, .inl rfl⟩

theorem Halt.ends (halts : session.Halt game call next) : session.Successor game call next :=
  ⟨session, .refl, .inr halts⟩

theorem Moves.trans_successor (moves : session.Moves game call between)
    (ends : between.Successor game call next) : session.Successor game call next := by
  obtain ⟨last, rest, halts⟩ := ends
  exact ⟨last, Relation.ReflTransGen.trans moves rest, halts⟩

theorem Due.state_of_after {after : GameState} {step : Play Unit}
    (due : session.Due game call after step) :
    (Play.after step { session with state := after }).state = after := by
  cases due with
  | mk does permitted measures => exact (Play.Stays.logTimeStep _ _ _ _ _).state

theorem Due.deed {after : GameState} {step : Play Unit} (due : session.Due game call after step) :
    ∃ deed : Deed, deed.Meaning game session.state after ∧ call.Permits game.registry deed := by
  cases due with
  | mk does permitted measures => exact ⟨_, does, permitted⟩

section
variable {I : GameState → Prop}
  (does : ∀ (deed : Deed) (before after : GameState), deed.Meaning game before after →
    call.Permits game.registry deed → I before → I after)
  (clears : ∀ state : GameState, I state → I state.clearCues)
include does

theorem Due.keeps {after : GameState} {step : Play Unit} (due : session.Due game call after step)
    (left : Play.after step { session with state := after } = next) (holds : I session.state) :
    I next.state := by
  obtain ⟨deed, done, permitted⟩ := due.deed
  rw [← left, due.state_of_after]
  exact does deed _ _ done permitted holds

include clears

theorem Move.keeps (move : session.Move game call next) (holds : I session.state) :
    I next.state := by
  cases move with
  | calm calm => rwa [calm.state]
  | deed done permitted still => exact does _ _ _ done permitted holds
  | tick due logs => exact due.keeps does (Play.after_of_ok logs) holds
  | clear => exact clears _ holds

theorem Moves.keeps (moves : session.Moves game call next) (holds : I session.state) :
    I next.state := by
  induction moves with
  | refl => exact holds
  | tail _ move ih => exact move.keeps does clears ih

theorem Successor.keeps (ends : session.Successor game call next) (holds : I session.state) :
    I next.state := by
  obtain ⟨last, moves, rfl | ⟨due, fails⟩⟩ := ends
  · exact Moves.keeps does clears moves holds
  · have kept := Moves.keeps does clears moves holds
    exact due.keeps does (Play.after_of_error fails) kept

end

end Session
end Fabula
