import Fabula.Phase
import Fabula.Proofs.Dialogue.Record
import Fabula.Proofs.RunLog.Numbered
/-!
# What a machine records

A machine outside of a session is told of places by whoever uses it. Some of them it refuses, some
it has been at before, and all others it takes a step to. Its phase, its history, its log and the
calls of its hooks are kept apart, and `Faithful` says what they have to do with each other. Main
statements:

* `observe_refused`, `observe_stays`, `observe_taken`: a machine by itself takes the steps that a
  machine in a session would take;
* `Faithful.observe`: what becomes of one place;
* `observations_recorded`: what is recorded of any places.
-/

namespace Fabula

namespace Step

def Path : String → List Step → String → Prop
  | first, [], last => last = first
  | first, step :: rest, last =>
    Cursor.describe step.source = first ∧ Path (Cursor.describe step.target) rest last

theorem Path.concat {first : String} {steps : List Step} {step : Step}
    (path : Path first steps (Cursor.describe step.source)) :
    Path first (steps ++ [step]) (Cursor.describe step.target) := by
  induction steps generalizing first with
  | nil => exact ⟨path, rfl⟩
  | cons head rest ih => exact ⟨path.1, ih path.2⟩

def Lawful (step : Step) : Prop :=
  Phase.ofCursor step.source = Phase.ofCursor step.target ∨
    ∃ trigger, step.trigger = .text trigger ∧
      ⟨Phase.ofCursor step.source, Phase.ofCursor step.target, trigger⟩ ∈ Transition.table

def happening (step : Step) : Happening :=
  .transition (Cursor.describe step.source) (Cursor.describe step.target) step.trigger

end Step

theorem eq_text_of_same {value : Value} {s : String} (same : value.same s) : value = .text s := by
  cases value with
  | text t =>
    have equal : t = s := by simpa using same
    rw [equal]
  | null | list | record => simp [Value.same, Value.alike] at same
  | bool | number => simp [Value.same, Value.alike, Value.arithmetic?] at same

theorem PhaseMachine.lawful_of_permits {machine : PhaseMachine} {cursor : Option Cursor}
    {trigger : Value} (permitted : machine.permits (.ofCursor cursor) trigger = .ok true)
    (context : Value) : Step.Lawful ⟨machine.cursor, cursor, trigger, context⟩ := by
  unfold permits at permitted
  split at permitted
  · next stays => exact .inl (beq_iff_eq.mp stays).symm
  · cases keyed : trigger.key with
    | error failure =>
      rw [keyed] at permitted
      cases permitted
    | ok key =>
      rw [keyed] at permitted
      obtain ⟨⟨source, target, name⟩, member, fits⟩ :=
        List.any_eq_true.mp (Except.ok.inj permitted)
      simp only [Bool.and_eq_true, beq_iff_eq] at fits
      obtain ⟨⟨rfl, rfl⟩, same⟩ := fits
      exact .inr ⟨name, eq_text_of_same same, member⟩

theorem PhaseMachine.permits_of_lawful {machine : PhaseMachine} {cursor : Option Cursor}
    {trigger context : Value} (lawful : Step.Lawful ⟨machine.cursor, cursor, trigger, context⟩) :
    machine.permits (.ofCursor cursor) trigger = .ok true := by
  rcases lawful with stays | ⟨name, rfl, member⟩
  · exact if_pos (beq_iff_eq.mpr stays.symm)
  · unfold permits
    split
    · rfl
    · have fits : (Transition.table.any fun transition =>
          transition.source == machine.phase && transition.target == .ofCursor cursor &&
            (Value.text name).same transition.trigger) = true :=
        List.any_eq_true.mpr ⟨_, member, by simp [phase]⟩
      show Except.ok _ = _
      rw [fits]

theorem PhaseMachine.step?_of_lawful {machine : PhaseMachine} {cursor : Option Cursor}
    {trigger context : Value} (moves : Cursor.sameOption cursor machine.cursor = false)
    (lawful : Step.Lawful ⟨machine.cursor, cursor, trigger, context.orElse (.record [])⟩) :
    machine.step? cursor trigger context =
      .ok (some ⟨machine.cursor, cursor, trigger, context.orElse (.record [])⟩) := by
  simp [step?, moves, permits_of_lawful lawful, bind, Except.bind, pure, Except.pure]

theorem PhaseMachine.of_step? {machine : PhaseMachine} {cursor : Option Cursor}
    {trigger context : Value} {step : Step}
    (stepped : machine.step? cursor trigger context = .ok (some step)) :
    step.source = machine.cursor ∧ step.target = cursor ∧ step.trigger = trigger ∧
      step.context = context.orElse (.record []) ∧ step.Lawful := by
  unfold step? at stepped
  by_cases same : Cursor.sameOption cursor machine.cursor
  · simp [same, pure, Except.pure] at stepped
  · cases permitted : machine.permits (.ofCursor cursor) trigger with
    | error failure => simp [same, permitted, bind, Except.bind] at stepped
    | ok allowed =>
      cases allowed with
      | false =>
        simp [same, permitted, bind, Except.bind, throw, throwThe, MonadExceptOf.throw] at stepped
      | true =>
        simp only [same, permitted, Bool.false_eq_true, if_false, Bool.not_true, bind, Except.bind,
          pure, Except.pure, Except.ok.injEq, Option.some.injEq] at stepped
        cases stepped
        exact ⟨rfl, rfl, rfl, rfl, lawful_of_permits permitted _⟩

namespace Tracker

variable {tracker : Tracker}

theorem step?_eq (coherent : tracker.phase = tracker.machine.phase) (cursor : Option Cursor)
    (trigger context : Value) :
    tracker.step? cursor trigger context = tracker.machine.step? cursor trigger context := by
  simp only [step?, permits, coherent, PhaseMachine.step?, PhaseMachine.permits]

section Observe
variable {now : Moment} {cursor : Option Cursor} {trigger context : Value}

theorem observe_refused (coherent : tracker.phase = tracker.machine.phase) {failure : Failure}
    (refused : tracker.machine.step? cursor trigger context = .error failure) :
    observe now cursor trigger context tracker = .error failure tracker := by
  show ((liftM (tracker.step? cursor trigger context) : EStateM Failure Tracker _) >>= _) _ = _
  rw [step?_eq coherent, refused]
  rfl

theorem observe_stays (coherent : tracker.phase = tracker.machine.phase)
    (stays : tracker.machine.step? cursor trigger context = .ok none) :
    observe now cursor trigger context tracker = .ok false tracker := by
  show ((liftM (tracker.step? cursor trigger context) : EStateM Failure Tracker _) >>= _) _ = _
  rw [step?_eq coherent, stays]
  rfl

theorem observe_taken (coherent : tracker.phase = tracker.machine.phase) {step : Step}
    {next : Tracker} (stepped : tracker.machine.step? cursor trigger context = .ok (some step))
    (taken : take now step tracker = .ok () next) :
    observe now cursor trigger context tracker = .ok true next := by
  show ((liftM (tracker.step? cursor trigger context) : EStateM Failure Tracker _) >>= _) _ = _
  rw [step?_eq coherent, stepped]
  show (take now step >>= fun _ => pure true) tracker = _
  simp only [bind, EStateM.bind, taken]
  rfl

end Observe

def callsOf (tracker : Tracker) (hook : Nat) : List Step :=
  (tracker.machine.calls.filter (·.1 == hook)).map (·.2)

/-- Whether everything that a machine keeps says the same: its phase is that of the place, the
history leads there by lawful steps, and the log has them too. -/
structure Faithful (tracker : Tracker) (log : RunLog) : Prop where
  attached : tracker.log = some log
  numbered : log.Numbered
  running : log.isPaused = false
  coherent : tracker.phase = .ofCursor tracker.machine.cursor
  path : Step.Path "idle" tracker.machine.history (Cursor.describe tracker.machine.cursor)
  lawful : ∀ step ∈ tracker.machine.history, step.Lawful
  mirrored : (log.ofKind .transition).map (fun event => (event.happening, event.context)) =
    tracker.machine.history.map fun step => (step.happening, step.context)
  uncalled : ∀ hook, tracker.machine.hooks ≤ hook → tracker.callsOf hook = []

/-- Whether a machine goes on from another one: what it has recorded since has been handed to every
hook that was there. -/
def Continues (tracker next : Tracker) : Prop :=
  tracker.machine.hooks ≤ next.machine.hooks ∧
    ∃ steps, next.machine.history = tracker.machine.history ++ steps ∧
      ∀ hook, hook < tracker.machine.hooks → next.callsOf hook = tracker.callsOf hook ++ steps

theorem new_faithful (start : Moment) : (new (some (.new start))).Faithful (.new start) where
  attached := rfl
  numbered := RunLog.new_numbered start
  running := rfl
  coherent := rfl
  path := rfl
  lawful _ member := by cases member
  mirrored := rfl
  uncalled _ _ := rfl

theorem Continues.refl (tracker : Tracker) : tracker.Continues tracker :=
  ⟨le_refl _, [], by simp, by simp⟩

theorem Continues.trans {between next : Tracker} (early : tracker.Continues between)
    (late : between.Continues next) : tracker.Continues next := by
  obtain ⟨more, steps, recorded, called⟩ := early
  obtain ⟨evenMore, later, recordedLater, calledLater⟩ := late
  refine ⟨more.trans evenMore, steps ++ later, ?_, ?_⟩
  · rw [recordedLater, recorded, List.append_assoc]
  · intro hook known
    rw [calledLater hook (known.trans_le more), called hook known, List.append_assoc]

theorem filter_range (hook hooks : Nat) (step : Step) :
    (((List.range hooks).map (·, step)).filter (·.1 == hook)).map (·.2) =
      if hook < hooks then [step] else [] := by
  induction hooks with
  | zero => rfl
  | succ hooks ih =>
    rw [List.range_succ, List.map_append, List.filter_append, List.map_append, ih]
    by_cases last : hooks = hook
    · simp [last]
    · by_cases known : hook < hooks
      · have known' : hook < hooks + 1 := by omega
        simp [last, known, known']
      · have unknown : ¬ hook < hooks + 1 := by omega
        simp [last, known, unknown]

theorem callsOf_take {next : Tracker} {step : Step}
    (taken : next.machine = tracker.machine.take step) (hook : Nat) :
    next.callsOf hook =
      tracker.callsOf hook ++ if hook < tracker.machine.hooks then [step] else [] := by
  rw [← filter_range, callsOf, taken]
  simp [callsOf, PhaseMachine.take, PhaseMachine.move, PhaseMachine.note]

namespace Faithful
variable {log : RunLog}

theorem take (faithful : tracker.Faithful log) (now : Moment) {step : Step}
    (starts : step.source = tracker.machine.cursor)
    (settled : step.context.orElse (.record []) = step.context) (lawful : step.Lawful) :
    ∃ next log, Tracker.take now step tracker = .ok () next ∧ next.Faithful log ∧
      next.machine = tracker.machine.take step := by
  have attached := faithful.attached
  let event := RunLog.unlogged now step.context step.happening
  rcases faithful.numbered.record_eq event with ⟨paused, _⟩ | ⟨time, _, recorded⟩
  · cases paused.symm.trans faithful.running
  let kept := event.numbered (log.events.length + 1) time
  let next : Tracker := ⟨.ofCursor step.target, tracker.machine.take step, some (log.keeping kept)⟩
  have taken : Tracker.take now step tracker = .ok () next := by
    obtain ⟨phase, machine, log'⟩ := tracker
    cases attached
    have written : log.logTransition now (Cursor.describe step.source)
        (Cursor.describe step.target) step.trigger step.context = .ok (kept, log.keeping kept) :=
      recorded
    have logged : logStep now step ⟨phase, machine.note step, some log⟩ =
        .ok () ⟨phase, machine.note step, some (log.keeping kept)⟩ := by
      simp only [logStep, written]
    show (logStep now step >>= fun _ => _) _ = _
    simp only [bind, EStateM.bind]
    rw [logged]
    rfl
  refine ⟨next, log.keeping kept, taken, ?_, rfl⟩
  have recordedStep : next.machine.history = tracker.machine.history ++ [step] := rfl
  exact {
    attached := rfl
    numbered := faithful.numbered.keeping rfl
    running := faithful.running
    coherent := rfl
    path := by
      rw [recordedStep]
      have path := faithful.path
      rw [← starts] at path
      exact path.concat
    lawful := by
      rw [recordedStep]
      intro other member
      rcases List.mem_append.mp member with earlier | last
      · exact faithful.lawful other earlier
      · rwa [List.mem_singleton.mp last]
    mirrored := by
      have mirrored := faithful.mirrored
      rw [recordedStep, List.map_append, ← mirrored]
      simp [RunLog.ofKind, RunLog.keeping, kept, event, Event.numbered, RunLog.unlogged,
        Step.happening, Happening.isA, settled]
    uncalled := by
      intro hook unknown
      have unknown' : ¬ hook < tracker.machine.hooks := Nat.not_lt.mpr unknown
      rw [callsOf_take rfl, if_neg unknown', faithful.uncalled hook unknown, List.append_nil] }

theorem observe (faithful : tracker.Faithful log) (now : Moment) (cursor : Option Cursor)
    (trigger context : Value) :
    (∃ failure, Tracker.observe now cursor trigger context tracker = .error failure tracker) ∨
      Tracker.observe now cursor trigger context tracker = .ok false tracker ∨
      ∃ step next log, Tracker.observe now cursor trigger context tracker = .ok true next ∧
        next.Faithful log ∧ next.machine = tracker.machine.take step := by
  cases stepped : tracker.machine.step? cursor trigger context with
  | error failure => exact .inl ⟨failure, observe_refused faithful.coherent stepped⟩
  | ok step =>
    cases step with
    | none => exact .inr (.inl (observe_stays faithful.coherent stepped))
    | some step =>
      obtain ⟨starts, _, _, given, lawful⟩ := PhaseMachine.of_step? stepped
      have settled : step.context.orElse (.record []) = step.context := by
        rw [given, orElse_orElse]
      obtain ⟨next, log, taken, kept, moved⟩ := faithful.take now starts settled lawful
      exact .inr (.inr ⟨step, next, log, observe_taken faithful.coherent stepped taken, kept,
        moved⟩)

theorem takes_iff (faithful : tracker.Faithful log) (now : Moment) {cursor : Option Cursor}
    {trigger context : Value} {step : Step}
    (moves : Cursor.sameOption cursor tracker.machine.cursor = false)
    (leads : step = ⟨tracker.machine.cursor, cursor, trigger, context.orElse (.record [])⟩) :
    step.Lawful ↔ ∃ next, Tracker.observe now cursor trigger context tracker = .ok true next ∧
      next.machine = tracker.machine.take step := by
  constructor
  · subst leads
    intro lawful
    have stepped := PhaseMachine.step?_of_lawful moves lawful
    obtain ⟨next, _, taken, _, moved⟩ :=
      faithful.take now rfl (orElse_orElse context _) lawful
    exact ⟨next, observe_taken faithful.coherent stepped taken, moved⟩
  · rintro ⟨next, observed, moved⟩
    rcases faithful.observe now cursor trigger context with ⟨_, refused⟩ | stays |
      ⟨_, _, _, took, kept, _⟩
    · cases refused.symm.trans observed
    · cases stays.symm.trans observed
    · cases took.symm.trans observed
      have history : next.machine.history = tracker.machine.history ++ [step] := by
        rw [moved]
        rfl
      exact kept.lawful step (by simp [history])

end Faithful

inductive Call where
  | observe (now : Moment) (cursor : Option Cursor) (trigger context : Value)
  | hook

def addHook (tracker : Tracker) : Tracker :=
  { tracker with machine := tracker.machine.addHook }

def Call.perform : Call → EStateM Failure Tracker Unit
  | .observe now cursor trigger context => do
    let _ ← Tracker.observe now cursor trigger context
  | .hook => modify addHook

def after (tracker : Tracker) (calls : List Call) : Tracker :=
  calls.foldl (fun tracker call => (outcome call.perform tracker).2) tracker

theorem continues_of_take {next : Tracker} {step : Step}
    (taken : next.machine = tracker.machine.take step) : tracker.Continues next := by
  refine ⟨by rw [taken]; rfl, [step], by rw [taken]; rfl, ?_⟩
  intro hook known
  rw [callsOf_take taken, if_pos known]

theorem Faithful.perform {log : RunLog} (faithful : tracker.Faithful log) (call : Call) :
    tracker.Continues (outcome call.perform tracker).2 ∧
      ∃ log, (outcome call.perform tracker).2.Faithful log := by
  cases call with
  | observe now cursor trigger context =>
    have state : (outcome (Call.observe now cursor trigger context).perform tracker).2 =
        (outcome (Tracker.observe now cursor trigger context) tracker).2 := by
      rw [Call.perform, outcome_bind]
      cases (outcome (Tracker.observe now cursor trigger context) tracker).1 <;> rfl
    rw [state]
    rcases faithful.observe now cursor trigger context with ⟨failure, refused⟩ | stays |
      ⟨step, next, log, moves, kept, taken⟩
    · rw [outcome_of_error refused]
      exact ⟨.refl tracker, log, faithful⟩
    · rw [outcome_of_ok stays]
      exact ⟨.refl tracker, log, faithful⟩
    · rw [outcome_of_ok moves]
      exact ⟨continues_of_take taken, log, kept⟩
  | hook =>
    refine ⟨⟨Nat.le_succ _, [], (List.append_nil _).symm, fun _ _ => (List.append_nil _).symm⟩,
      log, ?_⟩
    exact { faithful with
      uncalled := fun hook unknown => faithful.uncalled hook (Nat.le_of_succ_le unknown) }

theorem Faithful.after {log : RunLog} (faithful : tracker.Faithful log) (calls : List Call) :
    tracker.Continues (tracker.after calls) ∧ ∃ log, (tracker.after calls).Faithful log := by
  induction calls generalizing tracker log with
  | nil => exact ⟨.refl tracker, log, faithful⟩
  | cons call rest ih =>
    obtain ⟨continues, _, kept⟩ := faithful.perform call
    obtain ⟨goesOn, log, keptLater⟩ := ih kept
    exact ⟨continues.trans goesOn, log, keptLater⟩

theorem Faithful.callsOf_hook {log : RunLog} (faithful : tracker.Faithful log)
    (later : List Call) :
    ((tracker.addHook).after later).callsOf tracker.machine.hooks =
      ((tracker.addHook).after later).machine.history.drop tracker.machine.history.length := by
  obtain ⟨_, log, kept⟩ := faithful.perform .hook
  obtain ⟨⟨_, steps, recorded, called⟩, _⟩ := kept.after later
  have uncalled : tracker.addHook.callsOf tracker.machine.hooks = [] :=
    faithful.uncalled _ (le_refl _)
  have history : (tracker.addHook.after later).machine.history =
    tracker.machine.history ++ steps := recorded
  have calls : (tracker.addHook.after later).callsOf tracker.machine.hooks =
      tracker.addHook.callsOf tracker.machine.hooks ++ steps := called _ (Nat.lt_succ_self _)
  rw [calls, uncalled, history, List.drop_left, List.nil_append]

/-- The history of a machine with a new log is a path of lawful steps from being idle to its place;
its phase is that of the place. A place that it is at already changes nothing; a lawful step to
another place is recorded, and only such a step is; what is refused changes nothing. Its log has the
history entry by entry, and every hook is called with the steps that are recorded after it has been
added. -/
theorem observations_recorded (start : Moment) (calls : List Call) :
    let fresh := new (some (.new start))
    let tracker := fresh.after calls
    Step.Path "idle" tracker.machine.history (Cursor.describe tracker.machine.cursor) ∧
      tracker.phase = .ofCursor tracker.machine.cursor ∧
      (∀ step ∈ tracker.machine.history, step.Lawful) ∧
      (∀ now cursor trigger context,
        Cursor.sameOption cursor tracker.machine.cursor = true →
          Tracker.observe now cursor trigger context tracker = .ok false tracker) ∧
      (∀ now cursor trigger context (step : Step),
        Cursor.sameOption cursor tracker.machine.cursor = false →
        step = ⟨tracker.machine.cursor, cursor, trigger, context.orElse (.record [])⟩ →
          (step.Lawful ↔ ∃ next,
            Tracker.observe now cursor trigger context tracker = .ok true next ∧
              next.machine = tracker.machine.take step)) ∧
      (∀ now cursor trigger context failure next,
        Tracker.observe now cursor trigger context tracker = .error failure next →
          next = tracker) ∧
      (∃ log, tracker.log = some log ∧
        (log.ofKind .transition).map (fun event => (event.happening, event.context)) =
          tracker.machine.history.map fun step => (step.happening, step.context)) ∧
      ∀ earlier later, calls = earlier ++ .hook :: later →
        let before := fresh.after earlier
        tracker.callsOf before.machine.hooks =
          tracker.machine.history.drop before.machine.history.length := by
  intro fresh tracker
  obtain ⟨_, log, faithful⟩ := (new_faithful start).after calls
  refine ⟨faithful.path, faithful.coherent, faithful.lawful, ?_, ?_, ?_,
    ⟨log, faithful.attached, faithful.mirrored⟩, ?_⟩
  · intro now cursor trigger context same
    have stays : tracker.machine.step? cursor trigger context = .ok none := if_pos same
    exact observe_stays faithful.coherent stays
  · intro now cursor trigger context step moves leads
    exact faithful.takes_iff now moves leads
  · intro now cursor trigger context failure next fails
    rcases faithful.observe now cursor trigger context with ⟨_, refused⟩ | stays |
      ⟨_, _, _, moves, _⟩
    · cases refused.symm.trans fails
      rfl
    · cases stays.symm.trans fails
    · cases moves.symm.trans fails
  · intro earlier later split before
    obtain ⟨_, log, kept⟩ := (new_faithful start).after earlier
    have passed : tracker = before.addHook.after later := by
      show fresh.after calls = _
      rw [split, after, List.foldl_append]
      rfl
    rw [passed]
    exact kept.callsOf_hook later

end Tracker
end Fabula
