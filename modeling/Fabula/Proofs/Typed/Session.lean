import Fabula.Proofs.Session.Quiet
import Fabula.Proofs.Typed.View
/-!
# Typed sessions

In a typed session, whatever is logged, rolled or changed leaves the session typed, also where it
fails. It fails because of a number out of range. Only the end of an action can fail otherwise: the
machine can refuse the change of the phase.
-/

namespace Fabula
variable {α : Type} {game : Game}

def Failure.Blocked (failure : Failure) : Prop :=
  failure.OutOfRange ∨ failure.IsTransition

structure Session.Typed (session : Session) : Prop where
  state : session.state.Typed
  roller : session.roller.Numeric
  sequence : session.log.sequence.IsNumber

structure RunLog.Typed (log : RunLog) : Prop where
  sequence : log.sequence.IsNumber
  clock : ∀ reading, log.clock = some reading → FailsOnly Failure.OutOfRange reading

theorem RunLog.Typed.record_outOfRange {log : RunLog} (typed : log.Typed) (event : Event) :
    FailsOnly Failure.OutOfRange (log.record event) := by
  have next : FailsOnly Failure.OutOfRange (log.sequence.sum (.int 1)) :=
    typed.sequence.sum_outOfRange ⟨_, rfl⟩
  unfold RunLog.record
  cases shown : log.clock with
  | none => simp [next]
  | some reading => simp [next, typed.clock reading shown]

theorem RunLog.Typed.record_typed {log : RunLog} (typed : log.Typed) (event : Event) :
    Returns (fun logged => logged.2.sequence.IsNumber) (log.record event) := by
  have number : log.sequence.IsNumber := typed.sequence
  simp only [RunLog.record, returns_bind, returns_ite, returns_pure]
  exact ⟨fun _ => number, fun _ _ _ _ _ => ⟨_, rfl⟩⟩

theorem skip_typed {log : RunLog} (number : log.sequence.IsNumber) :
    log.skip.sequence.IsNumber := by
  unfold RunLog.skip
  split
  · exact ⟨_, rfl⟩
  · exact number

theorem Session.Typed.clockedLog {session : Session} (typed : session.Typed) :
    session.clockedLog.Typed := by
  refine ⟨typed.sequence, fun reading shown => ?_⟩
  cases shown
  simp [Clock.text_outOfRange]

theorem Session.Typed.heardRoller {session : Session} (typed : session.Typed) :
    session.heardRoller.Typed := by
  refine ⟨typed.roller, fun failure refuses => ?_⟩
  simp only [Session.heardRoller] at refuses
  cases shown : session.state.time.text with
  | ok text => simp [shown] at refuses
  | error fault =>
    simp only [shown, Option.some.injEq] at refuses
    exact refuses ▸ Clock.text_outOfRange _ _ shown

namespace Play

abbrev Safe (R : α → Prop) (computation : Play α) : Prop :=
  Sound Session.Typed Failure.Blocked R computation

abbrev Secure (computation : Play α) : Prop :=
  Safe (fun _ => True) computation

theorem lift_sound {R : α → Prop} {result : Except Failure α}
    (fails : FailsOnly Failure.OutOfRange result) (returns : Returns R result) :
    Safe R (liftM result) :=
  .lift (fails.imp fun _ => .inl) returns

theorem ask_sound {result : Except Failure α} (fails : FailsOnly Failure.OutOfRange result) :
    Secure (liftM result) :=
  lift_sound fails fun _ _ => trivial

theorem state_sound : Safe GameState.Typed state :=
  .bind .get fun _ typed => .pure typed.state

theorem setState_sound {state : GameState} (typed : state.Typed) : Secure (setState state) :=
  .modify fun _ session => { session with state := typed }

theorem setCursor_sound {cursor : Option Cursor}
    (texts : ∀ place, cursor = some place → place.dialogue.IsText) :
    Secure (setCursor cursor) :=
  .modify fun _ session => { session with state := { session.state with dialogue := texts } }

theorem endDialogue_sound : Secure endDialogue :=
  setCursor_sound fun _ same => by cases same

theorem record_sound (event : Event) : Secure (record fun log => log.record event) where
  keeps session typed := by
    rw [outcome_record]
    cases logged : session.clockedLog.record event with
    | ok written =>
      exact { typed with sequence := typed.clockedLog.record_typed event written logged }
    | error failure => exact { typed with sequence := skip_typed typed.sequence }
  fails session typed := by
    have ranged := typed.clockedLog.record_outOfRange event
    rw [outcome_record]
    cases logged : session.clockedLog.record event with
    | ok written => exact failsOnly_ok ()
    | error failure => exact (failsOnly_error failure).mpr (.inl (ranged failure logged))
  returns _ _ _ _ := trivial

theorem logAction_sound (name : String) (arguments : List (String × Value)) :
    Secure (logAction game name arguments) :=
  record_sound _

theorem logDraws_sound (draws : List Draw) : Secure (draws.forM (logDraw game)) := by
  induction draws with
  | nil => exact .pure trivial
  | cons draw rest ih => exact .bind (record_sound _) fun _ _ => ih

theorem settle_sound {roller : Roller} (numeric : roller.Numeric) :
    Secure (settle game roller) := by
  refine .bind .get fun _ _ => .bind (.modify fun _ typed => ?_) fun _ _ => logDraws_sound _
  exact { typed with roller := numeric }

theorem rolling_sound {R : α → Prop} {computation : Rolling α}
    (sound : Rolling.Safe R computation) : Safe R (rolling game computation) := by
  -- What is computed depends on the session, so there is one computation for each session.
  have sounds (session : Session) (typed : session.Typed) : Safe R
      (settle game (outcome computation session.heardRoller).2 >>= fun _ =>
        liftM (outcome computation session.heardRoller).1) := by
    have heard := typed.heardRoller
    exact .bind (settle_sound (sound.keeps _ heard).numeric) fun _ _ =>
      lift_sound (sound.fails _ heard) (sound.returns _ heard)
  refine ⟨fun session typed => ?_, fun session typed => ?_, fun session typed => ?_⟩
  all_goals rw [outcome, rolling_eq, ← outcome]
  · exact (sounds session typed).keeps session typed
  · exact (sounds session typed).fails session typed
  · exact (sounds session typed).returns session typed

theorem allPass_sound (conditions : List Condition) : Secure (allPass game conditions) :=
  .bind state_sound fun _ typed => rolling_sound (Fabula.allPass_sound typed conditions)

theorem logTimeStep_sound (before after : Clock) {hours : Except Failure Number} (reason : String)
    (ranged : FailsOnly Failure.OutOfRange hours) :
    Secure (logTimeStep game before after hours reason) :=
  .bind (ask_sound before.text_outOfRange) fun _ _ =>
    .bind (ask_sound after.text_outOfRange) fun _ _ =>
      .bind (ask_sound ranged) fun _ _ => record_sound _

theorem alter_sound {change : GameState → Rolling GameState} (reason : String)
    (changes : ∀ state, state.Typed → Rolling.Safe GameState.Typed (change state)) :
    Secure (alter game change reason) := by
  apply Sound.bind state_sound
  intro before typed
  apply Sound.bind (rolling_sound (changes before typed))
  intro after changed
  apply Sound.bind (setState_sound changed)
  intro _ _
  split
  · exact logTimeStep_sound _ _ reason (hoursBetween_outOfRange typed.time changed.time)
  · exact .pure trivial

theorem perform_sound (effects : List Effect) (reason : String) :
    Secure (perform game effects reason) :=
  alter_sound reason fun _ typed => applyAll_sound typed effects

theorem advanceClock_sound (hours : Int) (reason : String) :
    Secure (advanceClock game hours reason) := by
  apply Sound.bind state_sound
  intro before typed
  apply Sound.bind (lift_sound (typed.time.advance_outOfRange _) (Clock.advance_typed _ _))
  intro time advanced
  have moved : GameState.Typed { before with time } := { typed with time := advanced }
  apply Sound.bind (setState_sound moved)
  intro _ _
  exact logTimeStep_sound _ _ reason (failsOnly_ok _)

end Play
end Fabula
