import Fabula.Proofs.Drawn
/-!
# Quiet computations

Only the end of an action touches the machine that follows the phase. Everything before it asks
about the session, edits its state, logs and rolls. `Quiet` is the closure of these steps, and one
lemma for each function of a session says that it is quiet. Main statements:

* `Quiet.machine_after`: a quiet computation leaves the machine alone, also when it fails;
* `Quiet.failsOfValue`: a quiet computation fails for nothing but reasons of values.
-/

namespace Fabula
variable {σ α β : Type} {game : Game}

namespace Play

def after (computation : Play α) (session : Session) : Session :=
  (outcome computation session).2

theorem after_of_ok {computation : Play α} {session next : Session} {a : α}
    (returns : computation session = .ok a next) : after computation session = next := by
  simp [after, outcome, returns]

theorem after_of_error {computation : Play α} {session next : Session} {failure : Failure}
    (fails : computation session = .error failure next) : after computation session = next := by
  simp [after, outcome, fails]

def FailsOfValue (computation : Play α) : Prop :=
  ∀ session failure next, computation session = .error failure next → failure.OfValue

theorem bind_of_ok {first : EStateM Failure σ α} {next : α → EStateM Failure σ β}
    {start between : σ} {a : α} (returns : first start = .ok a between) :
    (first >>= next) start = next a between := by
  simp [bind, EStateM.bind, returns]

theorem bind_of_error {first : EStateM Failure σ α} {next : α → EStateM Failure σ β}
    {start between : σ} {failure : Failure} (fails : first start = .error failure between) :
    (first >>= next) start = .error failure between := by
  simp [bind, EStateM.bind, fails]

theorem after_bind {R : Session → Session → Prop}
    (trans : ∀ {session between next}, R session between → R between next → R session next)
    {first : Play α} {next : α → Play β} (early : ∀ session, R session (after first session))
    (late : ∀ a session, R session (after (next a) session)) (session : Session) :
    R session (after (first >>= next) session) := by
  have before := early session
  rw [after, outcome_bind]
  cases answer : (outcome first session).1 with
  | error failure => exact before
  | ok a => exact trans before (late a _)

theorem findM?_closed {C : {α : Type} → Play α → Prop} (pure : ∀ {α : Type} (a : α), C (pure a))
    (bind : ∀ {α β : Type} {first : Play α} {next : α → Play β}, C first → (∀ a, C (next a)) →
      C (first >>= next)) {items : List α} {check : α → Play Bool}
    (each : ∀ item, C (check item)) : C (items.findM? check) := by
  induction items with
  | nil => exact pure _
  | cons item rest ih =>
    refine bind (each item) fun found => ?_
    cases found with
    | true => exact pure _
    | false => exact ih

theorem ok_of_bind {first : EStateM Failure σ α} {next : α → EStateM Failure σ β}
    {start last : σ} {b : β} (returns : (first >>= next) start = .ok b last) :
    ∃ a between, first start = .ok a between ∧ next a between = .ok b last := by
  cases part : first start with
  | ok a between => exact ⟨a, between, rfl, by rwa [bind_of_ok part] at returns⟩
  | error failure between => simp [bind_of_error part] at returns

theorem error_of_bind {first : EStateM Failure σ α} {next : α → EStateM Failure σ β}
    {start last : σ} {failure : Failure} (fails : (first >>= next) start = .error failure last) :
    first start = .error failure last ∨
      ∃ a between, first start = .ok a between ∧ next a between = .error failure last := by
  cases part : first start with
  | ok a between => exact .inr ⟨a, between, rfl, by rwa [bind_of_ok part] at fails⟩
  | error fault between =>
    rw [bind_of_error part] at fails
    cases fails
    exact .inl rfl

theorem FailsOfValue.bind {first : Play α} {next : α → Play β} (fails : FailsOfValue first)
    (rest : ∀ a, FailsOfValue (next a)) : FailsOfValue (first >>= next) := by
  intro session failure last failed
  rcases error_of_bind failed with early | ⟨a, between, _, late⟩
  · exact fails _ _ _ early
  · exact rest a _ _ _ late

theorem failsOfValue_lift {result : Except Failure α}
    (fails : FailsOnly Failure.OfValue result) : FailsOfValue (liftM result) := by
  intro session failure last failed
  cases result with
  | ok a => cases failed
  | error fault =>
    cases failed
    exact fails _ rfl

end Play

structure Session.Kept (session next : Session) : Prop where
  state : next.state = session.state
  machine : next.machine = session.machine
  notes : next.notes = session.notes

structure Session.Unmoved (session next : Session) : Prop where
  state : next.state = session.state
  cursor : next.machine.cursor = session.machine.cursor

namespace Session

theorem Unmoved.refl (session : Session) : session.Unmoved session :=
  ⟨rfl, rfl⟩

theorem Unmoved.trans {session between next : Session} (first : session.Unmoved between)
    (rest : between.Unmoved next) : session.Unmoved next :=
  ⟨rest.state.trans first.state, rest.cursor.trans first.cursor⟩

theorem Kept.trans {session between next : Session} (first : session.Kept between)
    (rest : between.Kept next) : session.Kept next :=
  ⟨rest.state.trans first.state, rest.machine.trans first.machine, rest.notes.trans first.notes⟩

theorem Kept.unmoved {session next : Session} (kept : session.Kept next) : session.Unmoved next :=
  ⟨kept.state, by rw [kept.machine]⟩

end Session

namespace Play

def Keeps (computation : Play α) : Prop :=
  ∀ session : Session, session.Kept (after computation session)

theorem Keeps.bind {first : Play α} {next : α → Play β} (keeps : Keeps first)
    (rest : ∀ a, Keeps (next a)) : Keeps (first >>= next) :=
  after_bind (R := Session.Kept) .trans keeps rest

theorem Keeps.of_ok {computation : Play α} (keeps : Keeps computation) {session next : Session}
    {a : α} (returns : computation session = .ok a next) : session.Kept next :=
  after_of_ok returns ▸ keeps session

theorem Keeps.of_error {computation : Play α} (keeps : Keeps computation) {session next : Session}
    {failure : Failure} (fails : computation session = .error failure next) : session.Kept next :=
  after_of_error fails ▸ keeps session

theorem keeps_lift (result : Except Failure α) : Keeps (liftM result) := by
  intro session
  cases result <;> exact ⟨rfl, rfl, rfl⟩

theorem outcome_record (write : RunLog → Except Failure (Event × RunLog)) (session : Session) :
    outcome (record write) session = match write session.clockedLog with
      | .ok logged => (.ok (), { session with log := logged.2 })
      | .error failure => (.error failure, { session with log := session.log.skip }) := by
  have asked : (outcome (get : Play Session) session).1 = .ok session := rfl
  rw [record, outcome_bind_of_ok asked]
  show outcome _ session = _
  cases write session.clockedLog <;> rfl

theorem keeps_record (write : RunLog → Except Failure (Event × RunLog)) :
    Keeps (record write) := by
  intro session
  rw [after, outcome_record]
  cases write session.clockedLog <;> exact ⟨rfl, rfl, rfl⟩

theorem keeps_logAction (game : Game) (name : String) (arguments : List (String × Value)) :
    Keeps (logAction game name arguments) :=
  keeps_record _

theorem keeps_logDraws (game : Game) (draws : List Draw) : Keeps (draws.forM (logDraw game)) := by
  induction draws with
  | nil => exact keeps_lift (.ok _)
  | cons draw rest ih => exact .bind (keeps_record _) fun _ => ih

theorem keeps_settle (game : Game) (roller : Roller) : Keeps (settle game roller) := by
  intro session
  have logged := keeps_logDraws game
    ((roller.draws.drop session.roller.draws.length).filter (·.isWritable))
    { session with roller }
  exact ⟨logged.state, logged.machine, logged.notes⟩

theorem rolling_eq (computation : Rolling α) (session : Session) :
    rolling game computation session =
      (settle game (outcome computation session.heardRoller).2 >>= fun _ =>
        liftM (outcome computation session.heardRoller).1) session := by
  have asked : (get : Play Session) session = .ok session session := rfl
  rw [rolling, bind_of_ok asked, outcome]
  cases computation session.heardRoller <;> rfl

theorem keeps_rolling (game : Game) (computation : Rolling α) :
    Keeps (rolling game computation) := by
  intro session
  rw [after, outcome, rolling_eq]
  exact (keeps_settle game _).bind (fun _ => keeps_lift _) session

theorem record_failsOnly (log : RunLog) (event : Event)
    (clock : ∀ text, log.clock = some text → FailsOnly Failure.OfValue text) :
    FailsOnly Failure.OfValue (log.record event) := by
  unfold RunLog.record
  cases shown : log.clock with
  | none => simp
  | some text => simp [clock text shown]

theorem failsOfValue_record {write : RunLog → Except Failure (Event × RunLog)}
    (fails : ∀ session : Session, FailsOnly Failure.OfValue (write session.clockedLog)) :
    FailsOfValue (record write) := by
  intro session failure next failed
  rcases error_of_bind failed with early | ⟨_, _, start, late⟩
  · cases early
  cases start
  cases written : write session.clockedLog with
  | ok logged => simp only [written] at late; cases late
  | error fault =>
    simp only [written] at late
    cases late
    exact fails session _ written

theorem clockedLog_failsOnly (session : Session) (text : Except Failure Value)
    (shown : session.clockedLog.clock = some text) : FailsOnly Failure.OfValue text := by
  cases shown
  simp

theorem failsOfValue_recordEvent (event : Event) :
    FailsOfValue (record fun log => log.record event) :=
  failsOfValue_record fun session => record_failsOnly _ event (clockedLog_failsOnly session)

theorem failsOfValue_settle (game : Game) (roller : Roller) :
    FailsOfValue (settle game roller) := by
  have logged (draws : List Draw) : FailsOfValue (draws.forM (logDraw game)) := by
    induction draws with
    | nil => exact failsOfValue_lift (failsOnly_ok _)
    | cons draw rest ih => exact .bind (failsOfValue_recordEvent _) fun _ => ih
  intro session failure next failed
  exact logged _ _ failure next failed

end Play

theorem heardRoller_refusal (session : Session) (failure : Failure)
    (refuses : session.heardRoller.refusal = some failure) : failure.OfValue := by
  simp only [Session.heardRoller] at refuses
  cases shown : session.state.time.text with
  | ok text => simp [shown] at refuses
  | error fault =>
    simp only [shown, Option.some.injEq] at refuses
    exact refuses ▸ clockText_failsOnly _ _ shown

namespace Play

theorem failsOfValue_rolling {computation : Rolling α} (drawn : Drawn computation) :
    FailsOfValue (rolling game computation) := by
  intro session failure next failed
  rw [rolling_eq] at failed
  have fails := drawn.failsOfValue _ (heardRoller_refusal session)
  exact (failsOfValue_settle game _).bind (fun _ => failsOfValue_lift fails) _ _ _ failed

end Play

structure Session.Alike (session other : Session) : Prop where
  state : other.state = session.state
  log : other.log = session.log
  machine : other.machine = session.machine
  notes : other.notes = session.notes

/-- Whether two sessions agree in all that an answer can depend on but the dice and the log. -/
structure Session.Level (session other : Session) : Prop where
  state : other.state = session.state
  cursor : other.machine.cursor = session.machine.cursor
  notes : other.notes = session.notes

theorem Session.Level.trans {session between last : Session} (first : session.Level between)
    (rest : between.Level last) : session.Level last :=
  ⟨rest.state.trans first.state, rest.cursor.trans first.cursor, rest.notes.trans first.notes⟩

theorem Session.Alike.level {session other : Session} (alike : session.Alike other) :
    session.Level other :=
  ⟨alike.state, by rw [alike.machine], alike.notes⟩

namespace Play

def ask (question : Session → Except Failure α) : Play α := do
  question (← get)

theorem outcome_ask (question : Session → Except Failure α) (session : Session) :
    outcome (ask question) session = (question session, session) :=
  outcome_lift (question session) session

def edit (state : GameState → GameState) (notes : Nat → Nat) : Play Unit :=
  modify fun session =>
    { session with state := state session.state, notes := notes session.notes }

end Play

/-- Computations on a session that leave its machine alone. What they ask depends neither on the
roller nor on the log. They use the roller for nothing but rolling, and the log for nothing but
logging. -/
inductive Quiet (game : Game) : {α : Type} → Play α → Prop
  | lift {α : Type} {result : Except Failure α} (fails : FailsOnly Failure.OfValue result) :
      Quiet game (liftM result)
  | bind {α β : Type} {first : Play α} {next : α → Play β} (quiet : Quiet game first)
      (rest : ∀ a, Quiet game (next a)) : Quiet game (first >>= next)
  | ask {α : Type} {question : Session → Except Failure α}
      (fails : ∀ session, FailsOnly Failure.OfValue (question session))
      (same : ∀ session other : Session, session.Level other →
        question other = question session) :
      Quiet game (Play.ask question)
  | edit (state : GameState → GameState) (notes : Nat → Nat) : Quiet game (Play.edit state notes)
  | record (event : Event) (other : event.kind ≠ .roll) :
      Quiet game (Play.record fun log => log.record event)
  | rolling {α : Type} {computation : Rolling α} (drawn : Drawn computation) :
      Quiet game (Play.rolling game computation)

namespace Quiet

theorem machine_after {computation : Play α} (quiet : Quiet game computation) :
    ∀ session, (computation.after session).machine = session.machine := by
  induction quiet with
  | lift _ => exact fun session => (Play.keeps_lift _ session).machine
  | ask _ _ =>
    intro session
    exact (Play.keeps_lift _ session).machine
  | edit _ _ => exact fun _ => rfl
  | record event _ => exact fun session => (Play.keeps_record _ session).machine
  | rolling _ => exact fun session => (Play.keeps_rolling game _ session).machine
  | bind _ _ ih ihRest =>
    exact Play.after_bind (R := fun session next => next.machine = session.machine)
      (fun early late => late.trans early) ih ihRest

theorem machine_of_ok {computation : Play α} (quiet : Quiet game computation)
    {session next : Session} {a : α} (returns : computation session = .ok a next) :
    next.machine = session.machine :=
  Play.after_of_ok returns ▸ quiet.machine_after session

theorem machine_of_error {computation : Play α} (quiet : Quiet game computation)
    {session next : Session} {failure : Failure}
    (fails : computation session = .error failure next) : next.machine = session.machine :=
  Play.after_of_error fails ▸ quiet.machine_after session

theorem failsOfValue {computation : Play α} (quiet : Quiet game computation) :
    computation.FailsOfValue := by
  induction quiet with
  | lift fails => exact Play.failsOfValue_lift fails
  | ask fails _ => exact fun session => Play.failsOfValue_lift (fails session) session
  | edit _ _ => exact fun _ _ _ failed => by cases failed
  | record event _ => exact Play.failsOfValue_recordEvent event
  | rolling drawn => exact Play.failsOfValue_rolling drawn
  | bind _ _ ih ihRest => exact ih.bind ihRest

end Quiet
end Fabula
