import Fabula.Proofs.RunLog
import Fabula.Proofs.Session.Answering
/-!
# What a session draws

A session rolls in many places, but what it does otherwise does not depend on its roller. `Traced`
says of one run, whether of a computation or of many calls, which draws it makes, which of them its
log keeps, and that a session that is alike but for a roller which replays these draws does the
same. Main statements:

* `Play.replays_rolling`: rolling is traced;
* `Answering.replays`: so is the answer to every call.
-/

namespace Fabula
variable {α β : Type} {game : Game} {trigger : String} {P : Session → Prop}

theorem Session.Alike.clockedLog {session other : Session} (alike : session.Alike other) :
    other.clockedLog = session.clockedLog := by
  simp [Session.clockedLog, alike.log, alike.state]

namespace Play

structure Blind (computation : Play α) : Prop where
  roller : ∀ session, (outcome computation session).2.roller = session.roller
  alike : ∀ session other : Session, session.Alike other →
    (outcome computation other).1 = (outcome computation session).1 ∧
      (outcome computation session).2.Alike (outcome computation other).2

namespace Blind

theorem lift (result : Except Failure α) : Blind (liftM result) where
  roller session := by rw [outcome_lift]
  alike session other alike := by
    rw [outcome_lift, outcome_lift]
    exact ⟨rfl, alike⟩

theorem bind {first : Play α} {next : α → Play β} (blind : Blind first)
    (rest : ∀ a, Blind (next a)) : Blind (first >>= next) where
  roller session := by
    have early := blind.roller session
    cases answer : (outcome first session).1 with
    | error failure => rwa [outcome_bind_of_error answer]
    | ok a =>
      rw [outcome_bind_of_ok answer]
      exact ((rest a).roller _).trans early
  alike session other alike := by
    obtain ⟨again, early⟩ := blind.alike session other alike
    cases answer : (outcome first session).1 with
    | error failure =>
      rw [outcome_bind_of_error answer, outcome_bind_of_error (again.trans answer)]
      exact ⟨rfl, early⟩
    | ok a =>
      rw [outcome_bind_of_ok answer, outcome_bind_of_ok (again.trans answer)]
      exact (rest a).alike _ _ early

theorem ask {question : Session → Except Failure α}
    (alike : ∀ session other : Session, session.Alike other → question other = question session) :
    Blind (Play.ask question) where
  roller session := by rw [outcome_ask]
  alike session other same := by
    rw [outcome_ask, outcome_ask]
    exact ⟨alike session other same, same⟩

theorem modify {change : Session → Session}
    (roller : ∀ session, (change session).roller = session.roller)
    (alike : ∀ session other : Session, session.Alike other →
      (change session).Alike (change other)) :
    Blind (modify change) where
  roller := roller
  alike session other same := ⟨rfl, alike session other same⟩

theorem edit (state : GameState → GameState) (notes : Nat → Nat) : Blind (Play.edit state notes) :=
  .modify (fun _ => rfl) fun _ _ alike =>
    ⟨congrArg state alike.state, alike.log, alike.machine, congrArg notes alike.notes⟩

theorem record (write : RunLog → Except Failure (Event × RunLog)) : Blind (Play.record write) where
  roller session := by
    rw [outcome_record]
    cases write session.clockedLog <;> rfl
  alike session other alike := by
    rw [outcome_record, outcome_record, alike.clockedLog]
    cases write session.clockedLog with
    | ok logged => exact ⟨rfl, alike.state, rfl, alike.machine, alike.notes⟩
    | error failure =>
      exact ⟨rfl, alike.state, congrArg RunLog.skip alike.log, alike.machine, alike.notes⟩

theorem logDraws (game : Game) (draws : List Draw) : Blind (draws.forM (logDraw game)) := by
  induction draws with
  | nil => exact .lift (.ok ())
  | cons draw rest ih => exact .bind (.record _) fun _ => ih

end Blind

section
variable {session : Session} (sound : session.log.Sound)
include sound

theorem outcome_record_shown {text : String} (clock : session.state.time.text = .ok text)
    (event : Event) :
    (outcome (record fun log => log.record event) session).1 = .ok () ∧
      session.log.Extends (outcome (record fun log => log.record event) session).2.log
        event.happening.totals := by
  have sound' : session.clockedLog.Sound := ⟨sound.running, sound.counts⟩
  have shown : session.clockedLog.clock = some (.ok (.text text)) := by
    simp [Session.clockedLog, clock, Functor.map, Except.map]
  obtain ⟨logged, written, kept⟩ := RunLog.record_shown sound' shown event
  rw [outcome_record]
  simp only [written]
  exact ⟨trivial, kept.sound, kept.seed, kept.stream⟩

theorem outcome_record_hidden {failure : Failure} (clock : session.state.time.text = .error failure)
    (event : Event) :
    (outcome (record fun log => log.record event) session).1 = .error failure ∧
      session.log.Extends (outcome (record fun log => log.record event) session).2.log [] := by
  have sound' : session.clockedLog.Sound := ⟨sound.running, sound.counts⟩
  have hidden : session.clockedLog.clock = some (.error failure) := by
    simp [Session.clockedLog, clock, Functor.map, Except.map]
  rw [outcome_record]
  simp only [RunLog.record_hidden sound' hidden event]
  exact ⟨trivial, RunLog.skip_extends sound⟩

end

def drawEvent (game : Game) (draw : Draw) : Event :=
  RunLog.unlogged game.now .null (.roll draw.bounds draw.rolls (.int 0) draw.total draw.reason)

theorem logDraws_cons (game : Game) (draw : Draw) (rest : List Draw) :
    (draw :: rest).forM (logDraw game) =
      ((record fun log => log.record (drawEvent game draw)) >>= fun _ =>
        rest.forM (logDraw game)) := rfl

theorem outcome_logDraws_shown (game : Game) (draws : List Draw) :
    ∀ {session : Session} {text : String}, session.log.Sound →
      session.state.time.text = .ok text →
      (outcome (draws.forM (logDraw game)) session).1 = .ok () ∧
        session.log.Extends (outcome (draws.forM (logDraw game)) session).2.log
          (draws.map (·.total)) := by
  induction draws with
  | nil => exact fun sound _ => ⟨rfl, sound.extends⟩
  | cons draw rest ih =>
    intro session text sound clock
    -- Logging keeps the state, so the clock shows the time for the rest too.
    have kept := keeps_record (fun log => log.record (drawEvent game draw)) session
    obtain ⟨answer, early⟩ := outcome_record_shown sound clock (drawEvent game draw)
    obtain ⟨lateAnswer, late⟩ := ih early.sound (by rwa [← after, kept.state])
    rw [logDraws_cons, outcome_bind_of_ok answer]
    exact ⟨lateAnswer, early.trans late⟩

theorem outcome_logDraws_hidden (game : Game) {session : Session} {failure : Failure}
    (sound : session.log.Sound) (clock : session.state.time.text = .error failure)
    (draws : List Draw) :
    (draws = [] ∨ (outcome (draws.forM (logDraw game)) session).1 = .error failure) ∧
      session.log.Extends (outcome (draws.forM (logDraw game)) session).2.log [] := by
  cases draws with
  | nil => exact ⟨.inl rfl, sound.extends⟩
  | cons draw rest =>
    obtain ⟨answer, early⟩ := outcome_record_hidden sound clock (drawEvent game draw)
    rw [logDraws_cons, outcome_bind_of_error answer]
    exact ⟨.inr rfl, early⟩

end Play

/-- What is known of the draws that a run makes in a session. -/
structure Traced {Result : Type} (run : Session → Result × Session)
    (Loses : Result × Session → Prop) (session : Session) (draws : List Draw) : Prop where
  rolled : (run session).2.roller.draws = session.roller.draws ++ draws
  logged : ∃ totals, session.log.Extends (run session).2.log totals ∧
    (totals = draws.map (·.total) ∨ (∃ draw ∈ draws, ¬ draw.isWritable) ∨
      Loses (run session))
  replayed : ∀ (other : Session) (past future : List Value), session.Alike other →
    other.roller.recording = some (.replayed past (draws.map (·.total) ++ future)) →
    (run other).1 = (run session).1 ∧ (run session).2.Alike (run other).2 ∧
      (run other).2.roller.recording = some (.replayed (past ++ draws.map (·.total)) future)

theorem Traced.seq {First Rest Result : Type} {first : Session → First × Session}
    (rest : First → Session → Rest × Session) (combine : First → Rest → Result)
    {LosesFirst : First × Session → Prop} {LosesRest : Rest × Session → Prop}
    {Loses : Result × Session → Prop} {session : Session} {draws later : List Draw}
    (early : Traced first LosesFirst session draws)
    (late : Traced (rest (first session).1) LosesRest (first session).2 later)
    (loses : LosesFirst (first session) ∨ LosesRest (rest (first session).1 (first session).2) →
      Loses (combine (first session).1 (rest (first session).1 (first session).2).1,
        (rest (first session).1 (first session).2).2)) :
    Traced (fun start => (combine (first start).1 (rest (first start).1 (first start).2).1,
      (rest (first start).1 (first start).2).2)) Loses session (draws ++ later) where
  rolled := by rw [late.rolled, early.rolled, List.append_assoc]
  logged := by
    obtain ⟨totals, kept, complete⟩ := early.logged
    obtain ⟨more, keptLater, completeLater⟩ := late.logged
    refine ⟨totals ++ more, kept.trans keptLater, ?_⟩
    rcases complete with rfl | ⟨draw, drawn, hidden⟩ | lost
    · rcases completeLater with rfl | ⟨draw, drawn, hidden⟩ | lost
      · exact .inl (by simp)
      · exact .inr (.inl ⟨draw, List.mem_append_right _ drawn, hidden⟩)
      · exact .inr (.inr (loses (.inr lost)))
    · exact .inr (.inl ⟨draw, List.mem_append_left _ drawn, hidden⟩)
    · exact .inr (.inr (loses (.inl lost)))
  replayed other past future alike recorded := by
    rw [List.map_append, List.append_assoc] at recorded
    obtain ⟨answer, between, recorded⟩ := early.replayed other past _ alike recorded
    obtain ⟨lateAnswer, after, replayed⟩ := late.replayed _ _ future between recorded
    rw [answer]
    exact ⟨by rw [lateAnswer], after, by rw [replayed, List.map_append, List.append_assoc]⟩

namespace Play

def Mute (outcome : Except Failure α × Session) : Prop :=
  ¬ outcome.1.isOk ∧ ∃ failure, outcome.2.state.time.text = .error failure

def Replays (computation : Play α) : Prop :=
  ∀ session : Session, session.log.Sound → ∃ draws,
    Traced (outcome computation) Mute session draws

theorem Blind.replays {computation : Play α} (blind : Blind computation)
    (logs : ∀ session : Session, session.log.Sound →
      session.log.Extends (outcome computation session).2.log []) : Replays computation := by
  refine fun session sound => ⟨[], by simp [blind.roller], ⟨[], logs session sound, .inl rfl⟩, ?_⟩
  intro other past future alike recorded
  obtain ⟨answer, after⟩ := blind.alike session other alike
  refine ⟨answer, after, ?_⟩
  rw [blind.roller, recorded]
  simp

theorem replays_lift (result : Except Failure α) : Replays (liftM result) :=
  (Blind.lift result).replays fun session sound => by rw [outcome_lift]; exact sound.extends

def goOn (next : α → Play β) : Except Failure α → Play β
  | .ok a => next a
  | .error failure => throw failure

theorem outcome_goOn (first : Play α) (next : α → Play β) :
    outcome (first >>= next) = fun session =>
      outcome (goOn next (outcome first session).1) (outcome first session).2 := by
  funext session
  rw [outcome_bind]
  cases (outcome first session).1 <;> rfl

theorem Replays.bind {first : Play α} {next : α → Play β} (replays : Replays first)
    (rest : ∀ a, Replays (next a)) : Replays (first >>= next) := by
  intro session sound
  -- A first part that fails goes on with its failure, so both cases are two runs in a row.
  have goesOn (answer : Except Failure α) : Replays (goOn next answer) := by
    cases answer with
    | ok a => exact rest a
    | error failure => exact replays_lift (.error failure)
  obtain ⟨draws, early⟩ := replays session sound
  obtain ⟨totals, kept, _⟩ := early.logged
  obtain ⟨later, late⟩ := goesOn (outcome first session).1 _ kept.sound
  refine ⟨draws ++ later, ?_⟩
  rw [outcome_goOn]
  refine early.seq (fun answer => outcome (goOn next answer)) (fun _ answer => answer) late
    fun lost => lost.elim (fun lost => ?_) id
  obtain ⟨failed, hidden⟩ := lost
  cases answer : (outcome first session).1 with
  | ok a => simp [answer, Except.isOk, Except.toBool] at failed
  | error failure => exact ⟨Bool.false_ne_true, hidden⟩

theorem heardRoller_shown {session : Session} {text : String}
    (clock : session.state.time.text = .ok text) : session.heardRoller.refusal = none := by
  simp [Session.heardRoller, clock]

theorem heardRoller_hidden {session : Session} {failure : Failure}
    (clock : session.state.time.text = .error failure) :
    session.heardRoller.refusal = some failure := by
  simp [Session.heardRoller, clock]

theorem outcome_rolling (game : Game) (computation : Rolling α) (session : Session)
    {draws : List Draw}
    (made : (outcome computation session.heardRoller).2.draws = session.roller.draws ++ draws) :
    outcome (rolling game computation) session =
      outcome ((draws.filter (·.isWritable)).forM (logDraw game) >>= fun _ =>
          liftM (outcome computation session.heardRoller).1)
        { session with roller := (outcome computation session.heardRoller).2 } := by
  have drawn : (outcome computation session.heardRoller).2.draws.drop
      session.roller.draws.length = draws := by
    rw [made, List.drop_left]
  rw [outcome, rolling_eq, ← outcome]
  rw [← drawn]
  rfl

theorem blind_settled (game : Game) (draws : List Draw) (answer : Except Failure α) :
    Blind (draws.forM (logDraw game) >>= fun _ => liftM answer) :=
  .bind (.logDraws game draws) fun _ => .lift answer

section
variable {computation : Rolling α} {session : Session} {draws : List Draw}
  (sound : session.log.Sound) (rolled : Rolled computation session.heardRoller draws)
include sound rolled

theorem logged_rolling_shown {text : String} (clock : session.state.time.text = .ok text) :
    session.log.Extends (outcome (rolling game computation) session).2.log
        ((draws.filter (·.isWritable)).map (·.total)) := by
  rw [outcome_rolling game computation session rolled.made, outcome_bind_lift]
  have sound : ({ session with roller := (outcome computation session.heardRoller).2 } :
      Session).log.Sound := sound
  exact (outcome_logDraws_shown game _ sound clock).2

theorem logged_rolling_hidden (game : Game) {failure : Failure}
    (clock : session.state.time.text = .error failure) :
    session.log.Extends (outcome (rolling game computation) session).2.log [] ∧
      (draws = [] ∨ ¬ (outcome (rolling game computation) session).1.isOk) := by
  have sound : ({ session with roller := (outcome computation session.heardRoller).2 } :
      Session).log.Sound := sound
  obtain ⟨answer, logs⟩ :=
    outcome_logDraws_hidden game sound clock (draws.filter (·.isWritable))
  rw [outcome_rolling game computation session rolled.made]
  refine ⟨by rwa [outcome_bind_lift], ?_⟩
  rcases rolled.announced with all | ⟨draw, drawn, fault, _, failed⟩
  · refine .inl (List.eq_nil_iff_forall_not_mem.mpr fun draw drawn => ?_)
    have refused := ((Roller.announce_ok_iff _).mp (all draw drawn)).2
    simp [heardRoller_hidden clock] at refused
  · refine .inr ?_
    rcases answer with empty | answer
    · rw [empty, outcome_bind_of_ok rfl, outcome_lift, failed]
      exact Bool.false_ne_true
    · rw [outcome_bind_of_error answer]
      exact Bool.false_ne_true

theorem logged_rolling :
    ∃ totals, session.log.Extends (outcome (rolling game computation) session).2.log totals ∧
      (totals = draws.map (·.total) ∨ (∃ draw ∈ draws, ¬ draw.isWritable) ∨
        Mute (outcome (rolling game computation) session)) := by
  cases clock : session.state.time.text with
  | ok text =>
    refine ⟨_, logged_rolling_shown sound rolled clock, ?_⟩
    rcases rolled.announced with all | ⟨draw, drawn, failure, fails, _⟩
    · refine .inl (congrArg _ (List.filter_eq_self.mpr fun draw drawn => ?_))
      exact ((Roller.announce_ok_iff _).mp (all draw drawn)).1
    · refine .inr (.inl ⟨draw, drawn, fun written => ?_⟩)
      rw [(Roller.announce_ok_iff _).mpr ⟨written, heardRoller_shown clock⟩] at fails
      cases fails
  | error failure =>
    obtain ⟨logs, nothing | failed⟩ := logged_rolling_hidden sound rolled game clock
    · exact ⟨[], logs, .inl (by rw [nothing]; rfl)⟩
    · have kept := keeps_rolling game computation session
      rw [after] at kept
      exact ⟨[], logs, .inr (.inr ⟨failed, failure, by rwa [kept.state]⟩)⟩

end

theorem replays_rolling {computation : Rolling α} (drawn : Drawn computation) :
    Replays (rolling game computation) := by
  intro session sound
  obtain ⟨draws, rolled⟩ := drawn.rolled session.heardRoller
  have settled := outcome_rolling game computation session rolled.made
  have blind := blind_settled game (draws.filter (·.isWritable))
    (outcome computation session.heardRoller).1
  refine ⟨draws, ?_, logged_rolling sound rolled, ?_⟩
  · rw [settled, blind.roller]
    exact rolled.made
  intro other past future alike recorded
  have sameRefusal : other.heardRoller.refusal = session.heardRoller.refusal := by
    simp [Session.heardRoller, alike.state]
  -- The replaying roller rolls alike, and what is left to do does not look at it.
  obtain ⟨answer, made, _, replayed⟩ :=
    rolled.replayed other.heardRoller past future sameRefusal recorded
  rw [settled, outcome_rolling game computation other made, answer]
  obtain ⟨sameAnswer, after⟩ := blind.alike
    { session with roller := (outcome computation session.heardRoller).2 }
    { other with roller := (outcome computation other.heardRoller).2 }
    ⟨alike.state, alike.log, alike.machine, alike.notes⟩
  exact ⟨sameAnswer, after, by rw [blind.roller]; exact replayed⟩

theorem replays_pure (a : α) : Replays (pure a) :=
  replays_lift (.ok a)

theorem replays_ask {question : Session → Except Failure α}
    (alike : ∀ session other : Session, session.Alike other → question other = question session) :
    Replays (ask question) :=
  (Blind.ask alike).replays fun session sound => by rw [outcome_ask]; exact sound.extends

theorem replays_record {event : Event} (other : event.kind ≠ .roll) :
    Replays (record fun log => log.record event) := by
  refine (Blind.record _).replays fun session sound => ?_
  have nothing := Happening.totals_eq_nil other
  cases clock : session.state.time.text with
  | ok text => exact nothing ▸ (outcome_record_shown sound clock event).2
  | error failure => exact (outcome_record_hidden sound clock event).2

theorem replays_modify {change : Session → Session}
    (kept : ∀ session, (change session).roller = session.roller ∧
      (change session).log = session.log)
    (alike : ∀ session other : Session, session.Alike other →
      (change session).Alike (change other)) : Replays (modify change) :=
  (Blind.modify (fun session => (kept session).1) alike).replays fun session sound => by
    show session.log.Extends (change session).log []
    rw [(kept session).2]
    exact sound.extends

end Play

theorem Quiet.replays {computation : Play α} (quiet : Quiet game computation) :
    computation.Replays := by
  induction quiet with
  | lift _ => exact Play.replays_lift _
  | bind _ _ ih ihRest => exact ih.bind ihRest
  | ask _ same => exact Play.replays_ask fun _ _ alike => same _ _ alike.level
  | edit state notes =>
    exact (Play.Blind.edit state notes).replays fun session sound => sound.extends
  | record event other => exact Play.replays_record other
  | rolling drawn => exact Play.replays_rolling drawn

namespace Play

theorem replays_takeStep (game : Game) (step : Step) : Replays (takeStep game step) := by
  have noted (change : PhaseMachine → PhaseMachine) :
      Replays (modify fun session => { session with machine := change session.machine }) :=
    replays_modify (fun _ => ⟨rfl, rfl⟩) fun _ _ alike =>
      ⟨alike.state, alike.log, congrArg change alike.machine, alike.notes⟩
  exact (noted (·.note step)).bind fun _ => (replays_record (by simp [RunLog.unlogged, Event.kind,
    Happening.kind])).bind fun _ => noted (·.move step)

theorem replays_observe (game : Game) (trigger : String) : Replays (observe game trigger) := by
  have asked : Replays (ask fun session =>
      session.machine.step? session.state.cursor trigger .null) :=
    replays_ask fun _ _ alike => by rw [alike.machine, alike.state]
  refine asked.bind fun step => ?_
  cases step with
  | some step => exact replays_takeStep game step
  | none => exact replays_pure ()

theorem replays_finish (game : Game) (trigger : String) : Replays (finish game trigger) :=
  Quiet.follow.replays.bind fun _ => (replays_observe game trigger).bind fun _ =>
    quiet_showView.replays

end Play

theorem Ending.replays {action : Play View} (ending : Ending game trigger P action) :
    action.Replays := by
  induction ending with
  | finish _ => exact Play.replays_finish game trigger
  | part quiet _ _ ih => exact quiet.replays.bind ih

theorem Asking.replays {first : Play α} (asking : Asking first) : first.Replays := by
  cases asking with
  | lift _ => exact Play.replays_lift _
  | ask _ same => exact Play.replays_ask fun _ _ alike => same _ _ alike.level
  | record event other => exact Play.replays_record other

theorem Answering.replays {answer : Play Reply} (answering : Answering game answer) :
    answer.Replays := by
  induction answering with
  | reply reply _ => exact Play.replays_pure reply
  | view ending _ => exact ending.replays.bind fun view => Play.replays_pure _
  | before asking _ ih => exact asking.replays.bind ih

end Fabula
