import Fabula.Proofs.Session.Dice
import Fabula.Proofs.Session.Replay
/-!
# Sessions beside each other

Two sessions can agree in everything but the dice and the log. Whatever is done in both goes the
same way in both, as long as they have the same dice or none are drawn: nothing that a session does
depends on its log, and what draws nothing does not depend on the dice. Main statements:

* `Drawn.undrawn`: a computation that draws nothing does the same with any roller;
* `Play.matches_rolling`: so does one that rolls in a session;
* `Answering.regular`: so does the answer to every call.
-/

namespace Fabula
variable {α β : Type} {game : Game} {trigger : String} {P : Session → Prop}

theorem Rolled.draws_eq_iff {computation : Rolling α} {roller : Roller} {draws : List Draw}
    (rolled : Rolled computation roller draws) :
    (outcome computation roller).2.draws = roller.draws ↔ draws = [] := by
  rw [rolled.made, List.append_right_eq_self]

theorem Drawn.undrawn {computation : Rolling α} (drawn : Drawn computation) :
    ∀ {roller : Roller}, (outcome computation roller).2.draws = roller.draws →
      ∀ other, outcome computation other = ((outcome computation roller).1, other) := by
  induction drawn with
  | lift _ => exact fun _ other => by rw [outcome_lift, outcome_lift]
  | roll a b reason =>
    intro roller same
    have none := (Rolled.roll a b reason roller).draws_eq_iff.mp same
    exact absurd none (List.cons_ne_nil _ _)
  | @bind _ _ first next drawnFirst drawnRest ih ihRest =>
    intro roller same other
    obtain ⟨draws, early⟩ := drawnFirst.rolled roller
    cases answer : (outcome first roller).1 with
    | error failure =>
      rw [outcome_bind_of_error answer] at same ⊢
      have again := ih same other
      rw [answer] at again
      rw [outcome_bind_of_error (congrArg Prod.fst again), again]
    | ok a =>
      rw [outcome_bind_of_ok answer] at same ⊢
      obtain ⟨later, late⟩ := (drawnRest a).rolled (outcome first roller).2
      -- The draws of both parts are none together, so each part makes none.
      rw [late.made, early.made, List.append_assoc, List.append_right_eq_self,
        List.append_eq_nil_iff] at same
      have again := ih (early.draws_eq_iff.mpr same.1) other
      rw [answer] at again
      rw [outcome_bind_of_ok (congrArg Prod.fst again), again]
      exact ihRest a (late.draws_eq_iff.mpr same.2) other

structure Session.Beside (session other : Session) : Prop extends session.Level other where
  sound : session.log.Sound
  otherSound : other.log.Sound

namespace Play

def Undrawn (computation : Play α) (session : Session) : Prop :=
  (after computation session).roller.draws = session.roller.draws

structure Agrees (computation : Play α) (session other : Session) : Prop where
  answer : (outcome computation other).1 = (outcome computation session).1
  level : (after computation session).Level (after computation other)
  dice : other.dice = session.dice →
    (after computation other).dice = (after computation session).dice
  idle : Undrawn computation session → (after computation other).dice = other.dice

/-- Whether a computation goes the same way in any two sessions that are beside each other, if they
have the same dice or it draws nothing. -/
def Matches (computation : Play α) : Prop :=
  ∀ session other : Session, session.Beside other →
    other.dice = session.dice ∨ Undrawn computation session → Agrees computation session other

theorem Replays.sound {computation : Play α} (replays : Replays computation) {session : Session}
    (sound : session.log.Sound) : (after computation session).log.Sound := by
  obtain ⟨draws, traced⟩ := replays session sound
  obtain ⟨totals, kept, _⟩ := traced.logged
  exact kept.sound

theorem Replays.undrawn_bind {first : Play α} {next : α → Play β} (replays : Replays first)
    (rest : ∀ a, Replays (next a)) {session : Session} (sound : session.log.Sound)
    (undrawn : Undrawn (first >>= next) session) :
    Undrawn first session ∧ ∀ a, (outcome first session).1 = .ok a →
      Undrawn (next a) (after first session) := by
  obtain ⟨draws, early⟩ := replays session sound
  unfold Undrawn at undrawn ⊢
  cases answer : (outcome first session).1 with
  | error failure =>
    rw [after, outcome_bind_of_error answer] at undrawn
    exact ⟨undrawn, fun _ returns => by cases returns⟩
  | ok a =>
    obtain ⟨later, late⟩ := rest a _ (replays.sound sound)
    have grown := early.rolled
    have grownLater := late.rolled
    have whole : after (first >>= next) session = after (next a) (after first session) := by
      rw [after, outcome_bind_of_ok answer]
      rfl
    rw [whole, after, grownLater, after, grown, List.append_assoc, List.append_right_eq_self,
      List.append_eq_nil_iff] at undrawn
    refine ⟨by rw [after, grown, undrawn.1, List.append_nil], ?_⟩
    rintro _ ⟨⟩
    rw [after, grownLater, undrawn.2, List.append_nil]

theorem Replays.undrawn_of_length {computation : Play α} (replays : Replays computation)
    {session : Session} (sound : session.log.Sound)
    (same : (after computation session).roller.draws.length = session.roller.draws.length) :
    Undrawn computation session := by
  obtain ⟨draws, traced⟩ := replays session sound
  have grown : (after computation session).roller.draws = session.roller.draws ++ draws :=
    traced.rolled
  rw [grown, List.length_append, Nat.add_eq_left, List.length_eq_zero_iff] at same
  rw [Undrawn, grown, same, List.append_nil]

theorem Matches.bind {first : Play α} {next : α → Play β} (replays : Replays first)
    (replaysRest : ∀ a, Replays (next a)) (matched : Matches first)
    (rest : ∀ a, Matches (next a)) : Matches (first >>= next) := by
  intro session other beside alike
  have parts := replays.undrawn_bind replaysRest beside.sound
  have early := matched session other beside (alike.imp_right fun undrawn => (parts undrawn).1)
  cases answer : (outcome first session).1 with
  | error failure =>
    have left : outcome (first >>= next) session = _ := outcome_bind_of_error answer
    have leftOther : outcome (first >>= next) other = _ :=
      outcome_bind_of_error (early.answer.trans answer)
    refine ⟨?_, ?_, ?_, fun undrawn => ?_⟩ <;> simp only [after, left, leftOther]
    · exact early.level
    · exact early.dice
    · exact early.idle (parts undrawn).1
  | ok a =>
    have between : (after first session).Beside (after first other) :=
      ⟨early.level, replays.sound beside.sound, replays.sound beside.otherSound⟩
    have late := rest a _ _ between
      (alike.imp early.dice fun undrawn => (parts undrawn).2 a answer)
    have left : outcome (first >>= next) session = _ := outcome_bind_of_ok answer
    have leftOther : outcome (first >>= next) other = _ :=
      outcome_bind_of_ok (early.answer.trans answer)
    refine ⟨?_, ?_, fun same => ?_, fun undrawn => ?_⟩ <;> simp only [after, left, leftOther]
    · exact late.answer
    · exact late.level
    · exact late.dice (early.dice same)
    · exact (late.idle ((parts undrawn).2 a answer)).trans (early.idle (parts undrawn).1)

theorem matches_lift (result : Except Failure α) : Matches (liftM result) := by
  intro session other beside _
  refine ⟨?_, ?_, ?_, ?_⟩ <;> simp only [after, outcome_lift, implies_true]
  · exact beside.toLevel
  · exact id

theorem matches_ask {question : Session → Except Failure α}
    (same : ∀ session other : Session, session.Level other → question other = question session) :
    Matches (ask question) := by
  intro session other beside _
  refine ⟨?_, ?_, ?_, ?_⟩ <;> simp only [after, outcome_ask, implies_true]
  · exact same session other beside.toLevel
  · exact beside.toLevel
  · exact id

theorem matches_modify {change : Session → Session}
    (level : ∀ session other : Session, session.Level other → (change session).Level (change other))
    (dice : ∀ session, (change session).roller = session.roller) : Matches (modify change) := by
  intro session other beside _
  have left (session : Session) : (after (modify change) session).dice = session.dice :=
    congrArg Roller.unrefused (dice session)
  refine ⟨rfl, level _ _ beside.toLevel, fun same => ?_, fun _ => left other⟩
  rwa [left, left]

theorem outcome_record_clock (event : Event) {session : Session} (sound : session.log.Sound) :
    (outcome (record fun log => log.record event) session).1 =
      (session.state.time.text >>= fun _ => pure ()) := by
  cases clock : session.state.time.text with
  | ok text => exact (outcome_record_shown sound clock event).1
  | error failure => exact (outcome_record_hidden sound clock event).1

theorem matches_record (event : Event) : Matches (record fun log => log.record event) := by
  intro session other beside _
  have kept := keeps_record (fun log => log.record event) session
  have keptOther := keeps_record (fun log => log.record event) other
  have left (session : Session) :
      (after (record fun log => log.record event) session).dice = session.dice :=
    congrArg Roller.unrefused ((Blind.record _).roller session)
  refine ⟨?_, ⟨?_, ?_, ?_⟩, fun same => ?_, fun _ => left other⟩
  · rw [outcome_record_clock event beside.sound, outcome_record_clock event beside.otherSound,
      beside.state]
  · rw [kept.state, keptOther.state, beside.state]
  · rw [kept.machine, keptOther.machine, beside.cursor]
  · rw [kept.notes, keptOther.notes, beside.notes]
  · rwa [left, left]

theorem outcome_settled (game : Game) (draws : List Draw) (answer : Except Failure α)
    {session : Session} (sound : session.log.Sound) (roller : Roller) :
    (outcome (draws.forM (logDraw game) >>= fun _ => liftM answer) { session with roller }).1 =
      match session.state.time.text with
      | .ok _ => answer
      | .error failure => if draws = [] then answer else .error failure := by
  have soundToo : ({ session with roller } : Session).log.Sound := sound
  cases clock : session.state.time.text with
  | ok text =>
    rw [outcome_bind_of_ok (outcome_logDraws_shown game draws soundToo clock).1, outcome_lift]
  | error failure =>
    obtain ⟨empty | refused, _⟩ := outcome_logDraws_hidden game soundToo clock draws
    · subst empty
      rw [outcome_bind_of_ok rfl, outcome_lift]
      rfl
    · by_cases empty : draws = []
      · subst empty
        cases refused
      · rw [outcome_bind_of_error refused]
        simp [empty]

theorem roller_rolling (game : Game) {computation : Rolling α} (drawn : Drawn computation)
    (session : Session) : (after (rolling game computation) session).roller =
      (outcome computation session.heardRoller).2 := by
  obtain ⟨draws, rolled⟩ := drawn.rolled session.heardRoller
  rw [after, outcome_rolling game computation session rolled.made,
    (blind_settled game _ _).roller]

theorem matches_rolling {computation : Rolling α} (drawn : Drawn computation) :
    Matches (rolling game computation) := by
  intro session other beside alike
  have heard : other.heardRoller.refusal = session.heardRoller.refusal := by
    simp [Session.heardRoller, beside.state]
  have sameRoller (same : other.dice = session.dice) : other.heardRoller = session.heardRoller := by
    have roller : other.heardRoller = { other.dice with refusal := other.heardRoller.refusal } :=
      rfl
    rw [roller, heard, same]
    rfl
  obtain ⟨draws, rolled⟩ := drawn.rolled session.heardRoller
  have kept := keeps_rolling game computation session
  have keptOther := keeps_rolling game computation other
  have level : (after (rolling game computation) session).Level
      (after (rolling game computation) other) := by
    refine ⟨?_, ?_, ?_⟩
    · rw [kept.state, keptOther.state, beside.state]
    · rw [kept.machine, keptOther.machine, beside.cursor]
    · rw [kept.notes, keptOther.notes, beside.notes]
  -- In the other session the computation answers the same and makes the same draws.
  have again : (outcome computation other.heardRoller).1 =
      (outcome computation session.heardRoller).1 ∧
        (outcome computation other.heardRoller).2.draws = other.roller.draws ++ draws := by
    rcases alike with same | undrawn
    · have draws : other.roller.draws = session.roller.draws :=
        show other.dice.draws = session.dice.draws by rw [same]
      rw [sameRoller same, draws]
      exact ⟨rfl, rolled.made⟩
    · rw [Undrawn, roller_rolling game drawn] at undrawn
      have none : draws = [] := rolled.draws_eq_iff.mp undrawn
      rw [drawn.undrawn undrawn other.heardRoller, none, List.append_nil]
      exact ⟨rfl, rfl⟩
  refine ⟨?_, level, fun same => ?_, fun undrawn => ?_⟩
  · rw [outcome_rolling game computation session rolled.made,
      outcome_rolling game computation other again.2, again.1,
      outcome_settled game _ _ beside.sound, outcome_settled game _ _ beside.otherSound,
      beside.state]
  · rw [Session.dice, Session.dice, roller_rolling game drawn, roller_rolling game drawn,
      sameRoller same]
  · rw [Undrawn, roller_rolling game drawn] at undrawn
    rw [Session.dice, roller_rolling game drawn, drawn.undrawn undrawn]
    rfl

end Play

namespace Play

structure Regular (computation : Play α) : Prop where
  replays : computation.Replays
  goesAlike : computation.Matches

theorem Regular.bind {first : Play α} {next : α → Play β} (regular : Regular first)
    (rest : ∀ a, Regular (next a)) : Regular (first >>= next) :=
  ⟨regular.replays.bind fun a => (rest a).replays,
    .bind regular.replays (fun a => (rest a).replays) regular.goesAlike
      fun a => (rest a).goesAlike⟩

theorem regular_lift (result : Except Failure α) : Regular (liftM result) :=
  ⟨replays_lift result, matches_lift result⟩

theorem regular_ask {question : Session → Except Failure α}
    (same : ∀ session other : Session, session.Level other → question other = question session) :
    Regular (ask question) :=
  ⟨replays_ask fun _ _ alike => same _ _ alike.level, matches_ask same⟩

theorem regular_record {event : Event} (other : event.kind ≠ .roll) :
    Regular (record fun log => log.record event) :=
  ⟨replays_record other, matches_record event⟩

end Play

theorem Quiet.regular {computation : Play α} (quiet : Quiet game computation) :
    computation.Regular := by
  induction quiet with
  | lift _ => exact Play.regular_lift _
  | bind _ _ ih ihRest => exact ih.bind ihRest
  | ask _ same => exact Play.regular_ask same
  | edit state notes =>
    refine ⟨(Quiet.edit state notes : Quiet game _).replays, ?_⟩
    exact Play.matches_modify (fun _ _ level =>
      ⟨congrArg state level.state, level.cursor, congrArg notes level.notes⟩) fun _ => rfl
  | record event other => exact Play.regular_record other
  | rolling drawn => exact ⟨Play.replays_rolling drawn, Play.matches_rolling drawn⟩

namespace Play

theorem step?_of_cursor {machine other : PhaseMachine} (same : other.cursor = machine.cursor)
    (cursor : Option Cursor) (trigger context : Value) :
    other.step? cursor trigger context = machine.step? cursor trigger context := by
  cases machine
  cases other
  cases same
  rfl

theorem regular_takeStep (game : Game) (step : Step) : Regular (takeStep game step) := by
  have turned (change : PhaseMachine → PhaseMachine) (level : ∀ machine other : PhaseMachine,
      other.cursor = machine.cursor → (change other).cursor = (change machine).cursor) :
      Regular (modify fun session => { session with machine := change session.machine }) :=
    ⟨replays_modify (fun _ => ⟨rfl, rfl⟩) fun _ _ alike =>
      ⟨alike.state, alike.log, congrArg change alike.machine, alike.notes⟩,
      matches_modify (fun _ _ same => ⟨same.state, level _ _ same.cursor, same.notes⟩)
        fun _ => rfl⟩
  exact (turned (·.note step) fun _ _ same => same).bind fun _ =>
    (regular_record (by simp [RunLog.unlogged, Event.kind, Happening.kind])).bind fun _ =>
      turned (·.move step) fun _ _ _ => rfl

theorem regular_observe (game : Game) (trigger : String) : Regular (observe game trigger) := by
  have asked : Regular (ask fun session =>
      session.machine.step? session.state.cursor trigger .null) :=
    regular_ask fun _ _ level => by rw [step?_of_cursor level.cursor, level.state]
  refine asked.bind fun step => ?_
  cases step with
  | some step => exact regular_takeStep game step
  | none => exact regular_lift (.ok ())

theorem regular_finish (game : Game) (trigger : String) : Regular (finish game trigger) :=
  Quiet.follow.regular.bind fun _ => (regular_observe game trigger).bind fun _ =>
    quiet_showView.regular

end Play

theorem Ending.regular {action : Play View} (ending : Ending game trigger P action) :
    action.Regular := by
  induction ending with
  | finish _ => exact Play.regular_finish game trigger
  | part quiet _ _ ih => exact quiet.regular.bind ih

theorem Asking.regular {first : Play α} (asking : Asking first) : first.Regular := by
  cases asking with
  | lift _ => exact Play.regular_lift _
  | ask _ same => exact Play.regular_ask same
  | record event other => exact Play.regular_record other

theorem Answering.regular {answer : Play Reply} (answering : Answering game answer) :
    answer.Regular := by
  induction answering with
  | reply reply _ => exact Play.regular_lift (.ok reply)
  | view ending _ => exact ending.regular.bind fun view => Play.regular_lift (.ok (Reply.view view))
  | before asking _ ih => exact asking.regular.bind ih

end Fabula
