import Fabula.Proofs.Session.Saving
/-!
# The dice of a session

A session rolls with a roller that refuses draws which cannot be logged. A call that returns has not
been refused a draw, so what it has computed is what its computations answer with the dice alone.
Logging moves no dice. Main statements:

* `Drawn.unrefused`: an answer does not depend on what would have been refused;
* `Play.rolled_of_rolling`: what a session computes with its roller.
-/

namespace Fabula
variable {α β : Type} {game : Game}

def Roller.unrefused (roller : Roller) : Roller :=
  { roller with refusal := none }

def Session.dice (session : Session) : Roller :=
  session.roller.unrefused

namespace Roller

theorem draw_unrefused (low high : Int) (roller : Roller) :
    roller.unrefused.draw low high =
      ((roller.draw low high).1, (roller.draw low high).2.unrefused) := by
  obtain ⟨seed, source, log, recording, refusal⟩ := roller
  cases recording with
  | none => rfl
  | some recording =>
    obtain ⟨stream, position, overruns, stopped⟩ := recording
    cases stopped with
    | true => rfl
    | false => cases found : stream[position]? <;> simp [draw, unrefused, drawLive, found]

theorem roll_unrefused (a b : Int) (reason : Value) (roller : Roller) :
    roller.unrefused.roll a b reason =
      ((roller.roll a b reason).1, (roller.roll a b reason).2.unrefused) := by
  simp only [roll, draw_unrefused]
  rfl

end Roller

theorem Drawn.unrefused {computation : Rolling α} (drawn : Drawn computation) :
    ∀ {roller rolled : Roller} {a : α}, computation roller = .ok a rolled →
      computation roller.unrefused = .ok a rolled.unrefused := by
  induction drawn with
  | @lift _ result _ =>
    intro roller rolled a returns
    cases result with
    | ok b =>
      cases returns
      rfl
    | error failure => cases returns
  | bind _ _ ih ihRest =>
    intro roller rolled a returns
    obtain ⟨b, between, early, late⟩ := Play.ok_of_bind returns
    rw [Play.bind_of_ok (ih early)]
    exact ihRest b late
  | roll a b reason =>
    intro roller rolled total returns
    have same : roller.unrefused.nextDraw a b reason = roller.nextDraw a b reason := by
      simp only [Roller.nextDraw, Roller.roll_unrefused]
    rw [← outcome_eq_ok, outcome_roll] at returns ⊢
    cases answer : roller.announce (roller.nextDraw a b reason) with
    | ok _ =>
      have announced : roller.unrefused.announce (roller.nextDraw a b reason) = .ok () :=
        (Roller.announce_ok_iff _).mpr ⟨((Roller.announce_ok_iff _).mp answer).1, rfl⟩
      rw [answer] at returns
      cases returns
      rw [same, announced, Roller.roll_unrefused]
      rfl
    | error failure =>
      rw [answer] at returns
      cases returns

namespace Play

def Steady (computation : Play α) : Prop :=
  ∀ session a next, computation session = .ok a next →
    next.state = session.state ∧ next.roller = session.roller

namespace Steady

theorem bind {first : Play α} {next : α → Play β} (steady : Steady first)
    (rest : ∀ a, Steady (next a)) : Steady (first >>= next) := by
  intro session b last returns
  obtain ⟨a, between, early, late⟩ := ok_of_bind returns
  obtain ⟨state, roller⟩ := steady session a between early
  obtain ⟨lastState, lastRoller⟩ := rest a between b last late
  exact ⟨lastState.trans state, lastRoller.trans roller⟩

theorem lift (result : Except Failure α) : Steady (liftM result) := by
  intro session a next returns
  obtain ⟨_, rfl⟩ := ok_of_lift returns
  exact ⟨rfl, rfl⟩

theorem pure (a : α) : Steady (pure a) :=
  .lift (.ok a)

theorem record (write : RunLog → Except Failure (Event × RunLog)) : Steady (record write) := by
  intro session a next returns
  have last : (outcome (Play.record write) session).2 = next :=
    congrArg Prod.snd (outcome_of_ok returns)
  rw [outcome_record] at last
  rw [← last]
  cases write session.clockedLog <;> exact ⟨rfl, rfl⟩

theorem logDraws (game : Game) (draws : List Draw) : Steady (draws.forM (logDraw game)) := by
  induction draws with
  | nil => exact .pure ()
  | cons draw rest ih => exact .bind (.record _) fun _ => ih

theorem logTimeStep (before after : Clock) (hours : Except Failure Number) (reason : String) :
    Steady (logTimeStep game before after hours reason) :=
  .bind (.lift _) fun _ => .bind (.lift _) fun _ => .bind (.lift _) fun _ => .record _

end Steady

theorem roller_of_settle {roller : Roller} {session next : Session}
    (returns : settle game roller session = .ok () next) : next.roller = roller :=
  (Steady.logDraws game _ { session with roller } () next returns).2

theorem rolled_of_rolling {computation : Rolling α} (drawn : Drawn computation)
    {session next : Session} {a : α} (returns : rolling game computation session = .ok a next) :
    computation session.dice = .ok a next.dice ∧ next.state = session.state := by
  have kept := (keeps_rolling game computation).of_ok returns
  rw [rolling_eq] at returns
  obtain ⟨_, settled, settles, answers⟩ := ok_of_bind returns
  obtain ⟨answer, rfl⟩ := ok_of_lift answers
  have roller := roller_of_settle settles
  cases run : computation session.heardRoller with
  | ok b rolled =>
    rw [outcome_of_ok run] at answer roller
    cases answer
    have heard : session.dice = session.heardRoller.unrefused := rfl
    have left : next.dice = rolled.unrefused := congrArg Roller.unrefused roller
    refine ⟨?_, kept.state⟩
    rw [heard, left]
    exact drawn.unrefused run
  | error failure rolled =>
    rw [outcome_of_error run] at answer
    cases answer

theorem rolled_of_perform {effects : List Effect} {reason : String} {session next : Session}
    (returns : perform game effects reason session = .ok () next) :
    Effect.applyAll session.state effects session.dice = .ok next.state next.dice := by
  obtain ⟨before, _, asked, returns⟩ := ok_of_bind returns
  cases asked
  obtain ⟨after, rolled, rolls, returns⟩ := ok_of_bind returns
  obtain ⟨applies, _⟩ := rolled_of_rolling (drawn_applyAll _ _) rolls
  obtain ⟨_, changed, changes, returns⟩ := ok_of_bind returns
  cases changes
  have logged : next.state = after ∧ next.roller = rolled.roller := by
    split at returns
    · exact Steady.logTimeStep _ _ _ _ _ _ _ returns
    · cases returns
      exact ⟨rfl, rfl⟩
  rw [applies, logged.1, Session.dice, Session.dice, logged.2]

end Play
end Fabula
