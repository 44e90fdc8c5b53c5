import Fabula.Proofs.Outcome
/-!
# Rolling and replaying

A roll makes one draw, and then fails or answers as the announcement of that draw does. A roller
whose recording goes on with the total of a draw makes the same draw.
-/

namespace Fabula

theorem Number.isWritable_of_between {low high n : Int} (above : low ≤ n) (below : n ≤ high)
    (lowWritten : Number.isWritable (.int low)) (highWritten : Number.isWritable (.int high)) :
    Number.isWritable (.int n) := by
  have lowBound : low.natAbs < writableBound := of_decide_eq_true lowWritten
  have highBound : high.natAbs < writableBound := of_decide_eq_true highWritten
  exact decide_eq_true (by omega)

def Recording.replayed (past future : List Value) : Recording :=
  ⟨past ++ future, past.length, 0, false⟩

theorem Recording.ofStream_eq (stream : List Value) : ofStream stream = replayed [] stream := rfl

namespace Roller
variable {roller : Roller}

def nextDraw (roller : Roller) (a b : Int) (reason : Value) : Draw :=
  ⟨min a b, max a b, (roller.roll a b reason).1, reason⟩

theorem draw_draws (low high : Int) (roller : Roller) :
    (roller.draw low high).2.draws = roller.draws := by
  unfold draw
  split
  · rfl
  · split
    · rfl
    · split <;> rfl

theorem draw_refusal (low high : Int) (roller : Roller) :
    (roller.draw low high).2.refusal = roller.refusal := by
  unfold draw
  split
  · rfl
  · split
    · rfl
    · split <;> rfl

theorem draw_replayed {low high : Int} {past future : List Value} {total : Value}
    (recorded : roller.recording = some (.replayed past (total :: future))) :
    roller.draw low high =
      (total, { roller with recording := some (.replayed (past ++ [total]) future) }) := by
  simp [draw, recorded, Recording.replayed]

theorem roll_draws (a b : Int) (reason : Value) (roller : Roller) :
    (roller.roll a b reason).2.draws = roller.draws ++ [roller.nextDraw a b reason] := by
  simp [roll, nextDraw, draw_draws]

theorem roll_refusal (a b : Int) (reason : Value) (roller : Roller) :
    (roller.roll a b reason).2.refusal = roller.refusal :=
  draw_refusal _ _ _

theorem roll_replayed (a b : Int) (reason : Value) {past future : List Value} {draw : Draw}
    (recorded : roller.recording = some (.replayed past (draw.total :: future))) :
    (roller.roll a b reason).1 = draw.total ∧
      (roller.roll a b reason).2.recording = some (.replayed (past ++ [draw.total]) future) := by
  simp [roll, draw_replayed recorded]

theorem announce_eq {other : Roller} (same : other.refusal = roller.refusal) (draw : Draw) :
    other.announce draw = roller.announce draw := by
  simp [announce, same]

theorem replaying_eq {seed : Value} {entropy n : Nat} (seeded : seed.seed entropy = .ok n)
    (stream : List Value) : replaying stream seed entropy =
      .ok ⟨seed, .ofSeed n, [], some (.replayed [] stream), none⟩ := by
  simp [replaying, ofSeed, seeded, Recording.ofStream_eq, bind, Except.bind, pure, Except.pure]

theorem announce_ok_iff (draw : Draw) :
    roller.announce draw = .ok () ↔ draw.isWritable ∧ roller.refusal = none := by
  unfold announce
  cases roller.refusal <;> by_cases written : draw.isWritable <;>
    simp [written, bind, Except.bind, pure, Except.pure, throw, throwThe, MonadExceptOf.throw]

end Roller

theorem outcome_roll (a b : Int) (reason : Value) (roller : Roller) :
    outcome (Rolling.roll a b reason) roller =
      ((fun () => (roller.nextDraw a b reason).total) <$>
          roller.announce (roller.nextDraw a b reason),
        (roller.roll a b reason).2) := by
  have rolled : outcome (modifyGet (Roller.roll a b reason) : Rolling Value) roller =
    (.ok (roller.nextDraw a b reason).total, (roller.roll a b reason).2) := rfl
  have asked (next : Roller) : outcome (get : Rolling Roller) next = (.ok next, next) := rfl
  have draw : (⟨min a b, max a b, (roller.nextDraw a b reason).total, reason⟩ : Draw) =
    roller.nextDraw a b reason := rfl
  simp only [Rolling.roll, outcome_bind, rolled, asked, outcome_lift, draw]
  rw [Roller.announce_eq (roller.roll_refusal a b reason)]
  cases roller.announce (roller.nextDraw a b reason) <;> rfl

end Fabula
