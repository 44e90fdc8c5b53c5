import Fabula.Proofs.Session.Dice
/-!
# Asking conditions

Conditions are asked one after the other, up to the first that does not pass. A roll condition draws
once each time it is asked, and no other condition draws, so which conditions have been asked is all
that has happened to the dice. Main statements:

* `ok_of_allPass`: which conditions are asked, and what that leaves of the dice;
* `draws_afterAsking`: which draws that makes.
-/

namespace Fabula
variable {state : GameState} {roller : Roller}

def Draw.request (draw : Draw) : Int × Int × Value :=
  (draw.low, draw.high, draw.reason)

def Condition.request? : Condition → Option (Int × Int × Value)
  | .roll minimum maximum threshold =>
    some (min minimum maximum, max minimum maximum, .text ("roll check >= " ++ threshold.text))
  | _ => none

namespace Roller

def asked (roller : Roller) : Condition → Roller
  | .roll minimum maximum threshold =>
    (roller.roll minimum maximum (.text ("roll check >= " ++ threshold.text))).2
  | _ => roller

def afterAsking (roller : Roller) (conditions : List Condition) : Roller :=
  conditions.foldl asked roller

@[simp] theorem afterAsking_nil : roller.afterAsking [] = roller := rfl

@[simp] theorem afterAsking_cons (condition : Condition) (rest : List Condition) :
    roller.afterAsking (condition :: rest) = (roller.asked condition).afterAsking rest := rfl

theorem afterAsking_append (early late : List Condition) :
    roller.afterAsking (early ++ late) = (roller.afterAsking early).afterAsking late :=
  List.foldl_append ..

theorem draws_asked (condition : Condition) : ∃ draws, (roller.asked condition).draws =
    roller.draws ++ draws ∧ draws.map Draw.request = condition.request?.toList := by
  cases condition with
  | roll minimum maximum threshold => exact ⟨_, roller.roll_draws .., rfl⟩
  | _ => exact ⟨[], by simp [asked], rfl⟩

theorem draws_afterAsking (conditions : List Condition) : ∃ draws,
    (roller.afterAsking conditions).draws = roller.draws ++ draws ∧
      draws.map Draw.request = conditions.filterMap Condition.request? := by
  induction conditions generalizing roller with
  | nil => exact ⟨[], by simp⟩
  | cons condition rest ih =>
    obtain ⟨draws, made, requested⟩ := roller.draws_asked condition
    obtain ⟨others, madeOthers, requestedOthers⟩ := @ih (roller.asked condition)
    refine ⟨draws ++ others, ?_, ?_⟩
    · rw [afterAsking_cons, madeOthers, made, List.append_assoc]
    · rw [List.map_append, requested, requestedOthers, List.filterMap_cons]
      cases condition.request? <;> rfl

end Roller

theorem rolled_of_lift {α : Type} {result : Except Failure α} {rolled : Roller} {a : α}
    (returns : (liftM result : Rolling α) roller = .ok a rolled) : rolled = roller := by
  cases result <;> cases returns
  rfl

theorem rolled_of_roll {a b : Int} {reason total : Value} {rolled : Roller}
    (returns : Rolling.roll a b reason roller = .ok total rolled) :
    rolled = (roller.roll a b reason).2 := by
  have left : (outcome (Rolling.roll a b reason) roller).2 = rolled :=
    congrArg Prod.snd (outcome_of_ok returns)
  rw [← left, outcome_roll]

theorem ok_of_answer {condition : Condition} {rolled : Roller} {value : Value}
    (returns : condition.answer state roller = .ok value rolled) :
    rolled = roller.asked condition := by
  cases condition with
  | relationshipAbove | relationshipBelow =>
    obtain ⟨_, _, checks, answers⟩ := Play.ok_of_bind returns
    cases answers
    exact rolled_of_lift checks
  | timeIs start stop =>
    cases hour : state.time.hour.arithmetic? <;> simp only [Condition.answer, hour] at returns <;>
      cases returns
    rfl
  | roll minimum maximum threshold =>
    obtain ⟨_, _, writes, returns⟩ := Play.ok_of_bind returns
    obtain ⟨_, _, rolls, returns⟩ := Play.ok_of_bind returns
    obtain ⟨_, _, compares, answers⟩ := Play.ok_of_bind returns
    cases answers
    rw [rolled_of_lift compares, rolled_of_roll rolls, rolled_of_lift writes]
    rfl
  | _ =>
    cases returns
    rfl

theorem ok_of_passes {condition : Condition} {rolled : Roller} {passes : Bool}
    (returns : condition.passes state roller = .ok passes rolled) :
    rolled = roller.asked condition := by
  obtain ⟨_, _, answers, returns⟩ := Play.ok_of_bind returns
  cases returns
  exact ok_of_answer answers

def Condition.Answers (state : GameState) (roller : Roller) (condition : Condition)
    (passes : Bool) : Prop :=
  condition.passes state roller = .ok passes (roller.asked condition)

inductive PassInTurn (state : GameState) : Roller → List Condition → Prop
  | nil {roller : Roller} : PassInTurn state roller []
  | cons {roller : Roller} {condition : Condition} {rest : List Condition}
      (passes : condition.Answers state roller true)
      (others : PassInTurn state (roller.asked condition) rest) :
      PassInTurn state roller (condition :: rest)

/-- Whether conditions that are asked in turn pass up to one that does not. Those after it are not
asked. -/
inductive StopAt (state : GameState) (roller : Roller) (conditions : List Condition) :
    List Condition → Prop
  | intro {early late : List Condition} {condition : Condition}
      (split : conditions = early ++ condition :: late) (pass : PassInTurn state roller early)
      (stops : condition.Answers state (roller.afterAsking early) false) :
      StopAt state roller conditions (early ++ [condition])

theorem StopAt.cons {condition : Condition} {rest asked : List Condition}
    (passes : condition.Answers state roller true)
    (stops : StopAt state (roller.asked condition) rest asked) :
    StopAt state roller (condition :: rest) (condition :: asked) := by
  obtain ⟨split, pass, stops⟩ := stops
  exact .intro (congrArg (condition :: ·) split) (.cons passes pass) stops

theorem ok_of_allPass {conditions : List Condition} {rolled : Roller} {passes : Bool}
    (returns : Condition.allPass state conditions roller = .ok passes rolled) :
    passes = true ∧ PassInTurn state roller conditions ∧ rolled = roller.afterAsking conditions ∨
      passes = false ∧ ∃ asked, StopAt state roller conditions asked ∧
        rolled = roller.afterAsking asked := by
  induction conditions generalizing roller with
  | nil =>
    cases returns
    exact .inl ⟨rfl, .nil, rfl⟩
  | cons condition rest ih =>
    obtain ⟨answer, between, first, returns⟩ := Play.ok_of_bind returns
    obtain rfl := ok_of_passes first
    cases answer with
    | true =>
      obtain ⟨rfl, pass, rfl⟩ | ⟨rfl, asked, stops, rfl⟩ := ih returns
      · exact .inl ⟨rfl, .cons first pass, rfl⟩
      · exact .inr ⟨rfl, _, stops.cons first, rfl⟩
    | false =>
      obtain ⟨_, _, writes, returns⟩ := Play.ok_of_bind returns
      cases returns
      exact .inr ⟨rfl, [condition], .intro rfl .nil first, rolled_of_lift writes⟩

theorem Condition.Answers.unique {condition : Condition} {one other : Bool}
    (answers : condition.Answers state roller one) (again : condition.Answers state roller other) :
    one = other := by
  unfold Answers at answers again
  rw [answers] at again
  cases again
  rfl

theorem StopAt.not_pass {conditions asked : List Condition}
    (stops : StopAt state roller conditions asked) : ¬ PassInTurn state roller conditions := by
  obtain ⟨rfl, pass, stops⟩ := stops
  induction pass with
  | nil =>
    rintro ⟨⟩
    next passes _ => cases passes.unique stops
  | cons _ _ ih =>
    rintro ⟨⟩
    next others => exact ih stops others

theorem StopAt.unique {conditions one other : List Condition}
    (stops : StopAt state roller conditions one) (again : StopAt state roller conditions other) :
    one = other := by
  obtain ⟨rfl, pass, stops⟩ := stops
  induction pass generalizing other with
  | nil =>
    obtain ⟨split, pass, _⟩ := again
    cases pass with
    | nil =>
      cases split
      rfl
    | cons passes _ =>
      cases split
      cases passes.unique stops
  | cons passes others ih =>
    obtain ⟨split, pass, stopsAgain⟩ := again
    cases pass with
    | nil =>
      cases split
      cases passes.unique stopsAgain
    | cons _ pass =>
      simp only [List.cons_append, List.cons.injEq] at split
      obtain ⟨rfl, split⟩ := split
      exact congrArg _ (ih stops (.intro split pass stopsAgain))

end Fabula
