import Fabula.Proofs.Number.Order
import Fabula.Proofs.Number.Unpacked
import Fabula.Proofs.Rules.Record
import Fabula.Rules.Evaluation
/-!
# Conditions on numbers

Conditions compare numbers exactly, so the answers to conditions about one number fit together.
Hours of the day that ascend cut the day into spans, from each hour up to the next one and from the
last one past midnight to the first, and one of the spans has the hour of the clock. A variable that
holds a number is above a threshold, below it or at it; any other value passes none of the three
conditions. Main statements:

* `shifts_partition`: exactly one span of a day has its hour;
* `comparisons_decide`: exactly one comparison of a number passes, and none of anything else.
-/

namespace Fabula

theorem Number.Finite.placed {n : Number} (finite : n.Finite) : n.Placed := by
  cases n with
  | int n => exact Binary64.Extended.noConfusion
  | float x =>
    intro none
    have shape : Binary64.parts x = .nan := Binary64.value_eq_nan_iff.mp none
    have finite : x.toModel.unpack.isFinite := finite
    rw [Binary64.parts_nan_iff.mp shape] at finite
    cases finite

namespace Condition
variable {state : GameState}

/-- Whether all conditions have an answer and so many of them pass. -/
def Passing (state : GameState) (conditions : List Condition) (count : Nat) : Prop :=
  ∃ answers : List Bool, conditions.map (passes state) = answers.map pure ∧
    answers.count true = count

theorem passes_of_answer {condition : Condition} {answer : Bool}
    (answers : condition.answer state = pure (.bool answer)) :
    condition.passes state = pure answer := by
  simp only [passes, answers, pure_bind, Value.isPresent]

theorem passes_timeIs {hour : Number} (shown : state.time.hour.arithmetic? = some hour)
    (start stop : Number) :
    (timeIs start stop).passes state = pure (withinHours start stop hour) := by
  apply passes_of_answer
  simp only [answer, shown]

/-- The spans from each hour to the next one and from the last one to the first. -/
def shifts (hours : List Number) : List Condition :=
  hours.zipWith .timeIs (hours.tail ++ hours.take 1)

section
variable {first start stop hour : Number}

theorem withinHours_eq (startPlaced : start.Placed) (stopPlaced : stop.Placed)
    (placed : hour.Placed) :
    withinHours start stop hour =
      if start.place < stop.place then decide (start.place ≤ hour.place ∧ hour.place < stop.place)
      else decide (start.place ≤ hour.place ∨ hour.place < stop.place) := by
  simp only [withinHours, Number.lt_iff startPlaced stopPlaced, Number.le_eq startPlaced placed,
    Number.lt_eq placed stopPlaced, Bool.decide_and, Bool.decide_or]

theorem withinHours_unplaced (none : ¬ hour.Placed) : withinHours start stop hour = false := by
  have below := Number.unplaced none stop
  have above := Number.unplaced none start
  simp [withinHours, below, above]

theorem count_spans (placed : hour.Placed) (firstPlaced : first.Placed) {rest : List Number}
    (startPlaced : start.Placed) (ascends : (start :: rest).IsChain fun a b => a.lt b)
    (before : first.place ≤ start.place) :
    ((start :: rest).zipWith (withinHours · · hour) (rest ++ [first])).count true =
      if start.place ≤ hour.place ∨ hour.place < first.place then 1 else 0 := by
  induction rest generalizing start with
  | nil =>
    -- The last span goes past midnight, back to the first hour.
    simp [withinHours_eq startPlaced firstPlaced placed, before.not_gt, List.count_singleton]
  | cons stop rest ih =>
    obtain ⟨next, ascends⟩ := List.isChain_cons_cons.mp ascends
    have stopPlaced := (Number.placed_of_lt next).2
    have next := (Number.lt_iff startPlaced stopPlaced).mp next
    have onward := ih stopPlaced ascends (before.trans next.le)
    rw [List.cons_append, List.zipWith_cons_cons, List.count_cons, onward,
      withinHours_eq startPlaced stopPlaced placed, if_pos next]
    -- An hour that has come is in this span or in a later one.
    rcases lt_or_ge hour.place start.place with early | started
    · have notYet : ¬ stop.place ≤ hour.place := (early.trans next).not_ge
      simp [early.not_ge, notYet]
    · have past : ¬ hour.place < first.place := (before.trans started).not_gt
      rcases lt_or_ge hour.place stop.place with running | ended
      · simp [started, running, running.not_ge, past]
      · simp [started, ended, ended.not_gt]

theorem count_spans_unplaced (none : ¬ hour.Placed) (starts stops : List Number) :
    (starts.zipWith (withinHours · · hour) stops).count true = 0 := by
  induction starts generalizing stops with
  | nil => rfl
  | cons start starts ih =>
    cases stops with
    | nil => rfl
    | cons stop stops =>
      rw [List.zipWith_cons_cons, withinHours_unplaced none, List.count_cons, ih stops]
      rfl

end

/-- Hours that ascend cut the day into spans, and exactly one of them has the hour that the clock
shows; only a float that is no number is in none. -/
theorem shifts_partition {hour : Number} {hours : List Number} (two : 2 ≤ hours.length)
    (ascends : hours.IsChain fun a b => a.lt b)
    (shown : state.time.hour.arithmetic? = some hour) :
    Passing state (shifts hours) (if hour.Placed then 1 else 0) := by
  obtain ⟨first, next, rest, rfl⟩ : ∃ first next rest, hours = first :: next :: rest := by
    match hours, two with
    | first :: next :: rest, _ => exact ⟨first, next, rest, rfl⟩
  have firstPlaced := (Number.placed_of_lt (List.isChain_cons_cons.mp ascends).1).1
  refine ⟨(first :: next :: rest).zipWith (withinHours · · hour) (next :: rest ++ [first]),
    ?_, ?_⟩
  · simp only [shifts, List.map_zipWith, passes_timeIs shown, List.tail_cons,
      List.take_succ_cons, List.take_zero]
  · split
    · next placed =>
      rw [count_spans placed firstPlaced firstPlaced ascends le_rfl,
        if_pos (le_or_gt first.place hour.place)]
    · next none => exact count_spans_unplaced none _ _

def nightShift : GameState :=
  { GameState.empty "hall" (.bool true) "en" with time := ⟨.int 1, .float 0.5⟩ }

theorem shifts_partition_night :
    2 ≤ [Number.int 6, .float 14.5, .int 22].length ∧
      [Number.int 6, .float 14.5, .int 22].IsChain (fun a b => a.lt b) ∧
      Passing nightShift (shifts [.int 6, .float 14.5, .int 22]) 1 := by
  have ascends : [Number.int 6, .float 14.5, .int 22].IsChain fun a b => a.lt b := by
    decide +kernel
  have shown : nightShift.time.hour.arithmetic? = some (.float 0.5) := rfl
  have one := shifts_partition (by decide) ascends shown
  rw [if_pos (by decide +kernel)] at one
  exact ⟨by decide, ascends, one⟩

def comparisons (name : String) (threshold : Number) : List Condition :=
  [.variableGreaterThan name threshold, .variableLessThan name threshold,
    .variableEquals name (.number threshold)]

def heldNumber? (state : GameState) (name : String) : Option Number :=
  (state.bindings.find? name).bind Value.number?

theorem checkNumber_eq (state : GameState) (name : String) (check : Number → Bool) :
    checkNumber state name check = (heldNumber? state name).any check := by
  unfold checkNumber heldNumber? Table.getOrNull Table.getD
  cases state.bindings.find? name <;> rfl

theorem checkVariable_number (state : GameState) (name : String) (n : Number) :
    checkVariable state name (.number n) = (heldNumber? state name).any (·.same n) := by
  unfold checkVariable heldNumber?
  cases state.bindings.find? name with
  | none => rfl
  | some value =>
    cases value with
    | number held =>
      simp [Value.number?, Value.same, Value.alike, Value.arithmetic?, Value.isNaN, Number.alike,
        Number.same, Binary64.Extended.same, bne, Bool.and_comm]
    | null | bool b | text s | list items | record fields => rfl

theorem passes_comparisons (state : GameState) (name : String) (threshold : Number) :
    (comparisons name threshold).map (passes state) =
      [(heldNumber? state name).any (threshold.lt ·), (heldNumber? state name).any (·.lt threshold),
        (heldNumber? state name).any (·.same threshold)].map pure := by
  rw [← checkNumber_eq, ← checkNumber_eq, ← checkVariable_number]
  rfl

theorem pure_injective {a b : Bool} (same : (pure a : Rolling Bool) = pure b) : a = b := by
  have answers := congrFun same ⟨.null, ⟨#[], 0⟩, [], none, none⟩
  cases answers
  rfl

section
variable {name id : String} {threshold higher n : Number} {character : CharacterState}

theorem comparisons_held (placed : threshold.Placed) (held : heldNumber? state name = some n)
    (real : n.Placed) : Passing state (comparisons name threshold) 1 := by
  refine ⟨_, passes_comparisons state name threshold, ?_⟩
  simp only [held, Option.any_some]
  rcases Number.trichotomy real placed with below | above | equal
  all_goals simp_all

theorem comparisons_other (none : heldNumber? state name = none) (threshold : Number) :
    Passing state (comparisons name threshold) 0 := by
  refine ⟨_, passes_comparisons state name threshold, ?_⟩
  simp [none]

section
variable (known : state.characters.find? id = some character)
  (numeric : character.relationship.arithmetic? = some n)
include known numeric

theorem passes_relationshipAbove (threshold : Number) :
    (relationshipAbove id threshold).passes state = pure (threshold.lt n) := by
  apply passes_of_answer
  simp only [answer, checkRelationship, known, numeric]
  rfl

theorem passes_relationshipBelow (threshold : Number) :
    (relationshipBelow id threshold).passes state = pure (n.lt threshold) := by
  apply passes_of_answer
  simp only [answer, checkRelationship, known, numeric]
  rfl

theorem relationships_apart (placed : threshold.Placed) (real : n.Placed) :
    Passing state [.relationshipAbove id threshold, .relationshipBelow id threshold]
      (if n.same threshold then 0 else 1) := by
  refine ⟨[threshold.lt n, n.lt threshold], ?_, ?_⟩
  · simp only [List.map_cons, List.map_nil, passes_relationshipAbove known numeric,
      passes_relationshipBelow known numeric]
  · rcases Number.trichotomy real placed with below | above | equal
    all_goals simp_all

theorem relationshipAbove_raised (placed : threshold.Placed) (raised : higher.Placed)
    (above : threshold.le higher)
    (fails : (relationshipAbove id threshold).passes state = pure false) :
    (relationshipAbove id higher).passes state = pure false := by
  rw [passes_relationshipAbove known numeric] at fails ⊢
  have low := pure_injective fails
  congr 1
  by_cases real : n.Placed
  · rw [Number.lt_eq placed real, decide_eq_false_iff_not, not_lt] at low
    rw [Number.le_eq placed raised, decide_eq_true_iff] at above
    rw [Number.lt_eq raised real, decide_eq_false_iff_not, not_lt]
    exact low.trans above
  · exact (Number.unplaced real higher).2.1

end

end

/-- Against a finite threshold, a variable that holds a number passes exactly one of the three
comparisons, and any other variable none. The relationship of a character is not both above and
below a threshold, is neither exactly at the threshold, and does not come to be above a threshold
that is raised. -/
theorem comparisons_decide {threshold : Number} (finite : threshold.Finite) (state : GameState) :
    (∀ name n, heldNumber? state name = some n → n.Placed →
      Passing state (comparisons name threshold) 1) ∧
    (∀ name, heldNumber? state name = none → Passing state (comparisons name threshold) 0) ∧
    ∀ (id : String) character n, state.characters.find? id = some character →
      character.relationship.arithmetic? = some n → n.Placed →
      Passing state [.relationshipAbove id threshold, .relationshipBelow id threshold]
        (if n.same threshold then 0 else 1) ∧
      ∀ higher : Number, higher.Finite → threshold.le higher →
        (relationshipAbove id threshold).passes state = pure false →
        (relationshipAbove id higher).passes state = pure false :=
  ⟨fun _ _ held real => comparisons_held finite.placed held real,
    fun _ none => comparisons_other none threshold,
    fun _ _ _ known numeric real =>
      ⟨relationships_apart known numeric finite.placed real, fun _ raised above =>
        relationshipAbove_raised known numeric finite.placed raised.placed above⟩⟩

def rivals : GameState :=
  { GameState.empty "hall" (.bool true) "en" with
    bindings := ⟨[("gold", .int (2 ^ 53 + 1)), ("rank", "squire")]⟩
    characters := ⟨[("ada", ⟨"hall", .bool false, .float 2.5, ⟨[]⟩⟩)]⟩ }

/-- An integer just above a float that it would be rounded to. -/
theorem comparisons_decide_rivals :
    let threshold : Number := .float 9007199254740992
    threshold.Finite ∧ Passing rivals (comparisons "gold" threshold) 1 ∧
      Passing rivals (comparisons "rank" threshold) 0 ∧
      Passing rivals
        [.relationshipAbove "ada" threshold, .relationshipBelow "ada" threshold] 1 := by
  have finite : (Number.float 9007199254740992).Finite := by
    change (9007199254740992 : Float).isFinite
    decide +kernel
  obtain ⟨held, other, relationships⟩ := comparisons_decide finite rivals
  have apart := (relationships "ada" _ (.float 2.5) rfl rfl (by decide +kernel)).1
  have differs : (Number.float 2.5).same (.float 9007199254740992) = false := by decide +kernel
  rw [differs] at apart
  exact ⟨finite, held "gold" (.int (2 ^ 53 + 1)) rfl (by decide +kernel), other "rank" rfl, apart⟩

end Condition
end Fabula
