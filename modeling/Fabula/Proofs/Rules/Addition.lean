import Fabula.Proofs.Session.Ledger
import Fabula.Proofs.Table
/-!
# Additions

Four effects add an amount to what a state holds: to a variable, to a relationship, to a statistic
of a character, and to the clock. Among whole numbers two additions in a row do what their sum does
at once, wherever they start from: a variable or a statistic that is no number gives way to the
first amount, a character that nobody knows stays unknown, and the clock carries what is above a
day into the days. Only an amount of more digits than can be written is not added. Main statements:

* `Clock.advance_fuses`, `Clock.counts_advance`: whole hours that are added to a clock;
* `additions_fuse`: the laws of all four effects.
-/

namespace Fabula

/-- Whether one computation returns from a start what two others return one after the other. -/
def Fuses {α : Type} (first second both : α → Except Failure α) (start : α) : Prop :=
  ∃ middle last, first start = .ok middle ∧ second middle = .ok last ∧ both start = .ok last

namespace Table
variable {table : Table Value} {name : String}

def wholeAt (table : Table Value) (name : String) : Int :=
  ((table.find? name).bind Value.int?).getD 0

theorem addNumber_whole (noFloat : ∀ x, table.find? name ≠ some (.float x)) (n : Int) :
    table.addNumber name (.int n) = .ok (table.insert name (.int (table.wholeAt name + n))) := by
  unfold addNumber wholeAt getOrNull getD
  cases found : table.find? name with
  | none => simp [Value.number?, Value.int, pure, Except.pure]
  | some value =>
    cases value with
    | number held =>
      cases held with
      | int held => rfl
      | float x => exact absurd found (noFloat x)
    | null | bool b | text s | list items | record fields =>
      simp [Value.number?, Value.int?, Value.int, pure, Except.pure]

theorem addNumber_fuses (noFloat : ∀ x, table.find? name ≠ some (.float x)) (a b : Int) :
    Fuses (addNumber · name (.int a)) (addNumber · name (.int b)) (addNumber · name (.int (a + b)))
      table := by
  have held : (table.insert name (.int (table.wholeAt name + a))).wholeAt name =
      table.wholeAt name + a := by
    simp [wholeAt, Value.int, Value.int?]
  refine ⟨_, _, addNumber_whole noFloat a, addNumber_whole (by simp [Value.int, Value.float]) b, ?_⟩
  simp only [addNumber_whole noFloat, insert_insert, held, Int.add_assoc]

end Table

namespace GameState
variable {state : GameState} {id : String}
  {first second both : CharacterState → Except Failure CharacterState}

theorem updateCharacter_fuses (fuses : ∀ character, state.characters.find? id = some character →
    Fuses first second both character) :
    Fuses (updateCharacter · id first) (updateCharacter · id second) (updateCharacter · id both)
      state := by
  cases found : state.characters.find? id with
  | none => exact ⟨state, state, by simp [updateCharacter, found]⟩
  | some character =>
    obtain ⟨middle, last, begins, ends, atOnce⟩ := fuses character found
    refine ⟨{ state with characters := state.characters.insert id middle },
      { state with characters := state.characters.insert id last }, ?_, ?_, ?_⟩
    · simp [updateCharacter, found, begins, bind, Except.bind, pure, Except.pure]
    · simp [updateCharacter, ends, Table.insert_insert, bind, Except.bind, pure, Except.pure]
    · simp [updateCharacter, found, atOnce, bind, Except.bind, pure, Except.pure]

end GameState

namespace Clock

theorem advance_whole_eq (day hour n : Int) : (whole day hour).advance (.int n) =
    .ok (whole (day + (hour + n) / 24) ((hour + n) % 24)) := by
  have computes : (whole day hour).advance (.int n) =
      .ok (whole (day + (hour + n).fdiv hoursPerDay) ((hour + n).fmod hoursPerDay)) := rfl
  rw [computes, Int.fdiv_eq_ediv_of_nonneg _ (Int.natCast_nonneg _),
    Int.fmod_eq_emod_of_nonneg _ (Int.natCast_nonneg _)]
  rfl

theorem advance_fuses (day hour a b : Int) :
    Fuses (advance · (.int a)) (advance · (.int b)) (advance · (.int (a + b)))
      (whole day hour) := by
  refine ⟨_, _, advance_whole_eq day hour a, advance_whole_eq _ _ b, ?_⟩
  have days : day + (hour + (a + b)) / 24 = day + (hour + a) / 24 + ((hour + a) % 24 + b) / 24 := by
    omega
  have hours : (hour + (a + b)) % 24 = ((hour + a) % 24 + b) % 24 := by omega
  rw [← days, ← hours]
  exact advance_whole_eq day hour (a + b)

def Counts (total : Int) (clock : Clock) : Prop :=
  ∃ day hour, clock = whole day hour ∧ 24 * day + hour = total ∧ 0 ≤ hour ∧ hour < 24

theorem counts_advance (day hour n : Int) : ∃ next,
    (whole day hour).advance (.int n) = .ok next ∧ next.Counts (24 * day + hour + n) := by
  refine ⟨_, advance_whole_eq day hour n, _, _, rfl, ?_, ?_, ?_⟩ <;> omega

theorem advance_zero_iff (day hour : Int) :
    (whole day hour).advance (.int 0) = .ok (whole day hour) ↔ 0 ≤ hour ∧ hour < 24 := by
  rw [advance_whole_eq]
  simp only [whole, Value.int, Except.ok.injEq, Clock.mk.injEq, Value.number.injEq,
    Number.int.injEq]
  omega

end Clock

inductive Quantity where
  | binding (name : String)
  | relationship (character : String)
  | statistic (character stat : String)
  | time

namespace Quantity

def adding : Quantity → Int → Effect
  | .binding name, n => .addVariable name (.int n)
  | .relationship character, n => .addRelationship character (.int n)
  | .statistic character stat, n => .addCharacterStat character stat (.int n)
  | .time, n => .advanceTime (.int n)

theorem adding_isWritable (quantity : Quantity) (n : Int) :
    (quantity.adding n).isWritable = Number.isWritable (.int n) := by
  cases quantity <;> exact Bool.and_true _

/-- Whether a quantity is counted in whole numbers. A variable and a statistic may also be absent or
no number at all, and a character may be unknown. -/
def Whole (state : GameState) : Quantity → Prop
  | .binding name => ∀ x, state.bindings.find? name ≠ some (.float x)
  | .relationship id => ∀ character, state.characters.find? id = some character →
    ∃ n, character.relationship = .int n
  | .statistic id stat => ∀ character, state.characters.find? id = some character →
    ∀ x, character.stats.find? stat ≠ some (.float x)
  | .time => ∃ day hour, state.time = .whole day hour

end Quantity

theorem relationship_fuses {character : CharacterState} {held : Int}
    (whole : character.relationship = .int held) (a b : Int) :
    let raise (n : Int) (character : CharacterState) : Except Failure CharacterState := do
      return { character with
        relationship := .number (← character.relationship.sum (.number (.int n))) }
    Fuses (raise a) (raise b) (raise (a + b)) character := by
  obtain ⟨location, inParty, relationship, stats⟩ := character
  subst whole
  refine ⟨⟨location, inParty, .int (held + a), stats⟩,
    ⟨location, inParty, .int (held + a + b), stats⟩, rfl, rfl, ?_⟩
  rw [Int.add_assoc]
  rfl

theorem statistic_fuses {character : CharacterState} {stat : String}
    (noFloat : ∀ x, character.stats.find? stat ≠ some (.float x)) (a b : Int) :
    let raise (n : Int) (character : CharacterState) : Except Failure CharacterState := do
      return { character with stats := ← character.stats.addNumber stat (.int n) }
    Fuses (raise a) (raise b) (raise (a + b)) character := by
  obtain ⟨middle, last, begins, ends, atOnce⟩ := Table.addNumber_fuses noFloat a b
  refine ⟨{ character with stats := middle }, { character with stats := last }, ?_, ?_, ?_⟩
  · simp only [begins]
    rfl
  · simp only [ends]
    rfl
  · simp only [atOnce]
    rfl

section
variable {state middle last : GameState}

theorem handle_addVariable {name : String} {n : Int} {bindings : Table Value}
    (adds : state.bindings.addNumber name (.int n) = .ok bindings) :
    (Effect.addVariable name (.int n)).handle state = pure { state with bindings } := by
  simp only [Effect.handle, adds]
  rfl

theorem handle_advanceTime {n : Int} {time : Clock}
    (advances : state.time.advance (.int n) = .ok time) :
    (Effect.advanceTime (.int n)).handle state = pure { state with time } := by
  simp only [Effect.handle, Value.int] at advances ⊢
  simp only [advances]
  rfl

theorem lift_ok {result : Except Failure GameState} (returns : result = .ok last) :
    (liftM result : Rolling GameState) = pure last :=
  returns ▸ rfl

end

/-- What adding amounts comes to: a state, if all of the amounts can be written. -/
def Quantity.added (amounts : List Int) (last : GameState) : Rolling GameState :=
  if amounts.all fun n => Number.isWritable (.int n) then pure last
  else throw (.unsuitable .unwritable)

namespace Quantity
variable {quantity : Quantity} {state middle last : GameState} {a b : Int}

theorem apply_adding (adds : (quantity.adding a).handle state = pure last) :
    (quantity.adding a).apply state = added [a] last := by
  simp only [Effect.apply, Effect.requireText, adding_isWritable, added, List.all_cons,
    List.all_nil, Bool.and_true]
  cases Number.isWritable (.int a) with
  | true => exact adds
  | false => rfl

theorem applyAll_adding (begins : (quantity.adding a).handle state = pure middle)
    (ends : (quantity.adding b).handle middle = pure last) :
    Effect.applyAll state [quantity.adding a, quantity.adding b] = added [a, b] last := by
  simp only [Effect.applyAll, apply_adding begins]
  cases first : Number.isWritable (.int a) with
  | true => simp [added, first, apply_adding ends]
  | false =>
    simp only [added, first, List.all_cons, List.all_nil, Bool.false_and, Bool.false_eq_true,
      if_false]
    rfl

theorem handle_fuses (whole : quantity.Whole state) (a b : Int) : ∃ middle last,
    (quantity.adding a).handle state = pure middle ∧
      (quantity.adding b).handle middle = pure last ∧
        (quantity.adding (a + b)).handle state = pure last := by
  cases quantity with
  | binding name =>
    obtain ⟨middle, last, begins, ends, atOnce⟩ := Table.addNumber_fuses whole a b
    exact ⟨_, _, handle_addVariable begins, handle_addVariable ends, handle_addVariable atOnce⟩
  | relationship id =>
    obtain ⟨middle, last, begins, ends, atOnce⟩ :=
      GameState.updateCharacter_fuses fun character found =>
        (whole character found).elim fun held whole => relationship_fuses whole a b
    exact ⟨middle, last, lift_ok begins, lift_ok ends, lift_ok atOnce⟩
  | statistic id stat =>
    obtain ⟨middle, last, begins, ends, atOnce⟩ :=
      GameState.updateCharacter_fuses fun character found =>
        statistic_fuses (whole character found) a b
    exact ⟨middle, last, lift_ok begins, lift_ok ends, lift_ok atOnce⟩
  | time =>
    obtain ⟨day, hour, shown⟩ := whole
    obtain ⟨middle, last, begins, ends, atOnce⟩ := Clock.advance_fuses day hour a b
    rw [← shown] at begins atOnce
    exact ⟨_, _, handle_advanceTime begins, handle_advanceTime ends, handle_advanceTime atOnce⟩

theorem adding_fuses (whole : quantity.Whole state) (a b : Int) : ∃ last,
    Effect.applyAll state [quantity.adding a, quantity.adding b] = added [a, b] last ∧
      (quantity.adding (a + b)).apply state = added [a + b] last := by
  obtain ⟨middle, last, begins, ends, atOnce⟩ := handle_fuses whole a b
  exact ⟨last, applyAll_adding begins ends, apply_adding atOnce⟩

end Quantity

/-- Whatever an effect adds integers to, adding one and then another leaves the state that adding
their sum leaves. Where an amount has more digits than can be written, the effect that adds it
fails instead, as it does wherever it is applied. On clocks of whole hours the integers act by
addition: the hours counted grow by what is added, of either sign, the hour stays within the day,
and on clocks that show an hour of the day zero changes nothing. -/
theorem additions_fuse (a b : Int) :
    (∀ (quantity : Quantity) (state : GameState), quantity.Whole state → ∃ last,
      Effect.applyAll state [quantity.adding a, quantity.adding b] =
          Quantity.added [a, b] last ∧
        (quantity.adding (a + b)).apply state = Quantity.added [a + b] last) ∧
    ∀ day hour : Int,
      Fuses (Clock.advance · (.int a)) (Clock.advance · (.int b)) (Clock.advance · (.int (a + b)))
        (.whole day hour) ∧
      (∃ next, (Clock.whole day hour).advance (.int a) = .ok next ∧
        next.Counts (24 * day + hour + a)) ∧
      ((Clock.whole day hour).advance (.int 0) = .ok (.whole day hour) ↔ 0 ≤ hour ∧ hour < 24) :=
  ⟨fun _ _ whole => Quantity.adding_fuses whole a b, fun day hour =>
    ⟨Clock.advance_fuses day hour a b, Clock.counts_advance day hour a,
      Clock.advance_zero_iff day hour⟩⟩

def titled : GameState :=
  { GameState.empty "hall" (.bool true) "en" with bindings := ⟨[("rank", "squire")]⟩ }

theorem additions_fuse_titled : (Quantity.binding "rank").Whole titled ∧ (∃ last,
    Effect.applyAll titled [.addVariable "rank" (.int 2), .addVariable "rank" (.int (-5))] =
        pure last ∧
      (Effect.addVariable "rank" (.int (-3))).apply titled = pure last) ∧
    ∃ next, (Clock.whole 1 23).advance (.int 2) = .ok next ∧ next.Counts 49 := by
  have whole : (Quantity.binding "rank").Whole titled := fun x found => by
    have holds : titled.bindings.find? "rank" = some (.text "squire") := rfl
    cases holds.symm.trans found
  have written : [2, -5].all (fun n => Number.isWritable (.int n)) ∧
      [2 + -5].all (fun n => Number.isWritable (.int n)) := by decide +kernel
  obtain ⟨fuses, clocks⟩ := additions_fuse 2 (-5)
  obtain ⟨last, oneByOne, atOnce⟩ := fuses _ _ whole
  rw [Quantity.added, if_pos written.1] at oneByOne
  rw [Quantity.added, if_pos written.2] at atOnce
  exact ⟨whole, ⟨last, oneByOne, atOnce⟩, (clocks 1 23).2.1⟩

end Fabula
