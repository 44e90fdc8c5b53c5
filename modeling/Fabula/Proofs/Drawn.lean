import Fabula.Proofs.Dice.Rolling
/-!
# Computations that roll

Conditions, effects and views use the roller in one way only: they ask it for numbers. `Drawn` is
the closure of single draws and of results that fail for reasons of values. What holds of every
such computation is proved by induction on it; here all of them are shown to be of this form.
-/

namespace Fabula
variable {α β : Type}

/-- Computations that roll and fail for reasons of values, and do nothing else. -/
inductive Drawn : {α : Type} → Rolling α → Prop
  | lift {α : Type} {result : Except Failure α} (fails : FailsOnly Failure.OfValue result) :
      Drawn (liftM result)
  | bind {α β : Type} {first : Rolling α} {next : α → Rolling β} (drawn : Drawn first)
      (rest : ∀ a, Drawn (next a)) : Drawn (first >>= next)
  | roll (a b : Int) (reason : Value) : Drawn (Rolling.roll a b reason)

namespace Drawn

theorem pure (a : α) : Drawn (pure a) :=
  .lift (failsOnly_ok a)

theorem throw (failure : Failure) (ofValue : failure.OfValue) :
    Drawn (throw failure : Rolling α) :=
  show Drawn (liftM (Except.error failure : Except Failure α)) from
    .lift ((failsOnly_error failure).2 ofValue)

theorem map {first : Rolling α} (drawn : Drawn first) (f : α → β) :
    Drawn (first >>= fun a => Pure.pure (f a)) :=
  .bind drawn fun a => .pure (f a)

theorem lift_bind {result : Except Failure α} {next : α → Rolling β}
    (fails : FailsOnly Failure.OfValue result) (rest : ∀ a, result = .ok a → Drawn (next a)) :
    Drawn (liftM result >>= next) := by
  cases result with
  | error failure => exact .throw failure (fails failure rfl)
  | ok a => exact rest a rfl

theorem lift_map {result : Except Failure α} (f : α → β)
    (fails : FailsOnly Failure.OfValue result) :
    Drawn (liftM result >>= fun a => Pure.pure (f a)) :=
  .lift_bind fails fun a _ => .pure (f a)

end Drawn

structure Rolled (computation : Rolling α) (roller : Roller) (draws : List Draw) : Prop where
  made : (outcome computation roller).2.draws = roller.draws ++ draws
  refusal : (outcome computation roller).2.refusal = roller.refusal
  announced : (∀ draw ∈ draws, roller.announce draw = .ok ()) ∨
    ∃ draw ∈ draws, ∃ failure, roller.announce draw = .error failure ∧
      (outcome computation roller).1 = .error failure
  replayed : ∀ (other : Roller) (past future : List Value), other.refusal = roller.refusal →
    other.recording = some (.replayed past (draws.map (·.total) ++ future)) →
    (outcome computation other).1 = (outcome computation roller).1 ∧
      (outcome computation other).2.draws = other.draws ++ draws ∧
      (outcome computation other).2.refusal = other.refusal ∧
      (outcome computation other).2.recording =
        some (.replayed (past ++ draws.map (·.total)) future)

namespace Rolled
variable {roller : Roller} {draws later : List Draw}

theorem lift (result : Except Failure α) (roller : Roller) :
    Rolled (liftM result : Rolling α) roller [] where
  made := by simp [outcome_lift]
  refusal := by rw [outcome_lift]
  announced := .inl fun draw drawn => by cases drawn
  replayed other past future _ recorded := by simpa [outcome_lift] using recorded

theorem roll (a b : Int) (reason : Value) (roller : Roller) :
    Rolled (Rolling.roll a b reason) roller [roller.nextDraw a b reason] where
  made := by rw [outcome_roll]; exact roller.roll_draws a b reason
  refusal := by rw [outcome_roll]; exact roller.roll_refusal a b reason
  announced := by
    rw [outcome_roll]
    cases announced : roller.announce (roller.nextDraw a b reason) with
    | ok answer => exact .inl (by simpa using announced)
    | error failure => exact .inr ⟨_, by simp, failure, announced, rfl⟩
  replayed other past future same recorded := by
    obtain ⟨total, replayed⟩ := Roller.roll_replayed a b reason recorded
    have sameDraw : other.nextDraw a b reason = roller.nextDraw a b reason := by
      rw [Roller.nextDraw, total]
      rfl
    rw [outcome_roll, outcome_roll, sameDraw, Roller.announce_eq same]
    exact ⟨rfl, by rw [Roller.roll_draws, sameDraw], other.roll_refusal a b reason, replayed⟩

theorem bind_error {first : Rolling α} {next : α → Rolling β} {failure : Failure}
    (rolled : Rolled first roller draws)
    (answer : (outcome first roller).1 = .error failure) :
    Rolled (first >>= next) roller draws where
  made := by rw [outcome_bind_of_error answer]; exact rolled.made
  refusal := by rw [outcome_bind_of_error answer]; exact rolled.refusal
  announced := by
    rw [outcome_bind_of_error answer]
    simpa [answer] using rolled.announced
  replayed other past future same recorded := by
    obtain ⟨again, replays⟩ := rolled.replayed other past future same recorded
    rw [outcome_bind_of_error answer, outcome_bind_of_error (again.trans answer)]
    exact ⟨rfl, replays⟩

theorem bind_ok {first : Rolling α} {next : α → Rolling β} {a : α}
    (rolled : Rolled first roller draws) (answer : (outcome first roller).1 = .ok a)
    (rest : Rolled (next a) (outcome first roller).2 later) :
    Rolled (first >>= next) roller (draws ++ later) where
  made := by
    rw [outcome_bind_of_ok answer, rest.made, rolled.made, List.append_assoc]
  refusal := by
    rw [outcome_bind_of_ok answer, rest.refusal, rolled.refusal]
  announced := by
    have early : ∀ draw ∈ draws, roller.announce draw = .ok () := by
      simpa [answer] using rolled.announced
    -- The first part has not changed what is refused, so all draws are announced alike.
    have announces (draw : Draw) :
        (outcome first roller).2.announce draw = roller.announce draw :=
      Roller.announce_eq rolled.refusal draw
    rw [outcome_bind_of_ok answer]
    rcases rest.announced with late | ⟨draw, drawn, failure, fails, failed⟩
    · refine .inl fun draw drawn => ?_
      rcases List.mem_append.mp drawn with drawn | drawn
      · exact early draw drawn
      · exact (announces _).symm.trans (late draw drawn)
    · exact .inr ⟨draw, List.mem_append_right _ drawn, failure, announces _ ▸ fails, failed⟩
  replayed other past future same recorded := by
    rw [List.map_append, List.append_assoc] at recorded
    obtain ⟨again, drawn, kept, recorded⟩ := rolled.replayed other past _ same recorded
    obtain ⟨lateAgain, lateDrawn, lateKept, replayed⟩ :=
      rest.replayed _ _ future (kept.trans (same.trans rolled.refusal.symm)) recorded
    rw [outcome_bind_of_ok answer, outcome_bind_of_ok (again.trans answer)]
    refine ⟨lateAgain, ?_, lateKept.trans kept, ?_⟩
    · rw [lateDrawn, drawn, List.append_assoc]
    · rw [replayed, List.map_append, List.append_assoc]

end Rolled

theorem announce_failsOnly {roller : Roller}
    (refuses : ∀ failure, roller.refusal = some failure → failure.OfValue) (draw : Draw) :
    FailsOnly Failure.OfValue (roller.announce draw) := by
  unfold Roller.announce
  have unwritable : (Failure.unsuitable .unwritable).OfValue := trivial
  cases refusal : roller.refusal with
  | none => simp [unwritable]
  | some failure => simp [refuses failure refusal, unwritable]

namespace Drawn

theorem rolled {computation : Rolling α} (drawn : Drawn computation) :
    ∀ roller, ∃ draws, Rolled computation roller draws := by
  induction drawn with
  | lift _ => exact fun roller => ⟨[], .lift _ roller⟩
  | roll a b reason => exact fun roller => ⟨_, .roll a b reason roller⟩
  | bind _ _ ih ihRest =>
    rename_i first next _ _
    intro roller
    obtain ⟨draws, early⟩ := ih roller
    cases answer : (outcome first roller).1 with
    | error failure => exact ⟨draws, early.bind_error answer⟩
    | ok a =>
      obtain ⟨later, late⟩ := ihRest a (outcome first roller).2
      exact ⟨draws ++ later, early.bind_ok answer late⟩

theorem failsOfValue {computation : Rolling α} (drawn : Drawn computation) :
    ∀ roller, (∀ failure, roller.refusal = some failure → failure.OfValue) →
      FailsOnly Failure.OfValue (outcome computation roller).1 := by
  induction drawn with
  | lift fails =>
    intro roller _
    rwa [outcome_lift]
  | roll a b reason =>
    intro roller refuses
    rw [outcome_roll]
    simp [announce_failsOnly refuses]
  | bind drawn _ ih ihRest =>
    rename_i _ _ first next _
    intro roller refuses
    have early := ih roller refuses
    cases answer : (outcome first roller).1 with
    | error failure =>
      rw [outcome_bind_of_error answer]
      exact (failsOnly_error failure).2 (early failure answer)
    | ok a =>
      obtain ⟨draws, rolled⟩ := drawn.rolled roller
      rw [outcome_bind_of_ok answer]
      exact ihRest a _ (by rwa [rolled.refusal])

end Drawn

theorem checkRelationship_failsOnly (state : GameState) (character : String)
    (check : Number → Bool) :
    FailsOnly Failure.OfValue (Condition.checkRelationship state character check) := by
  unfold Condition.checkRelationship
  split
  · simp
  · split <;> simp [Failure.OfValue]

theorem Condition.requireText_failsOnly (condition : Condition) :
    FailsOnly Failure.OfValue condition.requireText := by
  unfold requireText
  split <;> simp [Failure.OfValue]

theorem drawn_answer (state : GameState) (condition : Condition) :
    Drawn (condition.answer state) := by
  cases condition with
  | relationshipAbove character value =>
    exact .lift_map _ (checkRelationship_failsOnly _ _ _)
  | relationshipBelow character value =>
    exact .lift_map _ (checkRelationship_failsOnly _ _ _)
  | timeIs start stop =>
    simp only [Condition.answer]
    split
    · exact .pure _
    · exact .throw .wrongKind trivial
  | roll minimum maximum threshold =>
    exact .bind (.lift (writable_failsOnly _)) fun _ => .bind (.roll ..) fun total =>
      .lift_map _ (operands_failsOnly _ _)
  | _ => exact .pure _

theorem drawn_passes (state : GameState) (condition : Condition) :
    Drawn (condition.passes state) :=
  .map (drawn_answer state condition) Value.isPresent

theorem drawn_allPass (state : GameState) (conditions : List Condition) :
    Drawn (Condition.allPass state conditions) := by
  induction conditions with
  | nil => exact .pure true
  | cons condition rest ih =>
    refine .bind (drawn_passes state condition) fun passes => ?_
    cases passes with
    | true => exact ih
    | false => exact .bind (.lift condition.requireText_failsOnly) fun _ => .pure false

theorem Effect.requireText_failsOnly (effect : Effect) :
    FailsOnly Failure.OfValue effect.requireText := by
  unfold requireText
  split <;> simp [Failure.OfValue]

theorem drawn_handle (state : GameState) (effect : Effect) : Drawn (effect.handle state) := by
  cases effect with
  | addVariable name value => exact .lift_map _ (addNumber_failsOnly _ _ _)
  | addItem item => exact .lift (addItem_failsOnly _ _)
  | advanceTime hours => exact .lift_map _ (advance_failsOnly _ _)
  | addJournalEntry entry =>
    simp only [Effect.handle]
    split <;> exact .pure _
  | setCharacterLocation character location => exact .lift (by simp)
  | addToParty character => exact .lift (by simp)
  | removeFromParty character => exact .lift (by simp)
  | setRelationship character value => exact .lift (by simp)
  | addRelationship character value => exact .lift (by simp)
  | setCharacterStat character stat value => exact .lift (by simp)
  | addCharacterStat character stat value => exact .lift (by simp)
  | roll name minimum maximum => exact .map (.roll ..) _
  | _ => exact .pure _

theorem drawn_apply (state : GameState) (effect : Effect) : Drawn (effect.apply state) :=
  .bind (.lift effect.requireText_failsOnly) fun _ => drawn_handle state effect

theorem drawn_applyAll (state : GameState) (effects : List Effect) :
    Drawn (Effect.applyAll state effects) := by
  induction effects generalizing state with
  | nil => exact .pure state
  | cons effect rest ih => exact .bind (drawn_apply state effect) ih

namespace Localization

@[simp] theorem pieceFill_failsOnly (bindings : Table Value) (piece : Piece) :
    FailsOnly Failure.OfValue (piece.fill bindings) := by
  cases piece with
  | char c => simp [Piece.fill]
  | placeholder name =>
    simp only [Piece.fill]
    split <;> simp

@[simp] theorem fill_failsOnly (bindings : Table Value) (value : Value) :
    FailsOnly Failure.OfValue (fill bindings value) := by
  unfold fill
  split
  · simp
  · split <;> simp [interpolate, failsOnly_mapM, Failure.OfValue]

@[simp] theorem resolve_failsOnly (locale bindings : Table Value) (authored : Value) :
    FailsOnly Failure.OfValue (resolve locale bindings authored) := by
  unfold resolve
  split <;> simp [Failure.OfValue]

end Localization

namespace View
variable {registry : Registry} {settings : Settings} {state : GameState} {resolve : Resolver}

def Resolver.Fails (resolve : Resolver) : Prop :=
  ∀ authored, FailsOnly Failure.OfValue (resolve authored)

theorem resolver_failsOnly : FailsOnly Failure.OfValue (resolver registry state) := by
  simp [resolver]

theorem resolver_fails (found : resolver registry state = .ok resolve) : resolve.Fails := by
  intro authored
  unfold resolver at found
  cases locale : registry.locales.lookup state.locale with
  | error failure => simp [locale, bind, Except.bind] at found
  | ok table =>
    simp only [locale, bind, Except.bind, pure, Except.pure, Except.ok.injEq] at found
    rw [← found]
    exact Localization.resolve_failsOnly _ _ authored

section
variable (fails : resolve.Fails)
include fails

theorem speakerName_failsOnly (node : Node) (speaker : Option Character) :
    FailsOnly Failure.OfValue (speakerName settings resolve node speaker) := by
  unfold speakerName
  split
  · simp
  · exact fails _
  · exact fails _

theorem ofNode_failsOnly (node : Node) :
    FailsOnly Failure.OfValue (ofNode registry settings resolve node) := by
  simp [ofNode, speaker?, fails _, speakerName_failsOnly fails]

theorem ofLocation_failsOnly (id : Value) :
    FailsOnly Failure.OfValue (ofLocation registry resolve id) := by
  simp only [ofLocation, failsOnly_bind, lookup_failsOnly, true_and]
  intro found _
  cases found <;> simp [fails _]

theorem ofCharacters_failsOnly (check : CharacterState → Bool) :
    FailsOnly Failure.OfValue (ofCharacters registry resolve state check) :=
  failsOnly_mapM (fun _ => by simp [ofCharacter, fails _]) _

theorem ofItem_failsOnly (item : Item) : FailsOnly Failure.OfValue (ofItem resolve item) := by
  simp [ofItem, fails _]

theorem ofItemsHere_failsOnly :
    FailsOnly Failure.OfValue (ofItemsHere registry resolve state) :=
  failsOnly_mapM (ofItem_failsOnly fails) _

theorem ofJournalEntry_failsOnly (entry : JournalEntry) :
    FailsOnly Failure.OfValue (ofJournalEntry resolve entry) := by
  simp [ofJournalEntry, fails _]

theorem ofQuests_failsOnly : FailsOnly Failure.OfValue (ofQuests registry resolve state) :=
  failsOnly_mapM (fun _ => by simp [fails _]) _

theorem ofMarker_failsOnly (current : Value) (marker : Marker) :
    FailsOnly Failure.OfValue (ofMarker registry resolve current marker) := by
  simp only [ofMarker, failsOnly_bind, lookup_failsOnly, true_and]
  intro found _
  cases found <;> simp [fails _]

theorem ofMap_failsOnly : FailsOnly Failure.OfValue (ofMap registry resolve state) := by
  unfold ofMap
  cases registry.maps.values with
  | nil => simp
  | cons travelMap rest => simp [fails _, failsOnly_mapM (ofMarker_failsOnly fails _)]

theorem ofInterlude_failsOnly (pending : Value) :
    FailsOnly Failure.OfValue (ofInterlude registry settings resolve pending) := by
  simp only [ofInterlude, failsOnly_bind, failsOnly_ite, failsOnly_pure, lookup_failsOnly, true_and]
  refine ⟨fun _ => trivial, fun _ found _ => ?_⟩
  cases found <;> simp [fails _]

end

theorem ofKnown_failsOnly {table : Table α} {view : α → Except Failure β}
    (each : ∀ known, FailsOnly Failure.OfValue (view known)) (ids : List Value) :
    FailsOnly Failure.OfValue (ofKnown table view ids) := by
  induction ids with
  | nil => simp [ofKnown]
  | cons id rest ih =>
    simp only [ofKnown, failsOnly_bind, lookup_failsOnly, true_and]
    intro found _
    cases found <;> simp [each, ih]

theorem ofWorld_failsOnly (fails : resolve.Fails) (dialogue : Option DialogueView)
    (choices : List ChoiceView) :
    FailsOnly Failure.OfValue (ofWorld registry settings state resolve dialogue choices) := by
  simp [ofWorld, ofLocation_failsOnly fails, ofCharacters_failsOnly fails,
    ofItemsHere_failsOnly fails, ofKnown_failsOnly (ofItem_failsOnly fails),
    ofKnown_failsOnly (ofJournalEntry_failsOnly fails), ofQuests_failsOnly fails,
    ofMap_failsOnly fails, ofInterlude_failsOnly fails, failsOnly_mapM fails]

theorem drawn_ofChoices (fails : resolve.Fails) (choices : List Choice) :
    Drawn (ofChoices state resolve choices) := by
  induction choices with
  | nil => exact .pure []
  | cons choice rest ih =>
    refine .bind (drawn_allPass state choice.conditions) fun passes => ?_
    cases passes with
    | true => exact .lift_bind (fails _) fun text _ => .map ih _
    | false => exact ih

theorem drawn_ofDialogue (fails : resolve.Fails) :
    Drawn (ofDialogue registry settings state resolve) := by
  refine .lift_bind (currentNode_failsOnly _ _) fun found _ => ?_
  cases found with
  | none => exact .pure _
  | some place =>
    exact .lift_bind (ofNode_failsOnly fails _) fun line _ => .map (drawn_ofChoices fails _) _

theorem drawn_build : Drawn (build registry settings state) :=
  .lift_bind resolver_failsOnly fun _ found =>
    .bind (drawn_ofDialogue (resolver_fails found)) fun _ =>
      .lift (ofWorld_failsOnly (resolver_fails found) _ _)

end View
end Fabula
