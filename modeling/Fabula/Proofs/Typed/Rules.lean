import Fabula.Proofs.Dice.Rolling
import Fabula.Proofs.Typed.Value
/-!
# Conditions and effects in typed states

A state is typed if every value in it is of the kind that the rules and the view ask for. Conditions
and effects are sound in typed states: nothing but a number out of range makes them fail, and
effects keep a state typed. Main statements:

* `answer_sound`, `allPass_sound`: what conditions ask for;
* `apply_sound`, `applyAll_sound`: what effects make of a typed state.
-/

namespace Fabula
variable {α : Type} {P : Failure → Prop}

structure GameState.Typed (state : GameState) : Prop where
  location : state.location.IsText
  time : state.time.Typed
  inventory : ∀ item ∈ state.inventory, item.IsText
  journal : ∀ entry ∈ state.journal, entry.IsText
  dialogue : ∀ cursor, state.cursor = some cursor → cursor.dialogue.IsText
  characters : ∀ character ∈ state.characters.values, character.relationship.IsNumber
  notifications : ∀ message ∈ state.notifications, message.IsText
  interlude : state.interlude.IsLabel
  locale : state.locale.IsText

def Roller.Numeric (roller : Roller) : Prop :=
  ∀ recording, roller.recording = some recording → ∀ total ∈ recording.stream, total.IsNumber

structure Roller.Typed (roller : Roller) : Prop where
  numeric : roller.Numeric
  refusal : ∀ failure, roller.refusal = some failure → failure.OutOfRange

namespace Rolling

abbrev Safe (R : α → Prop) (computation : Rolling α) : Prop :=
  Sound Roller.Typed Failure.OutOfRange R computation

end Rolling

theorem draw_typed {roller : Roller} (typed : roller.Typed) (low high : Int) :
    (roller.draw low high).1.IsNumber ∧ (roller.draw low high).2.Typed := by
  have live (roller : Roller) (typed : roller.Typed) :
      (Value.int (roller.drawLive low high).1).IsNumber ∧
        (roller.drawLive low high).2.Typed :=
    ⟨⟨_, rfl⟩, ⟨typed.numeric, typed.refusal⟩⟩
  unfold Roller.draw
  split
  · exact live roller typed
  · next recording kept =>
    have numbers := typed.numeric recording kept
    have replayed {other : Recording} (same : other.stream = recording.stream) :
        Roller.Typed { roller with recording := some other } := by
      refine ⟨fun found recorded => ?_, typed.refusal⟩
      cases recorded
      rwa [same]
    split
    · exact live roller typed
    · split
      · next total next => exact ⟨numbers total (List.mem_of_getElem? next), replayed rfl⟩
      · exact live _ (replayed rfl)

theorem announce_outOfRange {roller : Roller} (typed : roller.Typed) (draw : Draw) :
    FailsOnly Failure.OutOfRange (roller.announce draw) := by
  unfold Roller.announce
  have unwritable : (Failure.unsuitable .unwritable).OutOfRange := rfl
  cases refused : roller.refusal with
  | none => simp [unwritable]
  | some failure => simp [unwritable, typed.refusal failure refused]

theorem roll_sound (a b : Int) (reason : Value) :
    Rolling.Safe Value.IsNumber (Rolling.roll a b reason) where
  keeps roller typed := by
    have drawn := (draw_typed typed (min a b) (max a b)).2
    rw [outcome_roll]
    exact ⟨drawn.numeric, drawn.refusal⟩
  fails roller typed := by
    rw [outcome_roll]
    simp [announce_outOfRange typed]
  returns roller typed := by
    have drawn : (roller.nextDraw a b reason).total.IsNumber :=
      (draw_typed typed (min a b) (max a b)).1
    rw [outcome_roll]
    simp [drawn]

theorem checkRelationship_typed {state : GameState} (typed : state.Typed) (character : String)
    (check : Number → Bool) : FailsOnly P (Condition.checkRelationship state character check) := by
  unfold Condition.checkRelationship
  split
  · exact failsOnly_ok _
  · next found known =>
    obtain ⟨n, number⟩ := typed.characters found (Table.mem_of_find? known)
    simp [number, Value.arithmetic?]

theorem answer_sound {state : GameState} (typed : state.Typed) (condition : Condition) :
    Rolling.Safe (fun _ => True) (condition.answer state) := by
  have compared (character : String) (check : Number → Bool) :
      Rolling.Safe (fun _ => True) (do
        return Value.bool (← Condition.checkRelationship state character check)) :=
    .bind (.lift (checkRelationship_typed typed character check) fun _ _ => trivial)
      fun _ _ => .pure trivial
  cases condition with
  | relationshipAbove character value => exact compared _ _
  | relationshipBelow character value => exact compared _ _
  | timeIs start stop =>
    obtain ⟨hour, number⟩ := typed.time.hour
    simp only [Condition.answer, number, Value.arithmetic?]
    exact .pure trivial
  | roll minimum maximum threshold =>
    apply Sound.bind (Sound.lift (Value.writable_outOfRange _) fun _ _ => trivial)
    intro _ _
    apply Sound.bind (roll_sound ..)
    intro total number
    have operands := number.operands (P := Failure.OutOfRange) ⟨threshold, rfl⟩
    exact .bind (.lift operands fun _ _ => trivial) fun _ _ => .pure trivial
  | _ => exact .pure trivial

theorem passes_sound {state : GameState} (typed : state.Typed) (condition : Condition) :
    Rolling.Safe (fun _ => True) (condition.passes state) :=
  .bind (answer_sound typed condition) fun _ _ => .pure trivial

theorem Condition.requireText_outOfRange (condition : Condition) :
    FailsOnly Failure.OutOfRange condition.requireText := by
  unfold requireText
  split <;> simp [Failure.OutOfRange, Failure.excess?]

theorem allPass_sound {state : GameState} (typed : state.Typed) (conditions : List Condition) :
    Rolling.Safe (fun _ => True) (Condition.allPass state conditions) := by
  induction conditions with
  | nil => exact .pure trivial
  | cons condition rest ih =>
    apply Sound.bind (passes_sound typed condition)
    intro passes _
    cases passes with
    | true => exact ih
    | false =>
      exact .bind (.lift condition.requireText_outOfRange fun _ _ => trivial) fun _ _ =>
        .pure trivial

theorem Effect.requireText_outOfRange (effect : Effect) :
    FailsOnly Failure.OutOfRange effect.requireText := by
  unfold requireText
  split <;> simp [Failure.OutOfRange, Failure.excess?]

theorem updateCharacter_typed {state : GameState} (typed : state.Typed) {id : String}
    {change : CharacterState → Except Failure CharacterState}
    (changes : ∀ character, character.relationship.IsNumber →
      Returns (fun changed => changed.relationship.IsNumber) (change character)) :
    Returns GameState.Typed (state.updateCharacter id change) := by
  unfold GameState.updateCharacter
  split
  · exact (returns_ok state).mpr typed
  · next character known =>
    have number := typed.characters character (Table.mem_of_find? known)
    simp only [returns_bind, returns_pure]
    intro changed made
    refine { typed with characters := fun other member => ?_ }
    rcases Table.mem_values_insert member with rfl | member
    · exact changes character number other made
    · exact typed.characters other member

theorem updateCharacter_outOfRange {state : GameState} (typed : state.Typed) {id : String}
    {change : CharacterState → Except Failure CharacterState}
    (changes : ∀ character, character.relationship.IsNumber →
      FailsOnly Failure.OutOfRange (change character)) :
    FailsOnly Failure.OutOfRange (state.updateCharacter id change) := by
  unfold GameState.updateCharacter
  split
  · exact failsOnly_ok state
  · next character known =>
    have number := typed.characters character (Table.mem_of_find? known)
    simp [changes character number]

theorem carryItem_typed {state : GameState} (typed : state.Typed) {item : Value}
    (isText : item.IsText) : Returns GameState.Typed (state.carryItem item) := by
  have carried : ∀ other ∈ state.inventory ++ [item], other.IsText := by
    intro other member
    rcases List.mem_append.mp member with member | member
    · exact typed.inventory other member
    · rwa [List.mem_singleton.mp member]
  simp only [GameState.carryItem, returns_bind, returns_pure]
  intro key _
  refine { typed with inventory := ?_ }
  split
  · exact typed.inventory
  · exact carried

theorem carryItem_failsOnly_of_text {state : GameState} {item : Value} (isText : item.IsText) :
    FailsOnly P (state.carryItem item) := by
  simp [GameState.carryItem, isText.key_failsOnly]

theorem handle_sound {state : GameState} (typed : state.Typed) (effect : Effect) :
    Rolling.Safe GameState.Typed (effect.handle state) := by
  -- Effects on a character are sound if its relationship stays a number.
  have updated {id : String} {change : CharacterState → Except Failure CharacterState}
      (fails : ∀ character, character.relationship.IsNumber →
        FailsOnly Failure.OutOfRange (change character))
      (returns : ∀ character, character.relationship.IsNumber →
        Returns (fun changed => changed.relationship.IsNumber) (change character)) :
      Rolling.Safe GameState.Typed (liftM (state.updateCharacter id change)) :=
    .lift (updateCharacter_outOfRange typed fails) (updateCharacter_typed typed returns)
  cases effect with
  | addVariable name value =>
    apply Sound.bind (Sound.lift (addNumber_outOfRange _ _ _) fun _ _ => trivial)
    intro bindings _
    exact .pure { typed with }
  | addItem item =>
    simp only [Effect.handle, GameState.addItem]
    split
    · exact .lift (failsOnly_ok _) ((returns_ok _).mpr typed)
    · exact .lift (carryItem_failsOnly_of_text ⟨item, rfl⟩) (carryItem_typed typed ⟨item, rfl⟩)
  | removeItem item =>
    refine .pure { typed with inventory := fun other member => ?_ }
    exact typed.inventory other (List.mem_filter.mp member).1
  | moveItem item location =>
    refine .pure { typed with inventory := fun other member => ?_ }
    exact typed.inventory other (List.mem_filter.mp member).1
  | goToLocation location => exact .pure { typed with location := ⟨location, rfl⟩ }
  | advanceTime hours =>
    have advances := typed.time.advance_outOfRange hours
    apply Sound.bind (Sound.lift advances (Clock.advance_typed _ _))
    intro time advanced
    exact .pure { typed with time := advanced }
  | addJournalEntry entry =>
    simp only [Effect.handle]
    split
    · exact .pure typed
    · refine .pure { typed with journal := fun other member => ?_ }
      rcases List.mem_append.mp member with member | member
      · exact typed.journal other member
      · exact ⟨entry, List.mem_singleton.mp member⟩
  | startDialogue dialogue =>
    refine .pure { typed with dialogue := fun cursor started => ?_ }
    cases started
    exact ⟨dialogue, rfl⟩
  | endDialogue => exact .pure { typed with dialogue := fun cursor started => by cases started }
  | setCharacterLocation character location =>
    exact updated (by simp) (by simp)
  | addToParty character => exact updated (by simp) (by simp)
  | removeFromParty character => exact updated (by simp) (by simp)
  | setRelationship character value =>
    exact updated (by simp) (by simp [Value.IsNumber])
  | addRelationship character value =>
    refine updated (fun found number => ?_) (by simp [Value.IsNumber])
    simp [number.sum_outOfRange ⟨value, rfl⟩]
  | setCharacterStat character stat value => exact updated (by simp) (by simp)
  | addCharacterStat character stat value =>
    refine updated (by simp [addNumber_outOfRange]) fun found number => ?_
    simp [number]
  | notify message =>
    refine .pure { typed with notifications := fun other member => ?_ }
    rcases List.mem_append.mp member with member | member
    · exact typed.notifications other member
    · exact ⟨message, List.mem_singleton.mp member⟩
  | showInterlude interlude => exact .pure { typed with interlude := .inr ⟨interlude, rfl⟩ }
  | roll name minimum maximum =>
    exact .bind (roll_sound ..) fun _ _ => .pure { typed with }
  | _ => exact .pure { typed with }

theorem apply_sound {state : GameState} (typed : state.Typed) (effect : Effect) :
    Rolling.Safe GameState.Typed (effect.apply state) :=
  .bind (.lift effect.requireText_outOfRange fun _ _ => trivial) fun _ _ =>
    handle_sound typed effect

theorem applyAll_sound {state : GameState} (typed : state.Typed) (effects : List Effect) :
    Rolling.Safe GameState.Typed (Effect.applyAll state effects) := by
  induction effects generalizing state with
  | nil => exact .pure typed
  | cons effect rest ih => exact .bind (apply_sound typed effect) fun _ typed => ih typed

end Fabula
