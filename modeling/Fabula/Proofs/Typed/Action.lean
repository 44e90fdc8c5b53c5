import Fabula.Proofs.Typed.Walk
/-!
# Actions in typed sessions

Starting conditions are typed if they give a location, a time and items; actions are typed if what
they name is a text. Loading is left out, because saves are not checked. Every typed action is sound
in a typed session, whatever the content refers to. Main statements:

* `initial_typed`: typed starting conditions give a typed state;
* `act_sound`: typed actions are sound.
-/

namespace Fabula
variable {game : Game}

structure Setup.Typed (setup : Setup) : Prop where
  location : setup.location.IsText
  time : setup.time.Typed
  inventory : ∀ item ∈ setup.inventory, item.IsText

def Action.Typed : Action → Prop
  | .newGame setup => setup.Typed
  | .talkTo id | .takeItem id | .travelTo id | .setLocale id => id.IsText
  | .load _ | .loadRecord _ => False
  | _ => True

structure Game.Typed (game : Game) : Prop where
  registry : game.registry.Typed
  locale : game.settings.locale.IsText

theorem empty_typed {location mapEnabled locale : Value} (isText : location.IsText)
    (isLocale : locale.IsText) : (GameState.empty location mapEnabled locale).Typed where
  location := isText
  time := ⟨⟨_, rfl⟩, ⟨_, rfl⟩⟩
  inventory _ member := by cases member
  journal _ member := by cases member
  dialogue _ same := by cases same
  characters _ member := by cases member
  notifications _ member := by cases member
  interlude := .inl rfl
  locale := isLocale

theorem initial_typed (typed : game.Typed) {setup : Setup} (starts : setup.Typed) :
    (GameState.initial game setup).Typed := by
  have blank : (GameState.empty setup.location game.settings.mapEnabled
      game.settings.locale).Typed := empty_typed starts.location typed.locale
  refine { blank with time := starts.time, inventory := starts.inventory, characters := ?_ }
  intro character member
  obtain ⟨entry, stored, rfl⟩ := List.mem_map.mp member
  obtain ⟨authored, _, rfl⟩ := List.mem_map.mp stored
  exact ⟨_, rfl⟩

theorem new_typed (typed : game.Typed) {roller : Roller} (numeric : roller.Numeric)
    (notes : Nat) : (Session.new game roller notes).Typed where
  state := empty_typed ⟨_, rfl⟩ typed.locale
  roller := numeric
  sequence := ⟨_, rfl⟩

theorem findRoute_listed {origin destination : Value} {travelMap : TravelMap} {start stop : Marker}
    (found : Play.findRoute game origin destination = some (travelMap, start, stop)) :
    travelMap ∈ game.registry.maps.values ∧ start ∈ travelMap.markers ∧
      stop ∈ travelMap.markers := by
  obtain ⟨listed, member, ends⟩ := List.exists_of_findSome?_eq_some found
  obtain ⟨first, starts, ends⟩ := Option.bind_eq_some_iff.mp ends
  obtain ⟨last, stops, ends⟩ := Option.bind_eq_some_iff.mp ends
  cases ends
  exact ⟨member, List.mem_of_find?_eq_some starts, List.mem_of_find?_eq_some stops⟩

theorem travelHours_outOfRange {travelMap : TravelMap} (known : travelMap.Typed)
    {origin destination : Marker} (isOrigin : origin.Typed) (isDestination : destination.Typed) :
    FailsOnly Failure.OutOfRange (Play.travelHours travelMap origin destination) := by
  have scaled (distance : Float) : FailsOnly Failure.OutOfRange
      ((Value.float distance).operands travelMap.scale) :=
    Value.IsNumber.operands ⟨_, rfl⟩ known.scale
  simp [Play.travelHours, isDestination.x.difference_outOfRange isOrigin.x,
    isDestination.y.difference_outOfRange isOrigin.y, (Number.toFloat_ranged _).outOfRange, scaled,
    Number.mul, Number.add, (Number.combine_ranged _ _ _ _).outOfRange,
    (Number.floor_ranged _).outOfRange]

namespace Play

theorem requireTime_sound : Secure requireTime :=
  .bind state_sound fun state _ => .bind (ask_sound state.time.text_outOfRange) fun _ _ =>
    .pure trivial

theorem save_sound : Secure (save game) :=
  .bind (logAction_sound _ _) fun _ _ => .bind requireTime_sound fun _ _ =>
    .bind state_sound fun _ _ => .pure trivial

section
variable (typed : game.registry.Typed)
include typed

theorem currentNode_sound :
    Safe (fun found => ∀ place, found = some place → place.1.Typed ∧ place.2.Typed)
      (currentNode game) :=
  .bind state_sound fun _ isState =>
    lift_sound (View.currentNode_failsOnly_of_text isState) (View.currentNode_typed typed _)

theorem take_sound {dialogue : Dialogue} (known : dialogue.Typed) (choice : Choice) (id : Value) :
    Secure (take game dialogue choice id) := by
  have follows := follow_sound typed
  apply Sound.bind (perform_sound _ _)
  intro _ _
  apply Sound.bind follows
  intro led _
  split
  · exact .pure trivial
  · generalize (if choice.next.isPresent then dialogue.findNode? choice.next else none) = target
    cases target with
    | some node => exact arrive_sound follows known node
    | none => exact endDialogue_sound

theorem selectChoice_sound (id : Value) : Secure (selectChoice game id) := by
  have ends := finish_sound typed "select_choice"
  apply Sound.bind (logAction_sound _ _)
  intro _ _
  apply Sound.bind (currentNode_sound typed)
  intro found known
  cases found with
  | none => exact ends
  | some place =>
    dsimp only
    split
    · exact .bind (take_sound typed (known place rfl).1 _ id) fun _ _ => ends
    · exact ends

theorem talkTo_sound {id : Value} (isText : id.IsText) : Secure (talkTo game id) := by
  have ends := finish_sound typed "talk_to"
  apply Sound.bind (logAction_sound _ _)
  intro _ _
  have known : Returns (fun found => ∀ character, found = some character → character.Typed)
      (game.registry.characters.lookup id) := by
    rintro _ looked character rfl
    exact typed.characters character (Table.mem_of_lookup looked)
  apply Sound.bind (lift_sound (isText.lookup_failsOnly _) known)
  intro found isCharacter
  cases found with
  | none => exact ends
  | some character =>
    dsimp only
    split
    · next present =>
      have named := (isCharacter character rfl).dialogue.text present
      exact .bind (enter_sound typed (follow_sound typed) named) fun _ _ => ends
    · exact ends

theorem continueDialogue_sound : Secure (continueDialogue game) := by
  have ends := finish_sound typed "continue_dialogue"
  apply Sound.bind (logAction_sound _ _)
  intro _ _
  apply Sound.bind (currentNode_sound typed)
  intro found known
  cases found with
  | none => exact ends
  | some place =>
    dsimp only
    split
    · exact .bind (hop_sound (known place rfl).1 place.2) fun _ _ => ends
    · exact ends

theorem takeItem_sound {item : Value} (isText : item.IsText) : Secure (takeItem game item) := by
  have ends := finish_sound typed "take_item"
  apply Sound.bind (logAction_sound _ _)
  intro _ _
  apply Sound.bind state_sound
  intro state isState
  apply Sound.bind (ask_sound (isText.lookup_failsOnly _))
  intro found _
  dsimp only
  split
  · have carries := lift_sound (carryItem_failsOnly_of_text isText) (carryItem_typed isState isText)
    exact .bind carries fun _ carried => .bind (setState_sound carried) fun _ _ => ends
  · exact ends

theorem travelAlong_sound {travelMap : TravelMap} (known : travelMap.Typed)
    {origin destination : Marker} (isOrigin : origin.Typed) (isDestination : destination.Typed)
    {location : Value} (isText : location.IsText) :
    Secure (travelAlong game travelMap origin destination location) := by
  apply Sound.bind (ask_sound (travelHours_outOfRange known isOrigin isDestination))
  intro hours _
  apply Sound.bind state_sound
  intro state isState
  have moved : GameState.Typed { state with location, cursor := none } :=
    { isState with location := isText, dialogue := fun cursor same => by cases same }
  apply Sound.bind (setState_sound moved)
  intro _ _
  exact .bind (advanceClock_sound hours _) fun _ _ => fireTriggers_sound typed

theorem travelTo_sound {location : Value} (isText : location.IsText) :
    Secure (travelTo game location) := by
  have ends := finish_sound typed "travel"
  apply Sound.bind (logAction_sound _ _)
  intro _ _
  apply Sound.bind state_sound
  intro state isState
  dsimp only
  split
  · cases route : findRoute game state.location location with
    | none => exact ends
    | some places =>
      obtain ⟨travelMap, origin, destination⟩ := places
      obtain ⟨listed, isOrigin, isDestination⟩ := findRoute_listed route
      have known := typed.maps travelMap listed
      refine .bind (travelAlong_sound typed known ?_ ?_ isText) fun _ _ => ends
      · exact known.markers origin isOrigin
      · exact known.markers destination isDestination
  · exact ends

theorem writeNote_sound (title text : Value) : Secure (writeNote game title text) := by
  apply Sound.bind (Sound.modify fun _ session => { session with })
  intro _ _
  apply Sound.bind Sound.get
  intro _ _
  apply Sound.bind (logAction_sound _ _)
  intro _ _
  apply Sound.bind state_sound
  intro state isState
  exact .bind (setState_sound { isState with }) fun _ _ => finish_sound typed _

theorem deleteNote_sound (id : Value) : Secure (deleteNote game id) :=
  .bind (logAction_sound _ _) fun _ _ => .bind state_sound fun _ isState =>
    .bind (setState_sound { isState with }) fun _ _ => finish_sound typed _

theorem setLocale_sound {locale : Value} (isText : locale.IsText) :
    Secure (setLocale game locale) :=
  .bind (logAction_sound _ _) fun _ _ => .bind (ask_sound (isText.lookup_failsOnly _)) fun _ _ =>
    .bind state_sound fun _ isState =>
      .bind (setState_sound { isState with locale := isText }) fun _ _ => finish_sound typed _

theorem debug_sound (effects : List Effect) (label : Value) : Secure (debug game effects label) :=
  .bind (logAction_sound _ _) fun _ _ =>
    .bind (alter_sound _ fun _ isState => applyAll_sound isState effects) fun _ _ =>
      finish_sound typed _

end

theorem newGame_sound (typed : game.Typed) {setup : Setup} (starts : setup.Typed) :
    Secure (newGame game setup) :=
  .bind (logAction_sound _ _) fun _ _ =>
    .bind (setState_sound (initial_typed typed starts)) fun _ _ =>
      .bind requireTime_sound fun _ _ => .bind (fireTriggers_sound typed.registry) fun _ _ =>
        finish_sound typed.registry _

theorem act_sound (typed : game.Typed) {action : Action} (isTyped : action.Typed) :
    Secure (act game action) := by
  have shown {answer : Play View} (sound : Secure answer) :
      Secure (answer >>= fun view => pure (Reply.view view)) :=
    .bind sound fun _ _ => .pure trivial
  have content := typed.registry
  cases action with
  | newGame setup => exact shown (newGame_sound typed isTyped)
  | load save => cases isTyped
  | loadRecord data => cases isTyped
  | save => exact .bind save_sound fun _ _ => .pure trivial
  | selectChoice id => exact shown (selectChoice_sound content id)
  | talkTo character => exact shown (talkTo_sound content isTyped)
  | continueDialogue => exact shown (continueDialogue_sound content)
  | takeItem item => exact shown (takeItem_sound content isTyped)
  | travelTo location => exact shown (travelTo_sound content isTyped)
  | writeNote title text => exact shown (writeNote_sound content title text)
  | deleteNote id => exact shown (deleteNote_sound content id)
  | setLocale locale => exact shown (setLocale_sound content isTyped)
  | look => exact shown (finish_sound content _)
  | debug effects label => exact shown (debug_sound content effects label)

end Play
end Fabula
