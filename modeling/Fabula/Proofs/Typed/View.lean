import Fabula.Proofs.Typed.Rules
/-!
# Views of typed states

Content is typed if whatever is shown of it is a text, whatever is computed with is a number, and
whatever names a dialogue, an interlude or a speaker can be looked up. References need not lead
anywhere. A view of a typed state with typed content is built unless a number that it shows cannot
be written. Main statements:

* `View.resolve_outOfRange`: authored texts resolve;
* `View.build_sound`: views are built.
-/

namespace Fabula
variable {α β : Type}

structure Location.Typed (location : Location) : Prop where
  name : location.name.IsText
  description : location.description.IsText

structure Character.Typed (character : Character) : Prop where
  name : character.name.IsText
  biography : character.biography.IsText
  dialogue : character.dialogue.IsLabel

structure Item.Typed (item : Item) : Prop where
  name : item.name.IsText
  description : item.description.IsText

structure Marker.Typed (marker : Marker) : Prop where
  id : marker.id.IsText
  x : marker.x.IsNumber
  y : marker.y.IsNumber

structure TravelMap.Typed (travelMap : TravelMap) : Prop where
  name : travelMap.name.IsText
  scale : travelMap.scale.IsNumber
  markers : ∀ marker ∈ travelMap.markers, marker.Typed

structure Node.Typed (node : Node) : Prop where
  speaker : node.speaker.IsLabel
  text : node.text.IsText
  choices : ∀ choice ∈ node.choices, choice.text.IsText

structure Dialogue.Typed (dialogue : Dialogue) : Prop where
  id : dialogue.id.IsText
  nodes : ∀ node ∈ dialogue.nodes, node.Typed

structure Quest.Typed (quest : Quest) : Prop where
  name : quest.name.IsText
  description : quest.description.IsText
  stages : ∀ stage ∈ quest.stages, stage.description.IsText

structure JournalEntry.Typed (entry : JournalEntry) : Prop where
  title : entry.title.IsText
  text : entry.text.IsText

structure Interlude.Typed (interlude : Interlude) : Prop where
  id : interlude.id.IsText
  text : interlude.text.IsText

structure Registry.Typed (registry : Registry) : Prop where
  locations : ∀ location ∈ registry.locations.values, location.Typed
  characters : ∀ character ∈ registry.characters.values, character.Typed
  items : ∀ item ∈ registry.items.values, item.Typed
  maps : ∀ travelMap ∈ registry.maps.values, travelMap.Typed
  dialogues : ∀ dialogue ∈ registry.dialogues.values, dialogue.Typed
  quests : ∀ quest ∈ registry.quests.values, quest.Typed
  journal : ∀ entry ∈ registry.journal.values, entry.Typed
  interludes : ∀ interlude ∈ registry.interludes.values, interlude.Typed
  locales : ∀ locale ∈ registry.locales.values, ∀ text ∈ locale.values, text.IsText

namespace Localization

theorem pieceFill_outOfRange (bindings : Table Value) (piece : Piece) :
    FailsOnly Failure.OutOfRange (piece.fill bindings) := by
  cases piece with
  | char c => exact failsOnly_ok _
  | placeholder name =>
    simp only [Piece.fill]
    split <;> simp [Value.write_outOfRange]

theorem fill_outOfRange (bindings : Table Value) (text : String) :
    FailsOnly Failure.OutOfRange (fill bindings (.text text)) := by
  have filled := failsOnly_mapM (pieceFill_outOfRange bindings) (pieces text.toList)
  simp [fill, interpolate, filled]

theorem resolve_outOfRange {locale : Table Value} (texts : ∀ text ∈ locale.values, text.IsText)
    (bindings : Table Value) {authored : Value} (isText : authored.IsText) :
    FailsOnly Failure.OutOfRange (resolve locale bindings authored) := by
  obtain ⟨s, rfl⟩ := isText
  simp only [resolve]
  split
  · next key _ =>
    cases known : locale.find? (String.ofList key) with
    | none => simpa [Table.getD, known] using fill_outOfRange bindings s
    | some found =>
      obtain ⟨shown, rfl⟩ := texts found (Table.mem_of_find? known)
      simpa [Table.getD, known] using fill_outOfRange bindings shown
  · exact fill_outOfRange bindings s

end Localization

namespace View
variable {registry : Registry} {settings : Settings} {state : GameState} {resolve : Resolver}

def Resolver.Ranged (resolve : Resolver) : Prop :=
  ∀ authored : Value, authored.IsText → FailsOnly Failure.OutOfRange (resolve authored)

theorem resolver_outOfRange (isText : state.locale.IsText) :
    FailsOnly Failure.OutOfRange (resolver registry state) := by
  simp [resolver, isText.lookup_failsOnly]

theorem resolver_ranged (typed : registry.Typed) :
    Returns Resolver.Ranged (resolver registry state) := by
  simp only [resolver, returns_bind, returns_pure]
  intro found looked authored isText
  cases found with
  | none =>
    have texts : ∀ text ∈ (∅ : Table Value).values, text.IsText := fun _ member => by cases member
    exact Localization.resolve_outOfRange texts _ isText
  | some locale =>
    exact Localization.resolve_outOfRange (typed.locales locale (Table.mem_of_lookup looked)) _
      isText

section
variable (ranged : resolve.Ranged) (typed : registry.Typed)
include ranged

theorem ofItem_outOfRange {item : Item} (typed : item.Typed) :
    FailsOnly Failure.OutOfRange (ofItem resolve item) := by
  simp [ofItem, ranged _ typed.name, ranged _ typed.description]

theorem ofJournalEntry_outOfRange {entry : JournalEntry} (typed : entry.Typed) :
    FailsOnly Failure.OutOfRange (ofJournalEntry resolve entry) := by
  simp [ofJournalEntry, ranged _ typed.title, ranged _ typed.text]

include typed

theorem ofNode_outOfRange {node : Node} (isNode : node.Typed) :
    FailsOnly Failure.OutOfRange (ofNode registry settings resolve node) := by
  have looks : FailsOnly Failure.OutOfRange (speaker? registry node) := by
    simp only [speaker?, failsOnly_ite, failsOnly_pure, implies_true, and_true]
    exact fun present => (isNode.speaker.text present).lookup_failsOnly _
  simp only [ofNode, failsOnly_bind, failsOnly_pure, implies_true, and_true, looks, true_and]
  intro speaker found
  refine ⟨?_, fun _ _ => ranged _ isNode.text⟩
  unfold speakerName
  split
  · exact failsOnly_ok _
  · next character _ =>
    refine ranged _ (typed.characters character ?_).name
    unfold speaker? at found
    split at found
    · exact Table.mem_of_lookup found
    · cases found
  · next absent => exact ranged _ (isNode.speaker.resolve_left absent)

theorem ofLocation_outOfRange {id : Value} (isText : id.IsText) :
    FailsOnly Failure.OutOfRange (ofLocation registry resolve id) := by
  simp only [ofLocation, failsOnly_bind, isText.lookup_failsOnly, true_and]
  intro found looked
  cases found with
  | none => exact failsOnly_ok _
  | some location =>
    have known := typed.locations location (Table.mem_of_lookup looked)
    simp [ranged _ known.name, ranged _ known.description]

theorem ofCharacters_outOfRange (check : CharacterState → Bool) :
    FailsOnly Failure.OutOfRange (ofCharacters registry resolve state check) := by
  refine failsOnly_mapM_mem fun shown member => ?_
  obtain ⟨⟨id, state⟩, _, kept⟩ := List.mem_filterMap.mp member
  simp only at kept
  split at kept
  · obtain ⟨character, found, rfl⟩ := Option.map_eq_some_iff.mp kept
    have known := typed.characters character (Table.mem_of_find? found)
    simp [ofCharacter, ranged _ known.name, ranged _ known.biography]
  · cases kept

theorem ofItemsHere_outOfRange :
    FailsOnly Failure.OutOfRange (ofItemsHere registry resolve state) := by
  refine failsOnly_mapM_mem fun item member => ?_
  obtain ⟨⟨id, place⟩, _, kept⟩ := List.mem_filterMap.mp member
  simp only at kept
  split at kept
  · exact ofItem_outOfRange ranged (typed.items item (Table.mem_of_find? kept))
  · cases kept

theorem ofQuests_outOfRange : FailsOnly Failure.OutOfRange (ofQuests registry resolve state) := by
  refine failsOnly_mapM_mem fun shown member => ?_
  obtain ⟨entry, _, kept⟩ := List.mem_filterMap.mp member
  obtain ⟨quest, found, kept⟩ := Option.bind_eq_some_iff.mp kept
  obtain ⟨stage, reached, kept⟩ := Option.bind_eq_some_iff.mp kept
  cases kept
  have known := typed.quests quest (Table.mem_of_find? found)
  have stageText := known.stages stage (List.mem_of_find?_eq_some reached)
  simp [ranged _ known.name, ranged _ known.description, ranged _ stageText]

theorem ofMarker_outOfRange (current : Value) {marker : Marker} (isMarker : marker.Typed) :
    FailsOnly Failure.OutOfRange (ofMarker registry resolve current marker) := by
  simp only [ofMarker, failsOnly_bind, isMarker.id.lookup_failsOnly, true_and]
  intro found looked
  cases found with
  | none => simp
  | some location =>
    have known := typed.locations location (Table.mem_of_lookup looked)
    simp [ranged _ known.name]

theorem ofMap_outOfRange : FailsOnly Failure.OutOfRange (ofMap registry resolve state) := by
  unfold ofMap
  cases maps : registry.maps.values with
  | nil => simp
  | cons travelMap rest =>
    have known := typed.maps travelMap (by simp [maps])
    have markers : FailsOnly Failure.OutOfRange
        (travelMap.markers.mapM (ofMarker registry resolve state.location)) :=
      failsOnly_mapM_mem fun marker member =>
        ofMarker_outOfRange ranged typed _ (known.markers marker member)
    simp [ranged _ known.name, markers]

theorem ofInterlude_outOfRange {pending : Value} (isLabel : pending.IsLabel) :
    FailsOnly Failure.OutOfRange (ofInterlude registry settings resolve pending) := by
  unfold ofInterlude
  by_cases present : pending.isPresent
  · have isText := isLabel.text present
    simp only [present, Bool.not_true, Bool.false_eq_true, if_false, failsOnly_bind,
      isText.lookup_failsOnly, true_and]
    intro found looked
    cases found with
    | none => exact failsOnly_ok _
    | some interlude =>
      have known := typed.interludes interlude (Table.mem_of_lookup looked)
      simp [ranged _ known.text]
  · simp [present]

end

theorem ofKnown_outOfRange {table : Table α} {view : α → Except Failure β} {ids : List Value}
    (each : ∀ known ∈ table.values, FailsOnly Failure.OutOfRange (view known))
    (texts : ∀ id ∈ ids, id.IsText) : FailsOnly Failure.OutOfRange (ofKnown table view ids) := by
  induction ids with
  | nil => simp [ofKnown]
  | cons id rest ih =>
    have first := texts id List.mem_cons_self
    have others := ih fun other member => texts other (List.mem_cons_of_mem _ member)
    simp only [ofKnown, failsOnly_bind, first.lookup_failsOnly, true_and]
    intro found looked
    cases found with
    | none => exact others
    | some known => simp [each known (Table.mem_of_lookup looked), others]

theorem currentNode_failsOnly_of_text {P : Failure → Prop} (typed : state.Typed) :
    FailsOnly P (currentNode? registry state.cursor) := by
  cases place : state.cursor with
  | none => exact failsOnly_ok none
  | some cursor =>
    have isText := typed.dialogue cursor place
    simp only [currentNode?, failsOnly_bind, isText.lookup_failsOnly, true_and]
    intro found _
    cases found <;> exact failsOnly_ok _

theorem currentNode_typed (typed : registry.Typed) (cursor : Option Cursor) :
    Returns (fun found => ∀ place, found = some place → place.1.Typed ∧ place.2.Typed)
      (currentNode? registry cursor) := by
  cases cursor with
  | none => simp [currentNode?]
  | some cursor =>
    simp only [currentNode?, returns_bind]
    intro found looked
    cases found with
    | none => simp
    | some dialogue =>
      have known := typed.dialogues dialogue (Table.mem_of_lookup looked)
      refine (returns_pure _).mpr fun place found => ?_
      obtain ⟨node, first, rfl⟩ := Option.map_eq_some_iff.mp found
      exact ⟨known, known.nodes node (List.mem_of_find?_eq_some first)⟩

section
variable (ranged : resolve.Ranged) (isState : state.Typed)
include ranged isState

theorem ofChoices_sound {choices : List Choice} (texts : ∀ choice ∈ choices, choice.text.IsText) :
    Rolling.Safe (fun _ => True) (ofChoices state resolve choices) := by
  induction choices with
  | nil => exact .pure trivial
  | cons choice rest ih =>
    have text := ranged _ (texts choice List.mem_cons_self)
    have others := ih fun other member => texts other (List.mem_cons_of_mem _ member)
    apply Sound.bind (allPass_sound isState choice.conditions)
    intro passes _
    cases passes with
    | true =>
      exact .bind (.lift text fun _ _ => trivial) fun _ _ => .bind others fun _ _ => .pure trivial
    | false => exact others

theorem ofDialogue_sound (typed : registry.Typed) :
    Rolling.Safe (fun _ => True) (ofDialogue registry settings state resolve) := by
  apply Sound.bind (Sound.lift (currentNode_failsOnly_of_text isState) (currentNode_typed typed _))
  intro found known
  cases found with
  | none => exact .pure trivial
  | some place =>
    have isNode := (known place rfl).2
    apply Sound.bind (Sound.lift (ofNode_outOfRange ranged typed isNode) fun _ _ => trivial)
    intro _ _
    exact .bind (ofChoices_sound ranged isState isNode.choices) fun _ _ => .pure trivial

theorem ofWorld_outOfRange (typed : registry.Typed) (dialogue : Option DialogueView)
    (choices : List ChoiceView) : FailsOnly Failure.OutOfRange
      (ofWorld registry settings state resolve dialogue choices) := by
  have items := ofKnown_outOfRange
    (fun item known => ofItem_outOfRange ranged (typed.items item known)) isState.inventory
  have journal := ofKnown_outOfRange
    (fun entry known => ofJournalEntry_outOfRange ranged (typed.journal entry known))
    isState.journal
  have notifications := failsOnly_mapM_mem fun message member =>
    ranged message (isState.notifications message member)
  simp [ofWorld, isState.location.lookup_failsOnly,
    ofLocation_outOfRange ranged typed isState.location, ofCharacters_outOfRange ranged typed,
    ofItemsHere_outOfRange ranged typed, ofQuests_outOfRange ranged typed,
    ofMap_outOfRange ranged typed, ofInterlude_outOfRange ranged typed isState.interlude,
    items, journal, notifications]

end

theorem build_sound (typed : registry.Typed) (isState : state.Typed) :
    Rolling.Safe (fun _ => True) (build registry settings state) := by
  apply Sound.bind (Sound.lift (resolver_outOfRange isState.locale) (resolver_ranged typed))
  intro resolve ranged
  apply Sound.bind (ofDialogue_sound ranged isState typed)
  intro shown _
  exact .lift (ofWorld_outOfRange ranged isState typed shown.1 shown.2) fun _ _ => trivial

end View
end Fabula
