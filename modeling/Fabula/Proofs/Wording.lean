import Fabula.Proofs.Session.Mirror
/-!
# Views in other words

A view has the texts of a locale, and much that is no text: ids, places, numbers, which choices are
offered. A view that is built with other texts is the same view but for them, and building it draws
the same. Main statement:

* `View.mirrors_build`: what is left of a view without its words does not depend on the locales.
-/

namespace Fabula

def LocationView.wordless (view : LocationView) : LocationView :=
  { view with name := .null, description := .null }

def CharacterView.wordless (view : CharacterView) : CharacterView :=
  { view with name := .null, biography := .null }

def ItemView.wordless (view : ItemView) : ItemView :=
  { view with name := .null, description := .null }

def ChoiceView.wordless (view : ChoiceView) : ChoiceView :=
  { view with text := .null }

def DialogueView.wordless (view : DialogueView) : DialogueView :=
  { view with speakerName := .null, text := .null }

def QuestView.wordless (view : QuestView) : QuestView :=
  { view with name := .null, description := .null, stageDescription := .null }

def JournalView.wordless (view : JournalView) : JournalView :=
  { view with title := .null, text := .null }

def MarkerView.wordless (view : MarkerView) : MarkerView :=
  { view with name := .null }

def MapView.wordless (view : MapView) : MapView :=
  { view with name := .null, markers := view.markers.map MarkerView.wordless }

def InterludeView.wordless (view : InterludeView) : InterludeView :=
  { view with text := .null }

/-- A view without the texts that are resolved for its locale. How many there are is left. -/
def View.wordless (view : View) : View :=
  { view with
    location := view.location.wordless
    charactersHere := view.charactersHere.map CharacterView.wordless
    itemsHere := view.itemsHere.map ItemView.wordless
    choices := view.choices.map ChoiceView.wordless
    dialogue := view.dialogue.map DialogueView.wordless
    party := view.party.map CharacterView.wordless
    inventory := view.inventory.map ItemView.wordless
    quests := view.quests.map QuestView.wordless
    journal := view.journal.map JournalView.wordless
    map := view.map.map MapView.wordless
    notifications := view.notifications.map fun _ => .null
    interlude := view.interlude.map InterludeView.wordless }

namespace View
variable {registry : Registry} {settings : Settings} {state : GameState} {resolve other : Resolver}

theorem pairs_ofNode (node : Node) :
    Pairs (InvImage Eq DialogueView.wordless) (ofNode registry settings resolve node)
      (ofNode registry settings other node) :=
  .bind_same fun _ => .bind_any fun _ _ => .bind_any fun _ _ => .pure rfl

theorem mirrors_ofChoices (choices : List Choice) :
    Mirrors Eq (InvImage Eq (List.map ChoiceView.wordless)) (ofChoices state resolve choices)
      (ofChoices state other choices) := by
  induction choices with
  | nil => exact .pure rfl
  | cons choice rest ih =>
    refine .bind_same (.refl (Condition.allPass state choice.conditions)) fun passes => ?_
    cases passes with
    | true =>
      exact .bind_any fun _ _ => .bind ih fun _ _ others =>
        .pure (congrArg (List.cons (ChoiceView.mk choice.id .null)) others)
    | false => exact ih

theorem mirrors_ofDialogue :
    Mirrors Eq (InvImage Eq (Prod.map (Option.map DialogueView.wordless)
        (List.map ChoiceView.wordless)))
      (ofDialogue registry settings state resolve) (ofDialogue registry settings state other) := by
  refine .bind_same (.lift (.refl (currentNode? registry state.cursor))) fun found => ?_
  cases found with
  | none => exact .pure rfl
  | some place =>
    exact .bind (.lift (pairs_ofNode place.2)) fun _ _ line =>
      .bind (mirrors_ofChoices place.2.choices) fun _ _ choices =>
        .pure (Prod.ext (congrArg some line) choices)

theorem pairs_ofLocation (id : Value) :
    Pairs (InvImage Eq LocationView.wordless) (ofLocation registry resolve id)
      (ofLocation registry other id) := by
  refine .bind_same fun found => ?_
  cases found with
  | some location => exact .bind_any fun _ _ => .bind_any fun _ _ => .pure rfl
  | none => exact .pure rfl

theorem pairs_ofCharacters (check : CharacterState → Bool) :
    Pairs (InvImage Eq (List.map CharacterView.wordless))
      (ofCharacters registry resolve state check) (ofCharacters registry other state check) := by
  refine .mapM (fun place => ?_) _
  exact .bind_any fun _ _ => .bind_any fun _ _ => .pure rfl

theorem pairs_ofItem (item : Item) :
    Pairs (InvImage Eq ItemView.wordless) (ofItem resolve item) (ofItem other item) :=
  .bind_any fun _ _ => .bind_any fun _ _ => .pure rfl

theorem pairs_ofItemsHere :
    Pairs (InvImage Eq (List.map ItemView.wordless)) (ofItemsHere registry resolve state)
      (ofItemsHere registry other state) :=
  .mapM pairs_ofItem _

theorem pairs_ofKnown {α β γ : Type} {table : Table α} {view viewOther : α → Except Failure β}
    {erase : β → γ} (each : ∀ a, Pairs (InvImage Eq erase) (view a) (viewOther a))
    (ids : List Value) :
    Pairs (InvImage Eq (List.map erase)) (ofKnown table view ids)
      (ofKnown table viewOther ids) := by
  induction ids with
  | nil => exact .pure rfl
  | cons id rest ih =>
    refine .bind_same fun found => ?_
    cases found with
    | some known =>
      exact .bind (each known) fun _ _ first => .bind ih fun _ _ others =>
        .pure (List.cons_eq_cons.mpr ⟨first, others⟩)
    | none => exact ih

theorem pairs_ofQuests :
    Pairs (InvImage Eq (List.map QuestView.wordless)) (ofQuests registry resolve state)
      (ofQuests registry other state) := by
  refine .mapM (fun place => ?_) _
  exact .bind_any fun _ _ => .bind_any fun _ _ => .bind_any fun _ _ => .pure rfl

theorem pairs_ofJournalEntry (entry : JournalEntry) :
    Pairs (InvImage Eq JournalView.wordless) (ofJournalEntry resolve entry)
      (ofJournalEntry other entry) :=
  .bind_any fun _ _ => .bind_any fun _ _ => .pure rfl

theorem pairs_ofMarker (current : Value) (marker : Marker) :
    Pairs (InvImage Eq MarkerView.wordless) (ofMarker registry resolve current marker)
      (ofMarker registry other current marker) := by
  refine .bind_same fun found => ?_
  cases found with
  | some location => exact .bind_any fun _ _ => .pure rfl
  | none => exact .pure rfl

theorem pairs_ofMap :
    Pairs (InvImage Eq (Option.map MapView.wordless)) (ofMap registry resolve state)
      (ofMap registry other state) := by
  unfold ofMap
  split
  · exact .pure rfl
  · cases registry.maps.values with
    | nil => exact .pure rfl
    | cons travelMap rest =>
      refine .bind (.mapM (pairs_ofMarker state.location) _) fun _ _ markers =>
        .bind_any fun _ _ => .pure ?_
      exact congrArg (fun markers => some (MapView.mk travelMap.id .null travelMap.image
        travelMap.scale markers)) markers

theorem pairs_ofInterlude (pending : Value) :
    Pairs (InvImage Eq (Option.map InterludeView.wordless))
      (ofInterlude registry settings resolve pending)
      (ofInterlude registry settings other pending) := by
  unfold ofInterlude
  split
  · exact .pure rfl
  · refine .bind_same fun found => ?_
    cases found with
    | none => exact .pure rfl
    | some interlude => exact .bind_any fun _ _ => .pure rfl

theorem pairs_notifications (notifications : List Value) :
    Pairs (InvImage Eq (List.map fun _ => Value.null)) (notifications.mapM resolve)
      (notifications.mapM other) := by
  refine .mapM (fun notification => ?_) _
  exact fun _ _ _ _ => rfl

theorem pairs_ofWorld {dialogue dialogueOther : Option DialogueView}
    {choices choicesOther : List ChoiceView}
    (line : dialogue.map DialogueView.wordless = dialogueOther.map DialogueView.wordless)
    (offered : choices.map ChoiceView.wordless = choicesOther.map ChoiceView.wordless) :
    Pairs (InvImage Eq View.wordless) (ofWorld registry settings state resolve dialogue choices)
      (ofWorld registry settings state other dialogueOther choicesOther) := by
  refine .bind_same fun here => .bind (pairs_ofLocation _) fun _ _ location =>
    .bind (pairs_ofCharacters _) fun _ _ charactersHere =>
    .bind pairs_ofItemsHere fun _ _ itemsHere =>
    .bind (pairs_ofCharacters _) fun _ _ party =>
    .bind (pairs_ofKnown pairs_ofItem _) fun _ _ inventory =>
    .bind pairs_ofQuests fun _ _ quests =>
    .bind (pairs_ofKnown pairs_ofJournalEntry _) fun _ _ journal =>
    .bind pairs_ofMap fun _ _ shownMap =>
    .bind (pairs_notifications _) fun _ _ notifications =>
    .bind (pairs_ofInterlude _) fun _ _ interlude => .pure ?_
  simp only [InvImage] at *
  simp only [View.wordless, line, offered, location, charactersHere, itemsHere, party, inventory,
    quests, journal, shownMap, notifications, interlude]

theorem mirrors_build (locales : Table (Table Value)) :
    Mirrors Eq (InvImage Eq View.wordless) (build registry settings state)
      (build { registry with locales } settings state) :=
  .bind_any fun _ _ => .bind mirrors_ofDialogue fun _ _ dialogue =>
    .lift (pairs_ofWorld (congrArg Prod.fst dialogue) (congrArg Prod.snd dialogue))

end View
end Fabula
