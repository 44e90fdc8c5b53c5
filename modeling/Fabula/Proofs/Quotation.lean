import Fabula.Proofs.Interpolation
import Fabula.Proofs.Script.Quoted
import Fabula.Proofs.Session.Cue
import Fabula.Proofs.Session.Hop
import Fabula.Proofs.Session.Place
/-!
# What is shown of a quoted text

A quoted text is shown as it stands, unless it looks like a reference that the active locale knows:
then it is shown as one. Main statements:

* `View.shown_of_resolve`: what a text is resolved to;
* `View.build_parts`, `View.node_of_build`: which texts a view shows;
* `quoted_shown`: what is shown of a quoted text of a script.
-/

namespace Fabula
variable {registry : Registry} {settings : Settings} {state : GameState} {text : String}

namespace View
variable {resolve : Resolver} {roller rolled : Roller} {view : View}

/-- What a text is shown as: itself, unless it is an `@` and a key of the active locale. -/
inductive Rendering (registry : Registry) (state : GameState) (text : String) : Value → Prop
  | literal (unknown : ∀ key table, text.toList = '@' :: key →
      registry.locales.lookup state.locale = .ok (some table) →
      table.find? (String.ofList key) = none) : Rendering registry state text (.text text)
  | reference {key : List Char} {table : Table Value} {entry shown : Value}
      (reference : text.toList = '@' :: key)
      (active : registry.locales.lookup state.locale = .ok (some table))
      (known : table.find? (String.ofList key) = some entry)
      (fills : Localization.fill state.bindings entry = .ok shown) :
      Rendering registry state text shown

theorem fill_plain (plain : '\x7b' ∉ text.toList) (bindings : Table Value) :
    Localization.fill bindings (.text text) = .ok (.text text) := by
  rw [Localization.fill_text, Localization.interpolate_eq, Localization.filled_of_plain plain]
  exact congrArg (Except.ok ∘ Value.text) String.ofList_toList

theorem shown_of_resolve (plain : '\x7b' ∉ text.toList)
    (resolves : resolver registry state = .ok resolve) {shown : Value}
    (returns : resolve (.text text) = .ok shown) : Rendering registry state text shown := by
  have itself (fills : Localization.fill state.bindings (.text text) = .ok shown) :
      shown = .text text := by
    rw [fill_plain plain] at fills
    exact (Except.ok.inj fills).symm
  cases active : registry.locales.lookup state.locale with
  | error failure => simp [resolver, active, bind, Except.bind] at resolves
  | ok locale =>
    simp only [resolver, active, bind, Except.bind, pure, Except.pure] at resolves
    cases resolves
    simp only [Localization.resolve] at returns
    split at returns
    · next key mark =>
      cases locale with
      | none =>
        cases itself returns
        exact .literal fun _ _ _ found => by simp [active] at found
      | some table =>
        cases known : table.find? (String.ofList key) with
        | none =>
          rw [Option.getD_some, Table.getD, known, Option.getD_none] at returns
          cases itself returns
          refine .literal fun other _ sameMark found => ?_
          rw [active] at found
          cases found
          cases mark.symm.trans sameMark
          exact known
        | some entry =>
          rw [Option.getD_some, Table.getD, known, Option.getD_some] at returns
          exact .reference mark active known returns
    · next other =>
      cases itself returns
      exact .literal fun key _ mark => absurd mark (other key)

theorem ofWorld_choices (dialogue : Option DialogueView) (choices : List ChoiceView) :
    Returns (fun view => view.choices = choices)
      (ofWorld registry settings state resolve dialogue choices) := by
  simp [ofWorld]

theorem build_parts (builds : build registry settings state roller = .ok view rolled) :
    ∃ resolve start middle, resolver registry state = .ok resolve ∧
      ofDialogue registry settings state resolve start =
        .ok (view.dialogue, view.choices) middle ∧
      state.notifications.mapM resolve = .ok view.notifications := by
  obtain ⟨resolve, start, resolves, builds⟩ := Play.ok_of_bind builds
  obtain ⟨⟨dialogue, choices⟩, middle, shows, builds⟩ := Play.ok_of_bind builds
  have made := ok_of_lifted builds
  have sameDialogue := ofWorld_dialogue dialogue choices view made
  have sameChoices := ofWorld_choices dialogue choices view made
  obtain ⟨notifications, _⟩ := ofWorld_cues dialogue choices view made
  subst sameDialogue sameChoices
  exact ⟨resolve, start, middle, ok_of_lifted resolves, shows, notifications⟩

theorem text_of_ofNode {node : Node} {line : DialogueView}
    (shows : ofNode registry settings resolve node = .ok line) :
    resolve node.text = .ok line.text := by
  obtain ⟨speaker, _, shows⟩ := Script.bind_eq_ok.mp shows
  obtain ⟨name, _, shows⟩ := Script.bind_eq_ok.mp shows
  obtain ⟨text, resolves, made⟩ := Script.bind_eq_ok.mp shows
  cases made
  exact resolves

theorem choice_of_ofChoices {choices : List Choice} {offered : List ChoiceView}
    (shows : ofChoices state resolve choices roller = .ok offered rolled) {shown : ChoiceView}
    (listed : shown ∈ offered) :
    ∃ choice ∈ choices, shown.id = choice.id ∧ resolve choice.text = .ok shown.text := by
  induction choices generalizing roller offered with
  | nil =>
    cases shows
    cases listed
  | cons choice rest ih =>
    have below {later : List ChoiceView} {start : Roller}
        (shows : ofChoices state resolve rest start = .ok later rolled) (listed : shown ∈ later) :
        ∃ other ∈ choice :: rest, shown.id = other.id ∧ resolve other.text = .ok shown.text := by
      obtain ⟨other, member, same⟩ := ih shows listed
      exact ⟨other, List.mem_cons_of_mem _ member, same⟩
    obtain ⟨passes, _, _, shows⟩ := Play.ok_of_bind shows
    cases passes with
    | false => exact below shows listed
    | true =>
      obtain ⟨text, _, resolves, shows⟩ := Play.ok_of_bind shows
      obtain ⟨later, _, shows, made⟩ := Play.ok_of_bind shows
      cases made
      rcases List.mem_cons.mp listed with rfl | listed
      · exact ⟨choice, List.mem_cons_self, rfl, ok_of_lifted resolves⟩
      · exact below shows listed

theorem node_of_build {dialogue : Dialogue} {node : Node}
    (current : currentNode? registry state.cursor = .ok (some (dialogue, node)))
    (builds : build registry settings state roller = .ok view rolled) :
    ∃ resolve line, resolver registry state = .ok resolve ∧ view.dialogue = some line ∧
      resolve node.text = .ok line.text ∧ ∀ shown ∈ view.choices, ∃ choice ∈ node.choices,
        shown.id = choice.id ∧ resolve choice.text = .ok shown.text := by
  obtain ⟨resolve, _, _, resolves, shows, _⟩ := build_parts builds
  obtain ⟨found, _, asked, shows⟩ := Play.ok_of_bind shows
  have same := ok_of_lifted asked
  rw [current] at same
  cases same
  obtain ⟨line, _, ofNode, shows⟩ := Play.ok_of_bind shows
  obtain ⟨offered, _, offers, shows⟩ := Play.ok_of_bind shows
  injection shows with same _
  obtain ⟨shown, offered⟩ := Prod.mk.inj same
  refine ⟨resolve, line, resolves, shown.symm, text_of_ofNode (ok_of_lifted ofNode), ?_⟩
  rw [← offered]
  exact fun _ => choice_of_ofChoices offers

theorem mapM_getElem? {items results : List Value} (returns : items.mapM resolve = .ok results)
    {place : Nat} {item : Value} (found : items[place]? = some item) :
    ∃ shown, results[place]? = some shown ∧ resolve item = .ok shown := by
  induction items generalizing results place with
  | nil => simp at found
  | cons first rest ih =>
    rw [List.mapM_cons] at returns
    obtain ⟨shown, resolves, returns⟩ := Script.bind_eq_ok.mp returns
    obtain ⟨others, below, made⟩ := Script.bind_eq_ok.mp returns
    cases made
    cases place with
    | zero =>
      cases found
      exact ⟨shown, rfl, resolves⟩
    | succ place => exact ih below found

end View

theorem message_of_applyAll {effects : List Effect} {after : GameState} {roller rolled : Roller}
    (applies : Effect.applyAll state effects roller = .ok after rolled)
    (listed : .notify text ∈ effects) : .text text ∈ after.notifications := by
  have cues : after.cues = state.cues.after [.apply effects] := by
    rw [(meaning_of_applyAll applies).cues, Cues.foldl_cue]
  have queued : after.notifications = state.notifications ++ effects.filterMap Effect.message? := by
    simpa [Cues.after, Deed.effects, GameState.cues] using congrArg Cues.notifications cues
  rw [queued]
  exact List.mem_append_right _ (List.mem_filterMap.mpr ⟨_, listed, rfl⟩)

open Script in
/-- A text without quotation marks and braces that a script quotes is all that is left of the quote,
whatever stands around it. It is what is shown as the text of its node and of its choice, and what a
message with it is shown as, unless it is an `@` and a key of the active locale. -/
theorem quoted_shown {text : String} (unquoted : '"' ∉ text.toList) (plain : '\x7b' ∉ text.toList) :
    (∀ word ∈ ["NARRATOR:", "CHOICE", "NOTIFY"], ∀ line indent trail comment number,
      QuotedLine word.toList text.toList line → Blank indent → Blank trail →
      (∀ c ∈ comment.head?, c = '#') →
      Token.ofLine? (indent ++ (line ++ (trail ++ comment))) number =
        some ⟨line, number, indent.length⟩) ∧
    (∀ id source dialogue part node, compile id source = .ok dialogue →
      (part, node) ∈ (sections (tokenize source.toList)).2.zip dialogue.nodes →
      ∀ registry settings (state : GameState) roller rolled view,
        View.currentNode? registry state.cursor = .ok (some (dialogue, node)) →
        View.build registry settings state roller = .ok view rolled →
        (∀ token, .line token ∈ items part.tokens →
          QuotedLine "NARRATOR:".toList text.toList token.line →
          ∃ line, view.dialogue = some line ∧ View.Rendering registry state text line.text) ∧
        (∀ token, .line token ∈ items part.tokens →
          QuotedLine "NOTIFY".toList text.toList token.line → .notify text ∈ node.effects) ∧
        ∀ opener body closed, .block opener body closed ∈ items part.tokens →
          QuotedLine "CHOICE".toList text.toList opener.line →
          ∃ choice ∈ node.choices, choice.text = .text text ∧
            ∀ shown ∈ view.choices, shown.id = choice.id →
              View.Rendering registry state text shown.text) ∧
    (∀ line place, QuotedLine "NOTIFY".toList text.toList line →
      Effect.compile place line = .ok (.notify text)) ∧
    (∀ effects roller rolled (before after : GameState),
      Effect.applyAll before effects roller = .ok after rolled → .notify text ∈ effects →
        .text text ∈ after.notifications) ∧
    ∀ registry settings (state : GameState) roller rolled view,
      View.build registry settings state roller = .ok view rolled →
      ∀ place : Nat, state.notifications[place]? = some (.text text) →
        ∃ shown, view.notifications[place]? = some shown ∧
          View.Rendering registry state text shown := by
  refine ⟨fun word listed line indent trail comment number quotes before after starts => ?_,
    fun id source dialogue part node compiles listed registry settings state roller rolled view
      current builds => ⟨fun token spoken quotes => ?_, fun token notifies quotes => ?_,
        fun opener body closed block quotes => ?_⟩,
    fun line place quotes => compile_notify quotes place,
    fun effects roller rolled before after applies listed => message_of_applyAll applies listed,
    fun registry settings state roller rolled view builds place pending => ?_⟩
  · have opening : IsOpening word.toList := by
      simp only [List.mem_cons, List.not_mem_nil, or_false] at listed
      rcases listed with rfl | rfl | rfl
      · exact isOpening_narrator
      · exact isOpening_choice
      · exact isOpening_notify
    exact ofLine?_quotes opening unquoted quotes before after starts number
  · have isNode := isNode_of_compile compiles listed
    obtain ⟨resolve, line, resolves, shows, shown, _⟩ := View.node_of_build current builds
    rw [(isNode.text_of_quotes spoken quotes).2] at shown
    exact ⟨line, shows, View.shown_of_resolve plain resolves shown⟩
  · exact (isNode_of_compile compiles listed).notify_of_quotes notifies quotes
  · have isNode := isNode_of_compile compiles listed
    obtain ⟨resolve, _, resolves, _, _, offers⟩ := View.node_of_build current builds
    obtain ⟨choice, member, quoted⟩ := isNode.choice_of_quotes block quotes
    refine ⟨choice, member, quoted, fun shown offered same => ?_⟩
    obtain ⟨other, otherMember, sameOther, shows⟩ := offers shown offered
    cases isNode.choice_of_id otherMember member (sameOther.symm.trans same)
    rw [quoted] at shows
    exact View.shown_of_resolve plain resolves shows
  · obtain ⟨resolve, _, _, resolves, _, notifications⟩ := View.build_parts builds
    obtain ⟨shown, found, shows⟩ := View.mapM_getElem? notifications pending
    exact ⟨shown, found, View.shown_of_resolve plain resolves shows⟩

/-- A node that quotes one text as its line, in a choice and in a message. The locale has an entry
for the way out. -/
def signScript (text : String) : String :=
  "NODE hall\n  NARRATOR: \"" ++ text ++ "\" # a sign\n  CHOICE \"" ++ text ++
    "\"\n    GOTO hall\n  END\n  NOTIFY \"" ++ text ++ "\"\n"

def signRegistry (dialogue : Dialogue) : Registry :=
  { guideRegistry with
    characters := ∅
    dialogues := ⟨[(.text "sign", dialogue)]⟩
    locales := ⟨[(.text "en", ⟨[(.text "out", "Exit")]⟩)]⟩ }

def signState : GameState :=
  { GameState.empty "hall" (.bool true) "en" with cursor := some ⟨"sign", "hall"⟩ }

def signView (text : String) : Rolling View := do
  let dialogue ← Script.compile "sign" (signScript text)
  let state ← Effect.applyAll signState (dialogue.nodes.flatMap Node.effects)
  View.build (signRegistry dialogue) .standard state

def shownTexts (view : View) : List String :=
  view.dialogue.toList.map (·.text.display) ++ view.choices.map (·.text.display) ++
    view.notifications.map Value.display

/-- A sign that quotes a reference shows what the reference stands for. -/
theorem quoted_unlike : ∃ view rolled, signView "@out" guideRoller = .ok view rolled ∧
    shownTexts view = ["Exit", "Exit", "Exit"] := by
  have shows : (outcome (signView "@out") guideRoller).1.toOption.map shownTexts =
      some ["Exit", "Exit", "Exit"] := by
    decide +kernel
  cases run : signView "@out" guideRoller with
  | error failure rolled => simp [outcome_of_error run, Except.toOption] at shows
  | ok view rolled =>
    rw [outcome_of_ok run] at shows
    exact ⟨view, rolled, rfl, Option.some.inj shows⟩

def roomText : String :=
  "Room #4: @out"

open Script in
theorem room_items : (sections (tokenize (signScript roomText).toList)).2.map
    (fun part => items part.tokens) =
      [[.line ⟨"NARRATOR: \"Room #4: @out\"".toList, 2, 2⟩,
        .block ⟨"CHOICE \"Room #4: @out\"".toList, 3, 2⟩ [⟨"GOTO hall".toList, 4, 4⟩] true,
        .line ⟨"NOTIFY \"Room #4: @out\"".toList, 6, 2⟩]] := by
  decide +kernel

theorem room_compiles {dialogue : Dialogue}
    (compiles : Script.compile "sign" (signScript roomText) = .ok dialogue) :
    ∃ node, dialogue.nodes = [node] ∧ (∀ effect ∈ node.effects, effect.steers = false) ∧
      View.currentNode? (signRegistry dialogue) signState.cursor = .ok (some (dialogue, node)) := by
  have known : ((Script.compile "sign" (signScript roomText)).toOption.map fun dialogue =>
      (dialogue.nodes.map fun node => node.effects.map Effect.steers,
        (dialogue.findNode? "hall").isSome)) = some ([[false]], true) := by
    decide +kernel
  rw [compiles] at known
  obtain ⟨one, found⟩ := Prod.mk.inj (Option.some.inj known)
  obtain ⟨node, nodes, steers⟩ := List.map_eq_singleton_iff.mp one
  obtain ⟨other, finds⟩ := Option.isSome_iff_exists.mp found
  have listed : other ∈ dialogue.nodes := List.mem_of_find?_eq_some finds
  rw [nodes] at listed
  have same : other = node := List.mem_singleton.mp listed
  have stays : ∀ effect ∈ node.effects, effect.steers = false := fun effect member => by
    have listed : effect.steers ∈ node.effects.map Effect.steers := List.mem_map_of_mem member
    rw [steers] at listed
    exact List.mem_singleton.mp listed
  refine ⟨node, nodes, stays, ?_⟩
  have current : View.currentNode? (signRegistry dialogue) signState.cursor =
      .ok ((dialogue.findNode? "hall").map fun node => (dialogue, node)) := rfl
  rw [current, finds, same]
  rfl

open Script in
theorem quoted_shown_room : ∃ dialogue part node state start middle view rolled,
    '"' ∉ roomText.toList ∧ '\x7b' ∉ roomText.toList ∧
      compile "sign" (signScript roomText) = .ok dialogue ∧
      (part, node) ∈ (sections (tokenize (signScript roomText).toList)).2.zip dialogue.nodes ∧
      Effect.applyAll signState node.effects start = .ok state middle ∧
      View.build (signRegistry dialogue) .standard state middle = .ok view rolled ∧
      (∃ line, view.dialogue = some line ∧
        View.Rendering (signRegistry dialogue) state roomText line.text) ∧
      (∃ choice ∈ node.choices, choice.text = .text roomText ∧
        ∀ shown ∈ view.choices, shown.id = choice.id →
          View.Rendering (signRegistry dialogue) state roomText shown.text) ∧
      ∃ shown ∈ view.notifications,
        View.Rendering (signRegistry dialogue) state roomText shown := by
  have unquoted : '"' ∉ roomText.toList := by decide
  have plain : '\x7b' ∉ roomText.toList := by decide
  have returns : (outcome (signView roomText) guideRoller).1.isOk := by decide +kernel
  obtain ⟨view, runs⟩ := ok_of_outcome returns
  obtain ⟨dialogue, start, reads, runs⟩ := Play.ok_of_bind runs
  obtain ⟨state, middle, applies, builds⟩ := Play.ok_of_bind runs
  have compiles := ok_of_lifted reads
  obtain ⟨node, nodes, stays, current⟩ := room_compiles compiles
  obtain ⟨part, parts, listed⟩ := List.map_eq_singleton_iff.mp room_items
  have paired :
      (part, node) ∈ (sections (tokenize (signScript roomText).toList)).2.zip dialogue.nodes := by
    rw [parts, nodes]
    exact List.mem_singleton_self _
  rw [nodes, List.flatMap_singleton] at applies
  have cursor : state.cursor = signState.cursor := by
    rw [(meaning_of_applyAll applies).cursor, steer_of_stays stays]
  obtain ⟨_, texts, _, queues, notifications⟩ := quoted_shown unquoted plain
  obtain ⟨line, messages, choice⟩ := texts _ _ _ _ _ compiles paired _ _ _ _ _ _
    (cursor ▸ current) builds
  have pending := queues _ _ _ _ _ applies (messages ⟨"NOTIFY \"Room #4: @out\"".toList, 6, 2⟩
    (by simp [listed]) (quotes_after_space _ _))
  obtain ⟨place, found⟩ := List.mem_iff_getElem?.mp pending
  obtain ⟨shown, shows, resolved⟩ := notifications _ _ _ _ _ _ builds place found
  refine ⟨dialogue, part, node, state, start, middle, view, _, unquoted, plain, compiles, paired,
    applies, builds, ?_, ?_, shown, List.mem_of_getElem? shows, resolved⟩
  · exact line ⟨"NARRATOR: \"Room #4: @out\"".toList, 2, 2⟩ (by simp [listed])
      (quotes_after_space _ _)
  · exact choice ⟨"CHOICE \"Room #4: @out\"".toList, 3, 2⟩ [⟨"GOTO hall".toList, 4, 4⟩] true
      (by simp [listed]) (quotes_after_space _ _)

end Fabula
