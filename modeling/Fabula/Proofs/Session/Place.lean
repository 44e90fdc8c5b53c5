import Fabula.Proofs.Content.Keyed
import Fabula.Proofs.Session.CallMeaning
import Fabula.Proofs.Session.Saving
/-!
# The cursor is at a place that exists

Content may name dialogues and nodes that do not exist. What moves the cursor looks its target up
first, so the cursor is on a node of a known dialogue or on a dialogue that still has to be entered;
and at the end of a call nothing is left to enter. Main statements:

* `anchored_of_path`: deeds leave the cursor at a place or on a dialogue to enter;
* `cursor_placed`: after every call the cursor is at a place or nowhere.
-/

namespace Fabula
variable {game : Game} {registry : Registry}

namespace Registry

def Places (registry : Registry) (cursor : Cursor) : Prop :=
  ∃ dialogue node, registry.dialogues.lookup cursor.dialogue = .ok (some dialogue) ∧
    dialogue.findNode? cursor.node = some node

def Spelled (registry : Registry) : Prop :=
  ∀ dialogue ∈ registry.dialogues.values, ∀ node ∈ dialogue.nodes, ∃ id, node.id = .text id

/-- Whether a cursor is at a place or on a dialogue that still has to be entered. -/
def Anchors (registry : Registry) (cursor : Option Cursor) : Prop :=
  ∀ place, cursor = some place → place.needsStart ∨ registry.Places place

theorem anchors_none : registry.Anchors none :=
  fun place found => by cases found

theorem anchors_starting (dialogue : Value) : registry.Anchors (some (.starting dialogue)) := by
  rintro place ⟨⟩
  exact .inl (by simp [Cursor.starting, Cursor.needsStart])

theorem places_node (keyed : registry.Keyed) {dialogue : Dialogue} {target : Value}
    (known : dialogue ∈ registry.dialogues.values) (found : (dialogue.findNode? target).isSome) :
    registry.Places ⟨dialogue.id, target⟩ := by
  obtain ⟨node, first⟩ := Option.isSome_iff_exists.mp found
  exact ⟨dialogue, node, keyed.lookup known, first⟩

theorem anchors_node (keyed : registry.Keyed) {dialogue : Dialogue} {target : Value}
    (known : dialogue ∈ registry.dialogues.values) (found : (dialogue.findNode? target).isSome) :
    registry.Anchors (some ⟨dialogue.id, target⟩) := by
  rintro place ⟨⟩
  exact .inr (places_node keyed known found)

end Registry

theorem Dialogue.findNode?_of_mem {dialogue : Dialogue} {node : Node} {id : String}
    (listed : node ∈ dialogue.nodes) (spelled : node.id = .text id) :
    (dialogue.findNode? node.id).isSome :=
  List.find?_isSome.mpr ⟨node, listed, by simp [spelled]⟩

theorem anchors_steer {effects : List Effect} {cursor : Option Cursor}
    (anchored : registry.Anchors cursor) :
    registry.Anchors (effects.foldl Effect.steer cursor) := by
  induction effects generalizing cursor with
  | nil => exact anchored
  | cons effect rest ih =>
    refine ih ?_
    cases effect with
    | startDialogue dialogue => exact Registry.anchors_starting _
    | endDialogue => exact Registry.anchors_none
    | _ => exact anchored

theorem anchored_of_deed (keyed : game.registry.Keyed) (spelled : game.registry.Spelled)
    {deed : Deed} {before after : GameState} (does : deed.Meaning game before after)
    (anchored : game.registry.Anchors before.cursor) : game.registry.Anchors after.cursor := by
  cases does with
  | apply applies =>
    rw [(meaning_of_applyAll applies).cursor]
    exact anchors_steer anchored
  | arrive known listed =>
    obtain ⟨id, same⟩ := spelled _ known _ listed
    exact Registry.anchors_node keyed known (Dialogue.findNode?_of_mem listed same)
  | hop known found => exact Registry.anchors_node keyed known found
  | leave => exact Registry.anchors_none
  | depart => exact Registry.anchors_none
  | carry carries =>
    rw [GameState.carryItem_cursor carries]
    exact anchored
  | command updates =>
    rename_i command
    rw [(Command.meaning_of_update updates).2]
    cases command with
    | triggerDialogue dialogue => exact Registry.anchors_starting _
    | _ => exact anchored
  | _ => exact anchored

theorem anchored_of_path (keyed : game.registry.Keyed) (spelled : game.registry.Spelled)
    {deeds : List Deed} {before after : GameState} (path : Path game before deeds after)
    (anchored : game.registry.Anchors before.cursor) : game.registry.Anchors after.cursor := by
  induction path with
  | nil => exact anchored
  | cons does _ ih => exact ih (anchored_of_deed keyed spelled does anchored)

namespace View
variable {settings : Settings} {resolve : Resolver} {state : GameState}

theorem ofWorld_dialogue (dialogue : Option DialogueView) (choices : List ChoiceView) :
    Returns (fun view => view.dialogue = dialogue)
      (ofWorld registry settings state resolve dialogue choices) := by
  simp [ofWorld]

theorem currentNode?_of_places {place : Cursor} (places : registry.Places place) :
    ∃ found, currentNode? registry (some place) = .ok (some found) := by
  obtain ⟨dialogue, node, known, first⟩ := places
  exact ⟨(dialogue, node), currentNode?_eq_some.mpr ⟨place, rfl, known, first⟩⟩

theorem dialogue_of_shows {view : View} (shows : Telling.Shows game state view)
    (placed : ∀ place, state.cursor = some place → game.registry.Places place) :
    view.dialogue.isSome = state.cursor.isSome := by
  obtain ⟨roller, rolled, builds⟩ := shows
  obtain ⟨resolve, _, _, builds⟩ := Play.ok_of_bind builds
  obtain ⟨line, _, builtLine, builds⟩ := Play.ok_of_bind builds
  have same : view.dialogue = line.1 := ofWorld_dialogue _ _ view (ok_of_lifted builds)
  obtain ⟨found, _, asked, builtLine⟩ := Play.ok_of_bind builtLine
  have current := ok_of_lifted asked
  rw [same]
  cases cursor : state.cursor with
  | none =>
    rw [cursor] at current
    cases current
    cases builtLine
    rfl
  | some place =>
    obtain ⟨there, known⟩ := currentNode?_of_places (placed place cursor)
    rw [cursor, known] at current
    cases current
    obtain ⟨_, _, _, builtLine⟩ := Play.ok_of_bind builtLine
    obtain ⟨_, _, _, builtLine⟩ := Play.ok_of_bind builtLine
    cases builtLine
    rfl

end View

theorem view_of_resets {call : Call} (resets : call.resets = true) {session next : Session}
    {reply : Reply} (returns : Play.call game call session = .ok reply next) :
    ∃ view, reply = .view view := by
  cases call with
  | command command => cases resets
  | line line => cases resets
  | action action =>
    cases action with
    | newGame setup =>
      obtain ⟨view, _, _, replies⟩ := Play.ok_of_bind returns
      cases replies
      exact ⟨view, rfl⟩
    | load save =>
      obtain ⟨view, _, _, replies⟩ := Play.ok_of_bind returns
      cases replies
      exact ⟨view, rfl⟩
    | loadRecord data =>
      obtain ⟨_, _, _, returns⟩ := Play.ok_of_bind returns
      obtain ⟨view, _, _, replies⟩ := Play.ok_of_bind returns
      cases replies
      exact ⟨view, rfl⟩
    | _ => cases resets

theorem anchored_of_call (keyed : game.registry.Keyed) (spelled : game.registry.Spelled)
    {call : Call} {session next : Session} {reply : Reply}
    (starts : ∀ opening start, call.Opening game session.state opening start →
      game.registry.Anchors start.cursor)
    (returns : Play.call game call session = .ok reply next) :
    game.registry.Anchors next.state.cursor := by
  by_cases plain : ∀ view, reply ≠ .view view
  · have goesOn : call.resets = false := by
      cases resets : call.resets with
      | false => rfl
      | true =>
        obtain ⟨view, same⟩ := view_of_resets resets returns
        exact absurd same (plain view)
    rw [(Answering.call call).state_of_plain _ _ _ returns plain]
    exact starts [] session.state (.other goesOn)
  · obtain ⟨view, rfl⟩ : ∃ view, reply = .view view := by simpa using plain
    obtain ⟨opening, deeds, start, shown, told⟩ := meaning_of_call returns
    have anchored := anchored_of_path keyed spelled told.path (starts opening start told.opens)
    rw [told.clears]
    exact anchored

def Call.loads : Call → Bool
  | .action (.load _) | .action (.loadRecord _) => true
  | _ => false

/-- Calls over a registry that return: a new game and what follows it, with loads only of what such
runs have saved. -/
def Registry.playing (registry : Registry) : RunKind Unit where
  Begins _ session := ∃ (turn : Turn) (setup : Setup), turn.game.registry = registry ∧
    Reachable turn.game turn.session ∧ turn.call = .action (.newGame setup) ∧ turn.Returns ∧
      turn.after = session
  Goes _ turn _ := turn.game.registry = registry ∧ turn.call.loads = false ∧ turn.Returns
  Loads turn := turn.game.registry = registry ∧ turn.Returns

def Played (registry : Registry) (session : Session) : Prop :=
  Run registry.playing () session

theorem state_of_ofRecord_toRecord {save loaded : Save} {now : String}
    (read : Save.ofRecord now save.toRecord = .ok loaded) : loaded.state = save.state := by
  obtain ⟨version, state, timestamp⟩ := save
  have restored := ofRecord_toRecord state
  obtain ⟨fields, record⟩ : ∃ fields, state.toRecord = .record fields := ⟨_, rfl⟩
  simp only [record] at restored
  have restores : (GameState.ofRecord (.record fields)).mapError Save.faultOf = .ok state := by
    rw [restored]
    rfl
  simp [Save.ofRecord, Save.toRecord, record, restores, Value.object, Table.getD, Table.getOrNull,
    Table.find?, Key.same_text, bind, Except.bind, pure, Except.pure] at read
  cases written : version.write with
  | ok text =>
    simp only [written, Except.ok.injEq] at read
    rw [← read]
  | error failure => simp [written] at read

theorem state_of_save {session next : Session} {saved : Save}
    (returns : Play.call game (.action .save) session = .ok (.save saved) next) :
    saved.state = session.state := by
  obtain ⟨save, _, saves, replies⟩ := Play.ok_of_bind returns
  cases replies
  rw [Play.ok_of_save saves]

theorem Turn.Resumes.start_eq {turn : Turn} {holder : Session} (resumes : turn.Resumes holder)
    {opening : List Deed} {start : GameState}
    (opens : turn.call.Opening turn.game turn.session.state opening start) :
    start = holder.state := by
  obtain ⟨other, saved, left, saves, asks⟩ := resumes
  rw [← state_of_save saves]
  obtain ⟨game, call, session⟩ := turn
  dsimp only at asks opens
  rcases asks with rfl | rfl
  · cases opens with
    | load save => rfl
    | other goesOn => cases goesOn
  · cases opens with
    | loadRecord read => exact state_of_ofRecord_toRecord read
    | other goesOn => cases goesOn

theorem Turn.Resumes.shows {turn : Turn} {holder : Session} (resumes : turn.Resumes holder)
    (returns : turn.Returns) : turn.Shows := by
  obtain ⟨other, saved, left, saves, asks⟩ := resumes
  obtain ⟨reply, returned⟩ := returns
  have resets : turn.call.resets = true := by rcases asks with same | same <;> rw [same] <;> rfl
  obtain ⟨view, rfl⟩ := view_of_resets resets returned
  exact ⟨view, returned⟩

namespace Played
variable {session : Session}

theorem settled (named : registry.Named) (played : Played registry session) :
    session.Settled := by
  refine Run.keeps (I := fun _ session => session.Settled) played ?_ ?_ ?_
  · rintro _ _ ⟨turn, _, rfl, reached, _, returns, rfl⟩
    exact turn.settled named returns (reached.settled named)
  · rintro _ turn _ ⟨rfl, _, returns⟩ settled
    exact turn.settled named returns settled
  · rintro _ holder turn ⟨rfl, returns⟩ resumes _
    exact turn.settled_of_shows named (resumes.shows returns)

theorem anchored (keyed : registry.Keyed) (spelled : registry.Spelled)
    (played : Played registry session) : registry.Anchors session.state.cursor := by
  refine Run.keeps (I := fun _ session => registry.Anchors session.state.cursor) played ?_ ?_ ?_
  · rintro _ _ ⟨⟨game, call, before⟩, setup, rfl, _, rfl, ⟨reply, returns⟩, rfl⟩
    refine anchored_of_call keyed spelled (fun opening start opens => ?_) returns
    cases opens with
    | newGame setup => exact Registry.anchors_none
    | other goesOn => cases goesOn
  · rintro _ ⟨game, call, before⟩ _ ⟨rfl, goesOn, reply, returns⟩ anchored
    refine anchored_of_call keyed spelled (fun opening start opens => ?_) returns
    cases opens with
    | newGame setup => exact Registry.anchors_none
    | load save => cases goesOn
    | loadRecord read => cases goesOn
    | other _ => exact anchored
  · rintro _ holder turn ⟨rfl, reply, returns⟩ resumes anchored
    refine anchored_of_call keyed spelled (fun opening start opens => ?_) returns
    rwa [resumes.start_eq opens]

end Played

/-- After every call the cursor is at a place or nowhere, whatever the content refers to. So a view
shows a line exactly where the session is in a dialogue. -/
theorem cursor_placed {content : Value} (read : Registry.ofRecord content = .ok registry)
    (spelled : registry.Spelled) {session : Session} (played : Played registry session) :
    (session.state.cursor = none ∨
        ∃ place, session.state.cursor = some place ∧ registry.Places place) ∧
      ∀ (game : Game) (call : Call) (before : Session) (view : View), game.registry = registry →
        Play.call game call before = .ok (.view view) session →
          (view.dialogue.isSome ↔ session.phase = .inDialogue) := by
  have keyed := registry_ofRecord_keyed content _ read
  have settled := played.settled (registry_ofRecord_named content _ read)
  have anchored := played.anchored keyed spelled
  have placed : ∀ place, session.state.cursor = some place → registry.Places place := by
    intro place found
    have entered := settled.entered place found
    exact (anchored place found).resolve_left (by simp [entered])
  constructor
  · cases cursor : session.state.cursor with
    | none => exact .inl rfl
    | some place => exact .inr ⟨place, rfl, placed place cursor⟩
  · rintro game call before view rfl returns
    obtain ⟨_, _, _, shown, told⟩ := meaning_of_call returns
    have cursor : session.state.cursor = shown.cursor := by
      rw [told.clears]
      rfl
    have line := View.dialogue_of_shows told.shows (cursor ▸ placed)
    rw [line, ← cursor, settled.samePhase]
    cases session.state.cursor <;> simp [Phase.ofCursor]

def guideSetup : Setup :=
  ⟨"hall", .start, ∅, ∅, []⟩

def guideBegins : Turn :=
  ⟨guideGame, .action (.newGame guideSetup), guideSession⟩

def guideTalks : Turn :=
  ⟨guideGame, .action (.talkTo "guide"), guideBegins.after⟩

theorem guide_begins : guideBegins.Returns :=
  Turn.returns_of_isOk (by decide +kernel)

theorem guide_shows : guideTalks.Shows := by
  have returns : (outcome (Play.talkTo guideGame "guide") guideBegins.after).1.isOk := by
    decide +kernel
  obtain ⟨view, returned⟩ := ok_of_outcome returns
  exact Turn.shows_of_ok (Play.bind_of_ok returned)

theorem guide_played : Played guideRegistry guideTalks.after := by
  have played : Played guideRegistry guideBegins.after :=
    .begin ⟨guideBegins, guideSetup, rfl, .start guide_started, rfl, guide_begins, rfl⟩
  obtain ⟨view, shown⟩ := guide_shows
  exact .turn played ⟨rfl, rfl, .view view, shown⟩

theorem guide_spelled : guideRegistry.Spelled := by
  intro dialogue known node listed
  simp only [guideRegistry, Table.values, List.map_cons, List.map_nil, List.mem_singleton] at known
  subst known
  cases List.mem_singleton.mp listed
  exact ⟨"hello", rfl⟩

theorem cursor_placed_guide :
    Registry.ofRecord guideContent = .ok guideRegistry ∧ guideRegistry.Spelled ∧
      Played guideRegistry guideTalks.after ∧
      (guideTalks.after.state.cursor = none ∨
        ∃ place, guideTalks.after.state.cursor = some place ∧ guideRegistry.Places place) ∧
      ∃ view, Play.call guideGame guideTalks.call guideTalks.session =
        .ok (.view view) guideTalks.after ∧ view.dialogue.isSome := by
  obtain ⟨placed, lines⟩ := cursor_placed guide_read guide_spelled guide_played
  obtain ⟨view, shown⟩ := guide_shows
  have talks : guideTalks.after.phase = .inDialogue := by decide +kernel
  have line := (lines guideGame guideTalks.call guideTalks.session view rfl shown).mpr talks
  exact ⟨guide_read, guide_spelled, guide_played, placed, view, shown, line⟩

end Fabula
