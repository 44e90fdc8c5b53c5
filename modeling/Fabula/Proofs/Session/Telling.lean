import Fabula.Console
import Fabula.Proofs.Session.Answering
/-!
# Telling what a session does

A session does not remember which effects it has applied or which nodes it has come to. An account
is a session together with its deeds: every change of the state in order, each named for what it is.
Here all calls are carried out once more on accounts. Main statement:

* `retells_call`: a call that is told of is the same call.
-/

namespace Fabula
variable {α β : Type} {game : Game}

/-! ## Deeds -/

inductive Deed where
  | apply (effects : List Effect)
  | arrive (dialogue : Dialogue) (node : Node)
  | hop (dialogue : Dialogue) (target : Value)
  | leave
  | fire (interlude : Interlude)
  | wait (hours : Int)
  | depart (location : Value)
  | carry (item : Value)
  | write (note : Note)
  | delete (id : Value)
  | translate (locale : Value)
  | command (command : Command)
  | begin (setup : Setup)
  | restore (state : GameState)
  | clear

structure Account where
  session : Session
  deeds : List Deed

abbrev Telling (α : Type) : Type :=
  EStateM Failure Account α

namespace Telling

def silently (computation : Play α) : Telling α := fun account =>
  match computation account.session with
  | .ok a session => .ok a { account with session }
  | .error failure session => .error failure { account with session }

instance : MonadLift Play Telling where
  monadLift := silently

def put (deed : Deed) (state : GameState) : Telling Unit :=
  modify fun account =>
    { session := { account.session with state }, deeds := account.deeds ++ [deed] }

def setCursor (deed : Deed) (cursor : Option Cursor) : Telling Unit := do
  put deed { ← Play.state with cursor }

def endDialogue : Telling Unit :=
  setCursor .leave none

/-! ## Effects and the clock -/

def alter (game : Game) (deed : Deed) (change : GameState → Rolling GameState) (reason : String) :
    Telling Unit := do
  let before ← Play.state
  let after ← Play.rolling game (change before)
  put deed after
  if !after.time.same before.time then
    Play.logTimeStep game before.time after.time (Play.hoursBetween before.time after.time) reason

def perform (game : Game) (effects : List Effect) (reason : String) : Telling Unit :=
  alter game (.apply effects) (Effect.applyAll · effects) reason

def advanceClock (game : Game) (hours : Int) (reason : String) : Telling Unit := do
  let before ← Play.state
  let time ← before.time.advance (.int hours)
  put (.wait hours) { before with time }
  Play.logTimeStep game before.time time (.ok (.int hours)) reason

/-! ## Walking -/

def hop (game : Game) (dialogue : Dialogue) (node : Node) : Telling Unit := do
  match ← Play.findTarget game node with
  | none => endDialogue
  | some target =>
    if (dialogue.findNode? target).isSome then
      setCursor (.hop dialogue target) (some ⟨dialogue.id, target⟩)
    else endDialogue

def arrive (game : Game) (follow : Telling Bool) (dialogue : Dialogue) (node : Node) :
    Telling Unit := do
  let cursor : Cursor := ⟨dialogue.id, node.id⟩
  setCursor (.arrive dialogue node) (some cursor)
  perform game node.effects ("node " ++ dialogue.id.display ++ ":" ++ node.id.display)
  if ← follow then return
  if node.choices.isEmpty && Cursor.sameOption (← Play.state).cursor (some cursor) then
    hop game dialogue node

def enter (game : Game) (follow : Telling Bool) (id : Value) : Telling Unit := do
  match ← Play.findStart game id with
  | some (dialogue, start) => arrive game follow dialogue start
  | none => if (← Play.pending).isSome then endDialogue

def followWithin (game : Game) : Nat → Telling Bool
  | 0 => do
    if (← Play.pending).isNone then return false
    endDialogue
    return true
  | limit + 1 => do
    let some id ← Play.pending | return false
    enter game (followWithin game limit) id
    return true

def follow (game : Game) : Telling Bool :=
  followWithin game game.settings.redirectLimit

def fireDialogue (game : Game) (location : Value) : Telling Unit := do
  match ← silently (game.registry.dialogues.values.findM? (Play.firesAt game location)) with
  | some dialogue => enter game (follow game) dialogue.id
  | none => pure ()

def fireInterlude (game : Game) (location : Value) : Telling Unit := do
  let fires := Play.interludeFiresAt game location
  match ← silently (game.registry.interludes.values.findM? fires) with
  | some interlude => do
    put (.fire interlude) { ← Play.state with interlude := interlude.id }
    perform game interlude.effects ("interlude " ++ interlude.id.display)
  | none => pure ()

def fireTriggers (game : Game) : Telling Unit := do
  let location := (← Play.state).location
  fireDialogue game location
  fireInterlude game location

def finish (game : Game) (trigger : String) : Telling View := do
  let _ ← follow game
  Play.observe game trigger
  let view ← Play.rolling game (View.build game.registry game.settings (← Play.state))
  put .clear (← Play.state).clearCues
  return view

/-! ## Actions -/

def load (game : Game) (save : Save) : Telling Unit := do
  Play.logAction game "load_game" [("timestamp", save.timestamp)]
  put (.restore save.state) save.state

def take (game : Game) (dialogue : Dialogue) (choice : Choice) (id : Value) : Telling Unit := do
  perform game choice.effects ("choice " ++ id.display)
  if ← follow game then return
  let target := if choice.next.isPresent then dialogue.findNode? choice.next else none
  match target with
  | some node => arrive game (follow game) dialogue node
  | none => endDialogue

def travelAlong (game : Game) (travelMap : TravelMap) (origin destination : Marker)
    (location : Value) : Telling Unit := do
  let hours ← Play.travelHours travelMap origin destination
  put (.depart location) { ← Play.state with location, cursor := none }
  advanceClock game hours ("travel to " ++ location.display)
  fireTriggers game

def lead (game : Game) : Action → Telling Unit
  | .newGame setup => do
    Play.logAction game "new_game" [("start_location", setup.location)]
    put (.begin setup) (.initial game setup)
    Play.requireTime
    fireTriggers game
  | .load save => load game save
  | .loadRecord data => do
    let save ← Save.ofRecord game.now.text data
    load game save
  | .save => pure ()
  | .selectChoice id => do
    Play.logAction game "select_choice" [("choice_id", id)]
    match ← Play.currentNode game with
    | some (dialogue, node) =>
      match node.findChoice? id with
      | some choice => take game dialogue choice id
      | none => pure ()
    | none => pure ()
  | .talkTo id => do
    Play.logAction game "talk_to" [("character_id", id)]
    match ← game.registry.characters.lookup id with
    | some character =>
      if character.dialogue.isPresent then enter game (follow game) character.dialogue
    | none => pure ()
  | .continueDialogue => do
    Play.logAction game "continue_dialogue" []
    match ← Play.currentNode game with
    | some (dialogue, node) => if node.choices.isEmpty then hop game dialogue node
    | none => pure ()
  | .takeItem item => do
    Play.logAction game "take_item" [("item_id", item)]
    let state ← Play.state
    let place := (← state.itemLocations.lookup item).getD .null
    if place.same state.location then put (.carry item) (← state.carryItem item)
  | .travelTo location => do
    Play.logAction game "travel" [("location_id", location)]
    let state ← Play.state
    if state.mapEnabled.isPresent then
      match Play.findRoute game state.location location with
      | some (travelMap, origin, destination) =>
        travelAlong game travelMap origin destination location
      | none => pure ()
  | .writeNote title text => do
    silently (modify fun session => { session with notes := session.notes + 1 })
    let id := Play.noteId (← (get : Play Session)).notes
    Play.logAction game "write_note" [("note_id", .text id)]
    let state ← Play.state
    let note : Note := ⟨id, title, text⟩
    put (.write note) { state with notes := state.notes ++ [note] }
  | .deleteNote id => do
    Play.logAction game "delete_note" [("note_id", id)]
    let state ← Play.state
    put (.delete id) { state with notes := state.notes.filter fun note => !note.id.same id }
  | .setLocale locale => do
    Play.logAction game "set_locale" [("locale", locale)]
    let _ ← game.registry.locales.lookup locale
    put (.translate locale) { ← Play.state with locale }
  | .look => pure ()
  | .debug effects label => do
    Play.logAction game "debug" [("command", label)]
    perform game effects ("debug " ++ label.display)

def trigger : Action → String
  | .newGame _ => "new_game"
  | .load _ | .loadRecord _ => "load_game"
  | .save => "save_game"
  | .selectChoice _ => "select_choice"
  | .talkTo _ => "talk_to"
  | .continueDialogue => "continue_dialogue"
  | .takeItem _ => "take_item"
  | .travelTo _ => "travel"
  | .writeNote _ _ => "write_note"
  | .deleteNote _ => "delete_note"
  | .setLocale _ => "set_locale"
  | .look => "get_snapshot"
  | .debug _ _ => "debug"

def act (game : Game) (action : Action) : Telling Reply := do
  match action with
  | .save => return .save (← Play.save game)
  | action =>
    lead game action
    return .view (← finish game (trigger action))

/-! ## Commands -/

def change (game : Game) (label : String) (command : Command) : Telling Reply := do
  Play.logAction game "debug" [("command", .text label)]
  alter game (.command command) (fun state => command.update state) ("debug " ++ label)
  return .view (← finish game "debug")

def run (game : Game) : Command → Telling Reply
  | .setFlag flag => change game "set_flag" (.setFlag flag)
  | .clearFlag flag => change game "clear_flag" (.clearFlag flag)
  | .setVariable name value => change game "set_variable" (.setVariable name value)
  | .teleport location => do
    match ← game.registry.locations.lookup location with
    | some _ => change game "teleport" (.teleport location)
    | none => Play.refuse location
  | .triggerDialogue dialogue => do
    match ← Play.findStart game dialogue with
    | some _ => change game "trigger_dialogue" (.triggerDialogue dialogue)
    | none => Play.refuse dialogue
  | .setQuestStage quest stage => change game "set_quest_stage" (.setQuestStage quest stage)
  | .addItem item => do
    if Value.memberOf item (← Play.state).inventory then Play.refuse item
    else change game "add_item" (.addItem item)
  | .removeItem item => do
    if Value.memberOf item (← Play.state).inventory then
      change game "remove_item" (.removeItem item)
    else Play.refuse item
  | .getVariable name => Play.run game (.getVariable name)
  | .inspect => Play.run game .inspect
  | .inspectState => Play.run game .inspectState
  | .inspectRegistry => Play.run game .inspectRegistry

def runLine (game : Game) (line : String) : Telling Reply := do
  match ← Play.commandWords line with
  | [] => Play.nothing
  | name :: words =>
    if !Command.names.contains name then return ← Play.nothing
    let arguments ← Command.argumentsOfWords name words
    match Command.of? name arguments with
    | some command => do
      Play.logCommand game name arguments
      run game command
    | none => Play.nothing

def call (game : Game) : Call → Telling Reply
  | .action action => act game action
  | .command command => run game command
  | .line line => runLine game line

end Telling

/-! ## The same computations -/

/-- Whether a computation on accounts does with the session what another one does. -/
def Retells (telling : Telling α) (computation : Play α) : Prop :=
  ∀ account, (outcome telling account).map id Account.session = outcome computation account.session

namespace Retells

theorem bind {first : Telling α} {plain : Play α} {next : α → Telling β} {rest : α → Play β}
    (early : Retells first plain) (late : ∀ a, Retells (next a) (rest a)) :
    Retells (first >>= next) (plain >>= rest) := by
  intro account
  have same := early account
  rw [outcome_bind, outcome_bind, ← same]
  cases answer : (outcome first account).1 with
  | ok a => simpa [answer] using late a (outcome first account).2
  | error failure => simp [answer]

theorem silently (computation : Play α) : Retells (Telling.silently computation) computation := by
  intro account
  cases run : computation account.session <;> simp [outcome, Telling.silently, run]

theorem pure (a : α) : Retells (pure a) (pure a) :=
  fun _ => rfl

theorem lift (result : Except Failure α) : Retells (liftM result) (liftM result) := by
  intro account
  cases result <;> rfl

theorem setCursor (deed : Deed) (cursor : Option Cursor) :
    Retells (Telling.setCursor deed cursor) (Play.setCursor cursor) :=
  fun _ => rfl

theorem put (deed : Deed) (state : GameState) :
    Retells (Telling.put deed state) (Play.setState state) :=
  fun _ => rfl

theorem alter (deed : Deed) (change : GameState → Rolling GameState) (reason : String) :
    Retells (Telling.alter game deed change reason) (Play.alter game change reason) := by
  refine .bind (.silently _) fun before => .bind (.silently _) fun after =>
    .bind (.put _ _) fun _ => ?_
  split
  · exact .silently _
  · exact .pure _

theorem perform (effects : List Effect) (reason : String) :
    Retells (Telling.perform game effects reason) (Play.perform game effects reason) :=
  .alter _ _ reason

theorem advanceClock (hours : Int) (reason : String) :
    Retells (Telling.advanceClock game hours reason) (Play.advanceClock game hours reason) :=
  .bind (.silently _) fun _ => .bind (.lift _) fun _ => .bind (.put _ _) fun _ => .silently _

/-! ## Walking -/

theorem hop (dialogue : Dialogue) (node : Node) :
    Retells (Telling.hop game dialogue node) (Play.hop game dialogue node) := by
  refine .bind (.silently _) fun target => ?_
  cases target with
  | none => exact .setCursor _ _
  | some target =>
    dsimp only
    split
    · exact .setCursor _ _
    · exact .setCursor _ _

theorem arrive {told : Telling Bool} {follow : Play Bool} (follows : Retells told follow)
    (dialogue : Dialogue) (node : Node) :
    Retells (Telling.arrive game told dialogue node) (Play.arrive game follow dialogue node) := by
  refine .bind (.setCursor _ _) fun _ => .bind (.perform _ _) fun _ =>
    .bind follows fun followed => ?_
  cases followed with
  | true => exact .pure _
  | false =>
    refine .bind (.silently _) fun state => ?_
    split
    · exact .hop dialogue node
    · exact .pure _

theorem enter {told : Telling Bool} {follow : Play Bool} (follows : Retells told follow)
    (id : Value) : Retells (Telling.enter game told id) (Play.enter game follow id) := by
  refine .bind (.lift _) fun found => ?_
  cases found with
  | some place => exact .arrive follows _ _
  | none =>
    refine .bind (.silently _) fun waiting => ?_
    split
    · exact .setCursor _ _
    · exact .pure _

theorem followWithin (limit : Nat) :
    Retells (Telling.followWithin game limit) (Play.followWithin game limit) := by
  induction limit with
  | zero =>
    refine .bind (.silently _) fun waiting => ?_
    split
    · exact .pure _
    · exact .bind (.setCursor _ _) fun _ => .pure _
  | succ limit ih =>
    refine .bind (.silently _) fun waiting => ?_
    cases waiting with
    | none => exact .pure _
    | some id => exact .bind (.enter ih id) fun _ => .pure _

theorem follow : Retells (Telling.follow game) (Play.follow game) :=
  .followWithin _

theorem fireDialogue (location : Value) :
    Retells (Telling.fireDialogue game location) (Play.fireDialogue game location) := by
  refine .bind (.silently _) fun found => ?_
  cases found with
  | some dialogue => exact .enter .follow dialogue.id
  | none => exact .pure _

theorem fireInterlude (location : Value) :
    Retells (Telling.fireInterlude game location) (Play.fireInterlude game location) := by
  refine .bind (.silently _) fun found => ?_
  cases found with
  | some interlude =>
    exact .bind (.silently _) fun _ => .bind (.put _ _) fun _ => .perform _ _
  | none => exact .pure _

theorem fireTriggers : Retells (Telling.fireTriggers game) (Play.fireTriggers game) :=
  .bind (.silently _) fun _ => .bind (.fireDialogue _) fun _ => .fireInterlude _

theorem finish (trigger : String) :
    Retells (Telling.finish game trigger) (Play.finish game trigger) :=
  .bind .follow fun _ => .bind (.silently _) fun _ => .bind (.silently _) fun _ =>
    .bind (.silently _) fun _ => .bind (.silently _) fun _ => .bind (.put _ _) fun _ => .pure _

/-! ## Actions -/

theorem load (save : Save) :
    Retells (Telling.load game save >>= fun _ => Telling.finish game "load_game")
      (Play.load game save) := by
  simp only [Telling.load, bind_assoc]
  exact .bind (.silently _) fun _ => .bind (.put _ _) fun _ => .finish _

theorem take (dialogue : Dialogue) (choice : Choice) (id : Value) :
    Retells (Telling.take game dialogue choice id) (Play.take game dialogue choice id) := by
  refine .bind (.perform _ _) fun _ => .bind .follow fun followed => ?_
  cases followed with
  | true => exact .pure _
  | false =>
    dsimp only
    generalize (if choice.next.isPresent then dialogue.findNode? choice.next else none) = target
    cases target with
    | some node => exact .arrive .follow _ _
    | none => exact .setCursor _ _

theorem travelAlong (travelMap : TravelMap) (origin destination : Marker) (location : Value) :
    Retells (Telling.travelAlong game travelMap origin destination location)
      (Play.travelAlong game travelMap origin destination location) :=
  .bind (.lift _) fun _ => .bind (.silently _) fun _ => .bind (.put _ _) fun _ =>
    .bind (.advanceClock _ _) fun _ => .fireTriggers

theorem selectChoice (id : Value) :
    Retells (Telling.lead game (.selectChoice id) >>= fun _ => Telling.finish game "select_choice")
      (Play.selectChoice game id) := by
  simp only [Telling.lead, Play.selectChoice, bind_assoc]
  refine .bind (.silently _) fun _ => .bind (.silently _) fun found => ?_
  cases found with
  | none => exact .finish _
  | some place =>
    dsimp only
    cases place.2.findChoice? id with
    | none => exact .finish _
    | some choice => exact .bind (.take _ _ _) fun _ => .finish _

theorem talkTo (id : Value) :
    Retells (Telling.lead game (.talkTo id) >>= fun _ => Telling.finish game "talk_to")
      (Play.talkTo game id) := by
  simp only [Telling.lead, Play.talkTo, bind_assoc]
  refine .bind (.silently _) fun _ => .bind (.lift _) fun found => ?_
  cases found with
  | none => exact .finish _
  | some character =>
    dsimp only
    split
    · exact .bind (.enter .follow _) fun _ => .finish _
    · exact .finish _

theorem continueDialogue :
    Retells (Telling.lead game .continueDialogue >>= fun _ =>
      Telling.finish game "continue_dialogue") (Play.continueDialogue game) := by
  simp only [Telling.lead, Play.continueDialogue, bind_assoc]
  refine .bind (.silently _) fun _ => .bind (.silently _) fun found => ?_
  cases found with
  | none => exact .finish _
  | some place =>
    dsimp only
    split
    · exact .bind (.hop _ _) fun _ => .finish _
    · exact .finish _

theorem takeItem (item : Value) :
    Retells (Telling.lead game (.takeItem item) >>= fun _ => Telling.finish game "take_item")
      (Play.takeItem game item) := by
  simp only [Telling.lead, Play.takeItem, bind_assoc]
  refine .bind (.silently _) fun _ => .bind (.silently _) fun state =>
    .bind (.lift _) fun place => ?_
  split
  · simp only [bind_assoc]
    exact .bind (.lift _) fun _ => .bind (.put _ _) fun _ => .finish _
  · exact .finish _

theorem travelTo (location : Value) :
    Retells (Telling.lead game (.travelTo location) >>= fun _ => Telling.finish game "travel")
      (Play.travelTo game location) := by
  simp only [Telling.lead, Play.travelTo, bind_assoc]
  refine .bind (.silently _) fun _ => .bind (.silently _) fun state => ?_
  split
  · generalize Play.findRoute game state.location location = route
    cases route with
    | none => exact .finish _
    | some ends => exact .bind (.travelAlong _ _ _ _) fun _ => .finish _
  · exact .finish _

theorem writeNote (title text : Value) :
    Retells (Telling.lead game (.writeNote title text) >>= fun _ =>
      Telling.finish game "write_note") (Play.writeNote game title text) := by
  simp only [Telling.lead, Play.writeNote, bind_assoc]
  exact .bind (.silently _) fun _ => .bind (.silently _) fun _ => .bind (.silently _) fun _ =>
    .bind (.silently _) fun _ => .bind (.put _ _) fun _ => .finish _

theorem act (action : Action) : Retells (Telling.act game action) (Play.act game action) := by
  have answered {told : Telling Unit} {plain : Play View} {trigger : String}
      (same : Retells (told >>= fun _ => Telling.finish game trigger) plain) :
      Retells (told >>= fun _ => Telling.finish game trigger >>= fun view => Pure.pure (.view view))
        (plain >>= fun view => Pure.pure (Reply.view view)) := by
    rw [← bind_assoc]
    exact .bind same fun _ => .pure _
  cases action with
  | newGame setup =>
    refine answered ?_
    simp only [Telling.lead, Play.newGame, bind_assoc]
    exact .bind (.silently _) fun _ => .bind (.put _ _) fun _ => .bind (.silently _) fun _ =>
      .bind .fireTriggers fun _ => .finish _
  | load save => exact answered (.load save)
  | loadRecord data =>
    simp only [Telling.act, Telling.lead, Play.act, bind_assoc]
    exact .bind (.lift _) fun save => answered (.load save)
  | save => exact .bind (.silently _) fun _ => .pure _
  | selectChoice id => exact answered (.selectChoice id)
  | talkTo id => exact answered (.talkTo id)
  | continueDialogue => exact answered .continueDialogue
  | takeItem item => exact answered (.takeItem item)
  | travelTo location => exact answered (.travelTo location)
  | writeNote title text => exact answered (.writeNote title text)
  | deleteNote id =>
    refine answered ?_
    simp only [Telling.lead, Play.deleteNote, bind_assoc]
    exact .bind (.silently _) fun _ => .bind (.silently _) fun _ => .bind (.put _ _) fun _ =>
      .finish _
  | setLocale locale =>
    refine answered ?_
    simp only [Telling.lead, Play.setLocale, bind_assoc]
    exact .bind (.silently _) fun _ => .bind (.lift _) fun _ => .bind (.silently _) fun _ =>
      .bind (.put _ _) fun _ => .finish _
  | look => exact answered (.finish _)
  | debug effects label =>
    refine answered ?_
    simp only [Telling.lead, Play.debug, Play.intervene, bind_assoc]
    exact .bind (.silently _) fun _ => .bind (.perform _ _) fun _ => .finish _

/-! ## Commands -/

theorem change (label : String) (command : Command) :
    Retells (Telling.change game label command) (Play.change game label command) := by
  simp only [Telling.change, Play.change, Play.intervene, bind_assoc]
  exact .bind (.silently _) fun _ => .bind (.alter _ _ _) fun _ =>
    .bind (.finish _) fun _ => .pure _

theorem run (command : Command) : Retells (Telling.run game command) (Play.run game command) := by
  cases command with
  | setFlag flag => exact .change _ _
  | clearFlag flag => exact .change _ _
  | setVariable name value => exact .change _ _
  | teleport location =>
    refine .bind (.lift _) fun found => ?_
    cases found with
    | none => exact .silently _
    | some known => exact .change _ _
  | triggerDialogue dialogue =>
    refine .bind (.lift _) fun found => ?_
    cases found with
    | none => exact .silently _
    | some place => exact .change _ _
  | setQuestStage quest stage => exact .change _ _
  | addItem item =>
    refine .bind (.silently _) fun state => ?_
    split
    · exact .silently _
    · exact .change _ _
  | removeItem item =>
    refine .bind (.silently _) fun state => ?_
    split
    · exact .change _ _
    · exact .silently _
  | getVariable name => exact .silently _
  | inspect => exact .silently _
  | inspectState => exact .silently (Play.run game .inspectState)
  | inspectRegistry => exact .silently (Play.run game .inspectRegistry)

theorem runLine (line : String) : Retells (Telling.runLine game line) (Play.runLine game line) := by
  refine .bind (.lift _) fun words => ?_
  cases words with
  | nil => exact .silently _
  | cons name words =>
    dsimp only
    split
    · exact .silently _
    · refine .bind (.lift _) fun arguments => ?_
      cases Command.of? name arguments with
      | some command => exact .bind (.silently _) fun _ => .run command
      | none => exact .silently _

end Retells

theorem retells_call (call : Call) : Retells (Telling.call game call) (Play.call game call) := by
  cases call with
  | action action => exact .act action
  | command command => exact .run command
  | line line => exact .runLine line

end Fabula
