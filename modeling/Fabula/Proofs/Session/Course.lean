import Fabula.Proofs.Session.Move
/-!
# The course of a call

`Moving` says of a computation that it moves the session to what it leaves, whether it returns or
fails. It has one rule for each step and one lemma for each function of a session. Main statement:

* `aftermath_of_call`: every call moves the session from the state that it opens with to what it
  leaves.
-/

namespace Fabula
variable {α β : Type} {game : Game} {call : Call}

namespace Play

structure Moving (game : Game) (call : Call) (P : GameState → Prop) (computation : Play α) :
    Prop where
  returns : ∀ session : Session, P session.state → ∀ a next,
    computation session = .ok a next → session.Moves game call next
  fails : ∀ session : Session, P session.state → ∀ failure next,
    computation session = .error failure next → session.Successor game call next

theorem Moving.ends {P : GameState → Prop} {computation : Play α}
    (moving : Moving game call P computation) {session : Session} (holds : P session.state) :
    session.Successor game call (after computation session) := by
  cases run : computation session with
  | ok a next =>
    rw [after_of_ok run]
    exact (moving.returns session holds a next run).ends
  | error failure next =>
    rw [after_of_error run]
    exact moving.fails session holds failure next run

theorem mem_of_findM? {items : List α} {check : α → Play Bool} {session next : Session} {item : α}
    (returns : items.findM? check session = .ok (some item) next) : item ∈ items := by
  induction items generalizing session with
  | nil => cases returns
  | cons first rest ih =>
    obtain ⟨found, between, checked, returns⟩ := ok_of_bind returns
    cases found with
    | true =>
      cases returns
      exact List.mem_cons_self
    | false => exact List.mem_cons_of_mem _ (ih returns)

namespace Moving
variable {P : GameState → Prop}

/-! ## Rules -/

theorem calm {computation : Play α} (calms : computation.Calms) :
    Moving game call P computation where
  returns _ _ _ _ returned := (calms.of_ok returned).moves
  fails _ _ _ _ failed := (calms.of_error failed).moves.ends

theorem pure (a : α) : Moving game call P (Pure.pure a) :=
  calm (.pure a)

theorem bind {first : Play α} {next : α → Play β} (early : Moving game call P first)
    (late : ∀ a, Moving game call (fun _ => True) (next a)) :
    Moving game call P (first >>= next) where
  returns session holds b last returned := by
    obtain ⟨a, between, starts, returned⟩ := ok_of_bind returned
    have first := early.returns session holds a between starts
    exact first.trans ((late a).returns between trivial b last returned)
  fails session holds failure last failed := by
    obtain stops | ⟨a, between, starts, failed⟩ := error_of_bind failed
    · exact early.fails session holds failure last stops
    · have first := early.returns session holds a between starts
      exact Session.Moves.trans_successor first ((late a).fails between trivial failure last failed)

theorem after_calm {first : Play α} {next : α → Play β} (calms : first.Calms)
    {F : α → Prop} (answers : ∀ session a last, first session = .ok a last → F a)
    (rest : ∀ a, F a → Moving game call P (next a)) : Moving game call P (first >>= next) where
  returns session holds b last returned := by
    obtain ⟨a, between, starts, returned⟩ := ok_of_bind returned
    have kept := calms.of_ok starts
    have holds : P between.state := by rwa [kept.state]
    have known := answers session a between starts
    exact kept.moves.trans ((rest a known).returns between holds b last returned)
  fails session holds failure last failed := by
    obtain stops | ⟨a, between, starts, failed⟩ := error_of_bind failed
    · exact (calms.of_error stops).moves.ends
    · have kept := calms.of_ok starts
      have holds : P between.state := by rwa [kept.state]
      have known := answers session a between starts
      exact kept.moves.trans_successor ((rest a known).fails between holds failure last failed)

theorem after {first : Play α} {next : α → Play β} (calms : first.Calms)
    (rest : ∀ a, Moving game call P (next a)) : Moving game call P (first >>= next) :=
  .after_calm (F := fun _ => True) calms (fun _ _ _ _ => trivial) fun a _ => rest a

theorem after_lift {result : Except Failure α} {next : α → Play β}
    (rest : ∀ a, result = .ok a → Moving game call P (next a)) :
    Moving game call P (liftM result >>= next) :=
  .after_calm (.lift result) (fun _ _ _ returned => (ok_of_lift returned).1) rest

theorem after_state {next : GameState → Play β}
    (rest : ∀ state, Moving game call (· = state) (next state)) :
    Moving game call P (Play.state >>= next) where
  returns session _ b last returned := by
    obtain ⟨state, between, asked, returned⟩ := ok_of_bind returned
    cases asked
    exact (rest session.state).returns session rfl b last returned
  fails session _ failure last failed := by
    obtain stops | ⟨state, between, asked, failed⟩ := error_of_bind failed
    · cases stops
    · cases asked
      exact (rest session.state).fails session rfl failure last failed

theorem setState {deed : Deed} {state after : GameState} (does : deed.Meaning game state after)
    (permitted : call.Permits game.registry deed) (still : after.time = state.time) :
    Moving game call (· = state) (setState after) where
  returns session holds _ _ returned := by
    subst holds
    cases returned
    exact .single (.deed does permitted (.inl still))
  fails _ _ _ _ failed := by cases failed

theorem setCursor {deed : Deed} {cursor : Option Cursor}
    (does : ∀ before, deed.Meaning game before { before with cursor })
    (permitted : call.Permits game.registry deed) :
    Moving game call P (setCursor cursor) where
  returns _ _ _ _ returned := by
    cases returned
    exact .single (.deed (does _) permitted (.inl rfl))
  fails _ _ _ _ failed := by cases failed

theorem endDialogue : Moving game call P endDialogue :=
  .setCursor (fun _ => .leave) trivial

/-! ## Effects and the clock -/

theorem put {state after : GameState} {step : Play Unit}
    (due : ∀ session : Session, session.state = state → session.Due game call after step) :
    Moving game call (· = state) (Play.setState after >>= fun _ => step) where
  returns session holds _ _ returned :=
    .single (.tick (due session holds) returned)
  fails session holds _ _ failed :=
    Session.Halt.ends ⟨due session holds, failed⟩

theorem alter {deed : Deed} {change : GameState → Rolling GameState} {reason : String}
    (does : ∀ before after roller rolled, change before roller = .ok after rolled →
      deed.Meaning game before after)
    (permitted : call.Permits game.registry deed) :
    Moving game call P (alter game change reason) := by
  refine .after_state fun before => .after_calm (.rolling _)
    (F := fun after => ∃ roller rolled, change before roller = .ok after rolled) ?_ ?_
  · intro session after last returned
    obtain ⟨rolled, changes⟩ := ok_of_rolling returned
    exact ⟨_, rolled, changes⟩
  · rintro after ⟨roller, rolled, changes⟩
    have done := does before after roller rolled changes
    cases same : after.time.same before.time with
    | false =>
      refine .put fun session holds => ?_
      subst holds
      exact .mk done permitted .between
    | true =>
      refine ⟨fun session holds _ _ returned => ?_, fun _ _ _ _ failed => by cases failed⟩
      subst holds
      cases returned
      exact .single (.deed done permitted (.inr same))

theorem perform {effects : List Effect} {reason : String}
    (applies : call.Applies game.registry effects) :
    Moving game call P (perform game effects reason) :=
  .alter (fun _ _ _ _ => .apply) applies

theorem advanceClock (hours : Int) (reason : String) :
    Moving game call P (advanceClock game hours reason) := by
  refine .after_state fun before => .after_lift fun time advances => .put fun session holds => ?_
  subst holds
  exact .mk (.wait advances) trivial (.given advances)

/-! ## Walking -/

section
variable {dialogue : Dialogue} {node : Node} {room : Nat}

theorem hop (known : dialogue ∈ game.registry.dialogues.values) :
    Moving game call P (hop game dialogue node) := by
  refine .after (.findTarget node) fun target => ?_
  cases target with
  | none => exact .endDialogue
  | some target =>
    dsimp only
    split
    · next found => exact .setCursor (fun _ => .hop known found) trivial
    · exact .endDialogue

theorem arrive {follow : Play Bool} (follows : Moving game call (fun _ => True) follow)
    (known : dialogue ∈ game.registry.dialogues.values) (listed : node ∈ dialogue.nodes) :
    Moving game call P (arrive game follow dialogue node) := by
  refine .bind (.setCursor (fun _ => .arrive known listed) trivial) fun _ =>
    .bind (.perform (.authored (.node known listed))) fun _ => .bind follows fun followed => ?_
  cases followed with
  | true => exact .pure _
  | false =>
    refine .after_state fun state => ?_
    split
    · exact .hop known
    · exact .pure _

theorem enter {follow : Play Bool} (follows : Moving game call (fun _ => True) follow)
    (id : Value) : Moving game call P (enter game follow id) := by
  refine .after_lift fun found entered => ?_
  cases found with
  | some place =>
    have known := known_of_findStart entered
    exact .arrive follows known.1 known.2
  | none =>
    refine .after .pending fun waiting => ?_
    split
    · exact .endDialogue
    · exact .pure _

theorem followWithin : Moving game call P (followWithin game room) := by
  induction room generalizing P with
  | zero =>
    refine .after .pending fun waiting => ?_
    split
    · exact .pure _
    · exact .bind .endDialogue fun _ => .pure _
  | succ room ih =>
    refine .after .pending fun waiting => ?_
    cases waiting with
    | none => exact .pure _
    | some id => exact .bind (.enter ih id) fun _ => .pure _

theorem follow : Moving game call P (follow game) :=
  .followWithin

theorem fireDialogue (location : Value) : Moving game call P (fireDialogue game location) := by
  refine .after (.findM? fun _ => .firesAt _ _) fun found => ?_
  cases found with
  | some dialogue => exact .enter .follow dialogue.id
  | none => exact .pure _

theorem fireInterlude (location : Value) : Moving game call P (fireInterlude game location) := by
  refine .after_calm (.findM? fun _ => .interludeFiresAt _ _) (F := fun found =>
    ∀ interlude, found = some interlude → interlude ∈ game.registry.interludes.values) ?_ ?_
  · rintro session found last returned interlude rfl
    exact mem_of_findM? returned
  · intro found listed
    cases found with
    | some interlude =>
      have known := listed interlude rfl
      exact .after_state fun state => .bind (.setState .fire trivial rfl) fun _ =>
        .perform (.authored (.interlude known))
    | none => exact .pure _

theorem fireTriggers : Moving game call P (fireTriggers game) :=
  .after_state fun _ => .bind (.fireDialogue _) fun _ => .fireInterlude _

theorem finish (trigger : String) : Moving game call P (finish game trigger) := by
  refine .bind .follow fun _ => .after (.observe trigger) fun _ => .after .state fun state =>
    .after (.rolling _) fun view => .after_state fun shown => .bind ?_ fun _ => .pure view
  refine ⟨fun session holds _ _ returned => ?_, fun _ _ _ _ failed => by cases failed⟩
  subst holds
  cases returned
  exact .single .clear

/-! ## Actions -/

theorem take (known : dialogue ∈ game.registry.dialogues.values) (listed : node ∈ dialogue.nodes)
    {choice : Choice} (offered : choice ∈ node.choices) (id : Value) :
    Moving game call P (take game dialogue choice id) := by
  refine .bind (.perform (.authored (.choice known listed offered))) fun _ =>
    .bind .follow fun followed => ?_
  cases followed with
  | true => exact .pure _
  | false =>
    by_cases present : choice.next.isPresent
    · simp only [present, if_true, Bool.false_eq_true, if_false]
      cases found : dialogue.findNode? choice.next with
      | none => exact .endDialogue
      | some node => exact .arrive .follow known (List.mem_of_find?_eq_some found)
    · simpa [present] using .endDialogue

theorem travelAlong (travelMap : TravelMap) (origin destination : Marker) (location : Value) :
    Moving game call P (travelAlong game travelMap origin destination location) :=
  .after_lift fun _ _ => .after_state fun _ => .bind (.setState .depart trivial rfl)
    fun _ => .bind (.advanceClock _ _) fun _ => .fireTriggers

theorem after_current {next : Option (Dialogue × Node) → Play β}
    (nowhere : Moving game call P (next none))
    (there : ∀ dialogue node, dialogue ∈ game.registry.dialogues.values → node ∈ dialogue.nodes →
      Moving game call P (next (some (dialogue, node)))) :
    Moving game call P (currentNode game >>= next) := by
  refine .after_calm .currentNode (F := fun found => ∀ place, found = some place →
    place.1 ∈ game.registry.dialogues.values ∧ place.2 ∈ place.1.nodes) ?_ fun found known => ?_
  · rintro session _ last returned place rfl
    obtain ⟨_, _, looked, first⟩ :=
      View.currentNode?_eq_some.mp (current_of_ok returned).1
    exact ⟨Table.mem_of_lookup looked, List.mem_of_find?_eq_some first⟩
  · cases found with
    | none => exact nowhere
    | some place => exact there place.1 place.2 (known place rfl).1 (known place rfl).2

theorem selectChoice (id : Value) : Moving game call P (selectChoice game id) := by
  refine .after (.logAction _ _) fun _ => .after_current (.finish _) fun dialogue node known
    listed => ?_
  dsimp only
  cases found : node.findChoice? id with
  | some choice =>
    have offered := List.mem_of_find?_eq_some found
    exact .bind (.take known listed offered id) fun _ => .finish _
  | none => exact .finish _

theorem talkTo (id : Value) : Moving game call P (talkTo game id) := by
  refine .after (.logAction _ _) fun _ => .after_lift fun found _ => ?_
  cases found with
  | none => exact .finish _
  | some character =>
    dsimp only
    split
    · exact .bind (.enter .follow _) fun _ => .finish _
    · exact .finish _

theorem continueDialogue : Moving game call P (continueDialogue game) := by
  refine .after (.logAction _ _) fun _ => .after_current (.finish _) fun dialogue node known _ => ?_
  dsimp only
  split
  · exact .bind (.hop known) fun _ => .finish _
  · exact .finish _

theorem takeItem (item : Value) : Moving game call P (takeItem game item) := by
  refine .after (.logAction _ _) fun _ => .after_state fun state => .after_lift fun place _ => ?_
  dsimp only
  split
  · refine .after_lift fun carrying carries => .bind (.setState (.carry carries) trivial ?_)
      fun _ => .finish _
    obtain ⟨_, _, rfl⟩ := carryItem_eq carries
    rfl
  · exact .finish _

theorem travelTo (location : Value) : Moving game call P (travelTo game location) := by
  refine .after (.logAction _ _) fun _ => .after .state fun state => ?_
  split
  · split
    · exact .bind (.travelAlong _ _ _ _) fun _ => .finish _
    · exact .finish _
  · exact .finish _

theorem writeNote (writes : call.writes) (title text : Value) :
    Moving game call P (writeNote game title text) :=
  .after (.modify fun _ => ⟨rfl, .refl _⟩) fun _ => .after .session fun _ =>
    .after (.logAction _ _) fun _ => .after_state fun _ =>
      .bind (.setState .write writes rfl) fun _ => .finish _

theorem deleteNote (writes : call.writes) (id : Value) :
    Moving game call P (deleteNote game id) :=
  .after (.logAction _ _) fun _ => .after_state fun _ =>
    .bind (.setState .delete writes rfl) fun _ => .finish _

theorem setLocale (translates : call.translates) (locale : Value) :
    Moving game call P (setLocale game locale) :=
  .after (.logAction _ _) fun _ => .after_lift fun _ _ => .after_state fun _ =>
    .bind (.setState .translate translates rfl) fun _ => .finish _

theorem debug {effects : List Effect} (applies : call.Applies game.registry effects)
    (label : Value) : Moving game call P (debug game effects label) :=
  .after (.logAction _ _) fun _ => .bind (.perform applies) fun _ => .finish _

end

theorem act {action : Action} (goesOn : action.resets = false) :
    Moving game (.action action) P (act game action) := by
  cases action with
  | newGame setup => cases goesOn
  | load save => cases goesOn
  | loadRecord data => cases goesOn
  | save => exact .bind (.calm .save) fun _ => .pure _
  | selectChoice id => exact .bind (.selectChoice id) fun _ => .pure _
  | talkTo character => exact .bind (.talkTo character) fun _ => .pure _
  | continueDialogue => exact .bind .continueDialogue fun _ => .pure _
  | takeItem item => exact .bind (.takeItem item) fun _ => .pure _
  | travelTo location => exact .bind (.travelTo location) fun _ => .pure _
  | writeNote title text => exact .bind (.writeNote rfl title text) fun _ => .pure _
  | deleteNote id => exact .bind (.deleteNote rfl id) fun _ => .pure _
  | setLocale locale => exact .bind (.setLocale rfl locale) fun _ => .pure _
  | look => exact .bind (.finish _) fun _ => .pure _
  | debug effects label => exact .bind (.debug (.debug effects label) label) fun _ => .pure _

/-! ## Commands -/

theorem nothing : Moving game call P nothing :=
  .pure _

theorem refuse (given : Value) : Moving game call P (refuse given) :=
  .after_lift fun _ _ => .pure _

theorem change {label : String} (command : Command) :
    Moving game call P (change game label command) :=
  .bind (.after (.logAction _ _) fun _ => .bind (.alter (fun _ _ _ _ updates =>
    .command (ok_of_lifted updates)) trivial) fun _ => .finish _) fun _ => .pure _

theorem run (command : Command) : Moving game call P (run game command) := by
  cases command with
  | setFlag flag => exact .change (.setFlag flag)
  | clearFlag flag => exact .change (.clearFlag flag)
  | setVariable name value => exact .change (.setVariable name value)
  | teleport location =>
    refine .after_lift fun found _ => ?_
    cases found with
    | none => exact .refuse _
    | some known => exact .change (.teleport location)
  | triggerDialogue dialogue =>
    refine .after_lift fun found _ => ?_
    cases found with
    | none => exact .refuse _
    | some place => exact .change (.triggerDialogue dialogue)
  | setQuestStage quest stage => exact .change (.setQuestStage quest stage)
  | addItem item =>
    refine .after .state fun state => ?_
    split
    · exact .refuse _
    · exact .change (.addItem item)
  | removeItem item =>
    refine .after .state fun state => ?_
    split
    · exact .change (.removeItem item)
    · exact .refuse _
  | getVariable name =>
    exact .after .state fun _ => .after_lift fun _ _ => .after_lift fun _ _ => .pure _
  | inspect => exact .after .session fun _ => .after_lift fun _ _ => .pure _
  | inspectState => exact .after .state fun _ => .pure _
  | inspectRegistry => exact .pure _

theorem runLine (line : String) : Moving game call P (runLine game line) := by
  refine .after_lift fun words _ => ?_
  cases words with
  | nil => exact .nothing
  | cons name words =>
    dsimp only
    split
    · exact .nothing
    · refine .after_lift fun arguments _ => ?_
      cases Command.of? name arguments with
      | some command => exact .after (.logCommand _ _) fun _ => .run command
      | none => exact .nothing

/-! ## Calls -/

theorem answer (goesOn : call.resets = false) : Moving game call P (Play.call game call) := by
  cases call with
  | action action => exact .act goesOn
  | command command => exact .run command
  | line line => exact .runLine line

end Moving

end Play

/-! ## Openings -/

/-- What a call leaves: what it has asked and logged, if it fails before it opens, or else what it
moves to from the state that it opens with. -/
inductive Call.Aftermath (game : Game) (call : Call) (session : Session) : Session → Prop
  | early {next : Session} {failure : Failure}
      (fails : Play.call game call session = .error failure next) (calm : session.Calm next) :
      Aftermath game call session next
  | opened {middle next : Session} {opening : List Deed} {start : GameState}
      (calm : session.Calm middle) (logged : call.resets = true → middle.log.Logged)
      (opens : call.Opening game session.state opening start)
      (ends : ({ middle with state := start } : Session).Successor game call next) :
      Aftermath game call session next

namespace Play
variable {session : Session} {opening : List Deed} {start : GameState}

theorem logged_of_logAction {name : String} {arguments : List (String × Value)} {next : Session}
    (returns : logAction game name arguments session = .ok () next) : next.log.Logged := by
  have logged := outcome_of_ok returns
  rw [logAction, outcome_record] at logged
  cases records : session.clockedLog.logAction game.now name
      ⟨arguments.map fun argument => (.text argument.1, argument.2)⟩ with
  | error failure => simp [records] at logged
  | ok kept =>
    simp only [records, Prod.mk.injEq, true_and] at logged
    subst logged
    exact RunLog.logged_of_record records

theorem aftermath_of_opening {name : String} {arguments : List (String × Value)} {rest : Play Reply}
    (same : Play.call game call = logAction game name arguments >>= fun _ =>
      setState start >>= fun _ => rest)
    (opens : call.Opening game session.state opening start)
    (moving : Moving game call (fun _ => True) rest) :
    call.Aftermath game session (after (Play.call game call) session) := by
  have calms : (logAction game name arguments).Calms := .logAction _ _
  cases run : logAction game name arguments session with
  | error failure middle =>
    have fails : Play.call game call session = .error failure middle := by
      rw [same, bind_of_error run]
    rw [after_of_error fails]
    exact .early fails (calms.of_error run)
  | ok a middle =>
    have left : after (Play.call game call) session =
        after rest { middle with state := start } := by
      rw [same, after, outcome, bind_of_ok run]
      rfl
    rw [left]
    exact .opened (calms.of_ok run) (fun _ => logged_of_logAction run) opens (moving.ends trivial)

theorem call_newGame (game : Game) (setup : Setup) : Play.call game (.action (.newGame setup)) =
    logAction game "new_game" [("start_location", setup.location)] >>= fun _ =>
      setState (.initial game setup) >>= fun _ => requireTime >>= fun _ =>
        fireTriggers game >>= fun _ => finish game "new_game" >>= fun view =>
          pure (.view view) := by
  simp only [Play.call, Play.act, Play.newGame, bind_assoc]

theorem aftermath_newGame (setup : Setup) : Call.Aftermath game (.action (.newGame setup)) session
    (after (Play.call game (.action (.newGame setup))) session) :=
  aftermath_of_opening (call_newGame game setup) (.newGame setup) <|
    .bind (.calm .requireTime) fun _ => .bind .fireTriggers fun _ => .bind (.finish _) fun _ =>
      .pure _

theorem aftermath_load {save : Save} {call : Call}
    (same : Play.call game call = load game save >>= fun view => pure (.view view))
    (opens : call.Opening game session.state opening save.state) :
    call.Aftermath game session (after (Play.call game call) session) := by
  have logs : Play.call game call =
      logAction game "load_game" [("timestamp", save.timestamp)] >>= fun _ =>
        setState save.state >>= fun _ => finish game "load_game" >>= fun view =>
          pure (.view view) := by
    rw [same]
    simp only [Play.load, bind_assoc]
  exact aftermath_of_opening logs opens (.bind (.finish _) fun _ => .pure _)

end Play

theorem aftermath_of_call (game : Game) (call : Call) (session : Session) :
    call.Aftermath game session (Play.after (Play.call game call) session) := by
  cases resets : call.resets with
  | false =>
    have moving : Play.Moving game call (fun _ => True) (Play.call game call) := .answer resets
    have plain : call.resets = true → session.log.Logged := fun opens => by simp [resets] at opens
    exact .opened (.refl session) plain (.other resets) (moving.ends trivial)
  | true =>
    cases call with
    | command command => cases resets
    | line line => cases resets
    | action action =>
      cases action with
      | newGame setup => exact Play.aftermath_newGame setup
      | load save => exact Play.aftermath_load rfl (.load save)
      | loadRecord data =>
        cases read : Save.ofRecord game.now.text data with
        | ok save =>
          refine Play.aftermath_load ?_ (.loadRecord read)
          simp only [Play.call, Play.act, read]
          rfl
        | error failure =>
          have fails : Play.call game (.action (.loadRecord data)) session =
              .error failure session := by
            simp only [Play.call, Play.act, read]
            rfl
          rw [Play.after_of_error fails]
          exact .early fails (.refl session)
      | _ => cases resets

/-! ## What a turn keeps -/

namespace Turn
variable {turn : Turn}

theorem Begins.opens (begins : turn.Begins) :
    ∃ middle opening start, turn.session.Calm middle ∧
      (turn.call.resets = true → middle.log.Logged) ∧
      turn.call.Opening turn.game turn.session.state opening start ∧
        ({ middle with state := start } : Session).Successor turn.game turn.call turn.after := by
  cases aftermath_of_call turn.game turn.call turn.session with
  | early fails calm => exact absurd calm.state (begins _ _ fails)
  | opened calm logged opens ends => exact ⟨_, _, _, calm, logged, opens, ends⟩

section
variable {I : GameState → Prop}
  (does : ∀ (deed : Deed) (before after : GameState), deed.Meaning turn.game before after →
    turn.call.Permits turn.game.registry deed → I before → I after)
  (clears : ∀ state : GameState, I state → I state.clearCues)
include does clears

theorem Begins.keeps (begins : turn.Begins)
    (starts : ∀ opening start, turn.call.Opening turn.game turn.session.state opening start →
      I start) : I turn.after.state := by
  obtain ⟨_, _, _, _, _, opens, ends⟩ := begins.opens
  exact ends.keeps does clears (starts _ _ opens)

theorem keeps
    (starts : ∀ opening start, turn.call.Opening turn.game turn.session.state opening start →
      I start)
    (holds : I turn.session.state) : I turn.after.state := by
  cases aftermath_of_call turn.game turn.call turn.session with
  | early _ calm =>
    rw [Turn.after, calm.state]
    exact holds
  | opened _ _ opens ends => exact ends.keeps does clears (starts _ _ opens)

theorem keeps_of_goesOn (goesOn : turn.call.resets = false) (holds : I turn.session.state) :
    I turn.after.state := by
  refine keeps does clears (fun opening start opens => ?_) holds
  obtain ⟨game, call, session⟩ := turn
  cases opens with
  | other => exact holds
  | _ => cases goesOn

end

end Turn
end Fabula
