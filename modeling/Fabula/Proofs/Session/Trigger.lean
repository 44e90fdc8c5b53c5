import Fabula.Proofs.Content.Keyed
import Fabula.Proofs.Session.Asking
/-!
# What fires at a location

Where a session arrives, the first dialogue that is triggered there fires and then, in the state
that entering it has left, the first interlude. The conditions of what comes first are asked first,
and what is asked is all that choosing does to the dice. Main statements:

* `Chosen.unique`: content, state and dice determine what fires and which conditions are asked;
* `search_of_findM?`: what a search does;
* `triggers_fire`: what fires on a new game and on arriving by travel.
-/

namespace Fabula
variable {α β : Type} {game : Game} {state : GameState} {location : Value}
  {session next : Session}

structure Trigger where
  location : Value
  conditions : List Condition
  ready : Bool

def Dialogue.trigger (dialogue : Dialogue) : Trigger :=
  ⟨dialogue.triggerLocation, dialogue.conditions, dialogue.start?.isSome⟩

def Interlude.trigger (interlude : Interlude) : Trigger :=
  ⟨interlude.triggerLocation, interlude.conditions, true⟩

namespace Trigger

structure Fires (state : GameState) (location : Value) (roller : Roller) (trigger : Trigger) :
    Prop where
  here : trigger.location.same location
  pass : PassInTurn state roller trigger.conditions
  ready : trigger.ready

/-- Why something does not fire, with the conditions that are asked to find out. That it cannot
begin is seen last. -/
inductive Declines (state : GameState) (location : Value) (roller : Roller) (trigger : Trigger) :
    List Condition → Prop
  | elsewhere (elsewhere : trigger.location.same location = false) :
      Declines state location roller trigger []
  | stopped {asked : List Condition} (here : trigger.location.same location)
      (stops : StopAt state roller trigger.conditions asked) :
      Declines state location roller trigger asked
  | unready (here : trigger.location.same location)
      (pass : PassInTurn state roller trigger.conditions) (unready : trigger.ready = false) :
      Declines state location roller trigger trigger.conditions

variable {roller : Roller} {trigger : Trigger} {asked others : List Condition}

theorem Declines.not_fires (declines : trigger.Declines state location roller asked) :
    ¬ trigger.Fires state location roller := by
  rintro ⟨here, pass, ready⟩
  cases declines with
  | elsewhere elsewhere => simp [elsewhere] at here
  | stopped _ stops => exact stops.not_pass pass
  | unready _ _ unready => simp [unready] at ready

theorem Declines.unique (declines : trigger.Declines state location roller asked)
    (again : trigger.Declines state location roller others) : asked = others := by
  cases declines with
  | elsewhere elsewhere =>
    cases again with
    | elsewhere => rfl
    | stopped here | unready here => simp [elsewhere] at here
  | stopped here stops =>
    cases again with
    | elsewhere elsewhere => simp [elsewhere] at here
    | stopped _ stopsAgain => exact stops.unique stopsAgain
    | unready _ pass => exact absurd pass stops.not_pass
  | unready here pass =>
    cases again with
    | elsewhere elsewhere => simp [elsewhere] at here
    | stopped _ stops => exact absurd pass stops.not_pass
    | unready => rfl

end Trigger

inductive DeclineInTurn (state : GameState) (location : Value) :
    Roller → List Trigger → List Condition → Prop
  | nil {roller : Roller} : DeclineInTurn state location roller [] []
  | cons {roller : Roller} {trigger : Trigger} {rest : List Trigger}
      {asked others : List Condition} (declines : trigger.Declines state location roller asked)
      (below : DeclineInTurn state location (roller.afterAsking asked) rest others) :
      DeclineInTurn state location roller (trigger :: rest) (asked ++ others)

/-- What fires of a list of things with triggers, and the conditions that are asked until that is
found: it is the first that fires, everything before it declines, and what comes after it is not
asked. -/
inductive Chosen (trigger : α → Trigger) (state : GameState) (location : Value) (roller : Roller)
    (things : List α) : Option α → List Condition → Prop
  | nothing {asked : List Condition}
      (decline : DeclineInTurn state location roller (things.map trigger) asked) :
      Chosen trigger state location roller things none asked
  | first {before after : List α} {thing : α} {asked : List Condition}
      (split : things = before ++ thing :: after)
      (decline : DeclineInTurn state location roller (before.map trigger) asked)
      (fires : (trigger thing).Fires state location (roller.afterAsking asked)) :
      Chosen trigger state location roller things (some thing)
        (asked ++ (trigger thing).conditions)

namespace Chosen
variable {trigger : α → Trigger} {roller : Roller} {thing : α} {things : List α}
  {found : Option α} {asked : List Condition}

theorem cons_fires (fires : (trigger thing).Fires state location roller) :
    Chosen trigger state location roller (thing :: things) (some thing)
      (trigger thing).conditions :=
  .first (List.nil_append _).symm .nil fires

theorem cons_declines {others : List Condition}
    (declines : (trigger thing).Declines state location roller asked)
    (chosen : Chosen trigger state location (roller.afterAsking asked) things found others) :
    Chosen trigger state location roller (thing :: things) found (asked ++ others) := by
  cases chosen with
  | nothing decline => exact .nothing (.cons declines decline)
  | @first before after other early split decline fires =>
    have wider : thing :: things = (thing :: before) ++ other :: after := congrArg _ split
    rw [← Roller.afterAsking_append] at fires
    rw [← List.append_assoc]
    exact .first wider (.cons declines decline) fires

theorem of_nil (chosen : Chosen trigger state location roller [] found asked) :
    found = none ∧ asked = [] := by
  cases chosen with
  | nothing decline =>
    cases decline
    exact ⟨rfl, rfl⟩
  | first split => simp at split

theorem cons_cases (chosen : Chosen trigger state location roller (thing :: things) found asked) :
    ((trigger thing).Fires state location roller ∧ found = some thing ∧
        asked = (trigger thing).conditions) ∨
      ∃ early others, (trigger thing).Declines state location roller early ∧
        Chosen trigger state location (roller.afterAsking early) things found others ∧
          asked = early ++ others := by
  cases chosen with
  | nothing decline =>
    cases decline with
    | cons declines below => exact .inr ⟨_, _, declines, .nothing below, rfl⟩
  | @first before after _ _ split decline fires =>
    cases before with
    | nil =>
      cases split
      cases decline
      exact .inl ⟨fires, rfl, rfl⟩
    | cons first before =>
      cases split
      cases decline with
      | cons declines below =>
        rw [Roller.afterAsking_append] at fires
        exact .inr ⟨_, _, declines, .first rfl below fires, List.append_assoc ..⟩

theorem unique {other : Option α} {others : List Condition}
    (chosen : Chosen trigger state location roller things found asked)
    (again : Chosen trigger state location roller things other others) :
    found = other ∧ asked = others := by
  induction things generalizing roller asked others with
  | nil =>
    obtain ⟨rfl, rfl⟩ := chosen.of_nil
    obtain ⟨rfl, rfl⟩ := again.of_nil
    exact ⟨rfl, rfl⟩
  | cons thing things ih =>
    obtain ⟨fires, rfl, rfl⟩ | ⟨early, late, declines, below, rfl⟩ := chosen.cons_cases
    · obtain ⟨_, rfl, rfl⟩ | ⟨_, _, declines, _, _⟩ := again.cons_cases
      · exact ⟨rfl, rfl⟩
      · exact absurd fires declines.not_fires
    · obtain ⟨fires, _, _⟩ | ⟨_, _, declinesAgain, belowAgain, rfl⟩ := again.cons_cases
      · exact absurd fires declines.not_fires
      · obtain rfl := declines.unique declinesAgain
        obtain ⟨rfl, rfl⟩ := ih below belowAgain
        exact ⟨rfl, rfl⟩

theorem mem_ready (chosen : Chosen trigger state location roller things (some thing) asked) :
    thing ∈ things ∧ (trigger thing).ready := by
  cases chosen with
  | first split decline fires => exact ⟨by simp [split], fires.ready⟩

end Chosen

/-- What it takes a session to find what fires at a location. Conditions are asked, each roll
condition among them draws once, and nothing else happens to the state and the dice. -/
structure TriggerSearch (trigger : α → Trigger) (location : Value) (things : List α)
    (session : Session) (found : Option α) (next : Session) : Prop where
  state : next.state = session.state
  asked : ∃ asked draws, Chosen trigger session.state location session.dice things found asked ∧
    next.dice = session.dice.afterAsking asked ∧ next.roller.draws = session.roller.draws ++ draws ∧
    draws.map Draw.request = asked.filterMap Condition.request?

namespace Play

def check (game : Game) (location : Value) (trigger : Trigger) : Play Bool := do
  if !trigger.location.same location then return false
  if !(← allPass game trigger.conditions) then return false
  return trigger.ready

theorem firesAt_eq : firesAt game location =
    fun dialogue => check game location dialogue.trigger := rfl

theorem interludeFiresAt_eq : interludeFiresAt game location =
    fun interlude => check game location interlude.trigger := by
  have passes (pass : Bool) : (if (!pass) = true then pure false else pure true : Play Bool) =
      pure pass := by cases pass <;> rfl
  funext interlude
  simp only [interludeFiresAt, check, Interlude.trigger, passes, bind_pure]

theorem ok_of_check {trigger : Trigger} {fires : Bool}
    (returns : check game location trigger session = .ok fires next) :
    next.state = session.state ∧
      (fires = true ∧ trigger.Fires session.state location session.dice ∧
          next.dice = session.dice.afterAsking trigger.conditions ∨
        fires = false ∧ ∃ asked, trigger.Declines session.state location session.dice asked ∧
          next.dice = session.dice.afterAsking asked) := by
  unfold check at returns
  cases here : trigger.location.same location with
  | false =>
    simp only [here, Bool.not_false, if_true] at returns
    cases returns
    exact ⟨rfl, .inr ⟨rfl, [], .elsewhere here, rfl⟩⟩
  | true =>
    simp only [here, Bool.not_true, Bool.false_eq_true, if_false] at returns
    obtain ⟨passes, between, asks, returns⟩ := ok_of_bind returns
    obtain ⟨_, _, stands, asks⟩ := ok_of_bind asks
    cases stands
    obtain ⟨rolls, same⟩ := rolled_of_rolling (drawn_allPass _ _) asks
    obtain ⟨rfl, pass, dice⟩ | ⟨rfl, asked, stops, dice⟩ := ok_of_allPass rolls
    · cases returns
      refine ⟨same, ?_⟩
      cases ready : trigger.ready with
      | true => exact .inl ⟨rfl, ⟨here, pass, ready⟩, dice⟩
      | false => exact .inr ⟨rfl, _, .unready here pass ready, dice⟩
    · cases returns
      exact ⟨same, .inr ⟨rfl, asked, .stopped here stops, dice⟩⟩

theorem chosen_of_findM? {trigger : α → Trigger} {things : List α} {found : Option α}
    (returns : things.findM? (fun thing => check game location (trigger thing)) session =
      .ok found next) :
    next.state = session.state ∧ ∃ asked,
      Chosen trigger session.state location session.dice things found asked ∧
        next.dice = session.dice.afterAsking asked := by
  induction things generalizing session with
  | nil =>
    cases returns
    exact ⟨rfl, [], .nothing .nil, rfl⟩
  | cons thing things ih =>
    obtain ⟨fires, between, checks, returns⟩ := ok_of_bind returns
    obtain ⟨same, ⟨rfl, fires, dice⟩ | ⟨rfl, asked, declines, dice⟩⟩ := ok_of_check checks
    · cases returns
      exact ⟨same, _, .cons_fires fires, dice⟩
    · obtain ⟨sameLast, others, chosen, diceLast⟩ := ih returns
      rw [same, dice] at chosen
      refine ⟨sameLast.trans same, _, .cons_declines declines chosen, ?_⟩
      rw [diceLast, dice, Roller.afterAsking_append]

theorem search_of_findM? {trigger : α → Trigger} {things : List α} {found : Option α}
    (returns : things.findM? (fun thing => check game location (trigger thing)) session =
      .ok found next) : TriggerSearch trigger location things session found next := by
  obtain ⟨same, asked, chosen, dice⟩ := chosen_of_findM? returns
  obtain ⟨draws, made, requested⟩ := session.dice.draws_afterAsking asked
  have grown : next.roller.draws = session.roller.draws ++ draws :=
    (congrArg Roller.draws dice).trans made
  exact ⟨same, asked, draws, chosen, dice, grown, requested⟩

end Play

/-- What becomes of a session where a dialogue fires: it is entered. In a registry that stores every
dialogue under its own id, as those read from content do, the session arrives at its start node. -/
inductive DialogueEntry (game : Game) (session : Session) : Option Dialogue → Session → Prop
  | nothing : DialogueEntry game session none session
  | enter {dialogue : Dialogue} {next : Session}
      (enters : Play.enter game (Play.follow game) dialogue.id session = .ok () next)
      (itself : game.registry.Keyed → ∃ start, dialogue.start? = some start ∧
        Play.arrive game (Play.follow game) dialogue start session = .ok () next) :
      DialogueEntry game session (some dialogue) next

inductive InterludeDisplay (session : Session) : Option Interlude → Session → Prop
  | nothing : InterludeDisplay session none session
  | apply {interlude : Interlude} {next : Session}
      (applies : Effect.applyAll { session.state with interlude := interlude.id }
        interlude.effects session.dice = .ok next.state next.dice) :
      InterludeDisplay session (some interlude) next

/-- What fires at a location: at most one dialogue, and then, in the state that entering it has
left, at most one interlude. -/
inductive Fire (game : Game) (location : Value) (arrived fired : Session) : Prop
  | intro {dialogue : Option Dialogue} {interlude : Option Interlude}
      {found entered shown : Session}
      (dialogues : TriggerSearch Dialogue.trigger location game.registry.dialogues.values arrived
        dialogue found)
      (enters : DialogueEntry game found dialogue entered)
      (interludes : TriggerSearch Interlude.trigger location game.registry.interludes.values entered
        interlude shown)
      (shows : InterludeDisplay shown interlude fired)

namespace Play

theorem enter_of_start (keyed : game.registry.Keyed) {dialogue : Dialogue} {start : Node}
    (known : dialogue ∈ game.registry.dialogues.values) (starts : dialogue.start? = some start) :
    enter game (follow game) dialogue.id = arrive game (follow game) dialogue start := by
  have found : findStart game dialogue.id = .ok (some (dialogue, start)) := by
    simp [findStart, keyed.lookup known, starts, bind, Except.bind, pure, Except.pure]
  rw [enter, found]
  rfl

theorem ok_of_fireDialogue (returns : fireDialogue game location session = .ok () next) :
    ∃ dialogue found, TriggerSearch Dialogue.trigger location game.registry.dialogues.values session
      dialogue found ∧ DialogueEntry game found dialogue next := by
  obtain ⟨dialogue, found, searches, returns⟩ := ok_of_bind returns
  rw [firesAt_eq] at searches
  have chooses := search_of_findM? searches
  refine ⟨dialogue, found, chooses, ?_⟩
  cases dialogue with
  | none =>
    cases returns
    exact .nothing
  | some dialogue =>
    refine .enter returns fun keyed => ?_
    obtain ⟨_, _, chosen, _⟩ := chooses.asked
    obtain ⟨known, ready⟩ := chosen.mem_ready
    obtain ⟨start, starts⟩ := Option.isSome_iff_exists.mp ready
    exact ⟨start, starts, enter_of_start keyed known starts ▸ returns⟩

theorem ok_of_fireInterlude (returns : fireInterlude game location session = .ok () next) :
    ∃ interlude shown,
      TriggerSearch Interlude.trigger location game.registry.interludes.values session interlude
        shown ∧ InterludeDisplay shown interlude next := by
  obtain ⟨interlude, shown, searches, returns⟩ := ok_of_bind returns
  rw [interludeFiresAt_eq] at searches
  refine ⟨interlude, shown, search_of_findM? searches, ?_⟩
  cases interlude with
  | none =>
    cases returns
    exact .nothing
  | some interlude =>
    obtain ⟨_, _, stands, returns⟩ := ok_of_bind returns
    cases stands
    obtain ⟨_, _, changes, performs⟩ := ok_of_bind returns
    cases changes
    exact .apply (rolled_of_perform performs)

theorem ok_of_fireTriggers (returns : fireTriggers game session = .ok () next) :
    Fire game session.state.location session next := by
  obtain ⟨_, _, stands, returns⟩ := ok_of_bind returns
  cases stands
  obtain ⟨_, _, fires, shows⟩ := ok_of_bind returns
  obtain ⟨_, _, dialogues, enters⟩ := ok_of_fireDialogue fires
  obtain ⟨_, _, interludes, shows⟩ := ok_of_fireInterlude shows
  exact .intro dialogues enters interludes shows

end Play

inductive Action.Journey (game : Game) (state : GameState) : Action → Prop
  | newGame (setup : Setup) : Journey game state (.newGame setup)
  | travelTo {location : Value} (enabled : state.mapEnabled.isPresent)
      (shown : (Play.findRoute game state.location location).isSome) :
      Journey game state (.travelTo location)

inductive Action.ArrivalState (game : Game) (state : GameState) : Action → GameState → Prop
  | newGame (setup : Setup) : ArrivalState game state (.newGame setup) (.initial game setup)
  | travelTo {location : Value} {travelMap : TravelMap} {origin destination : Marker} {hours : Int}
      {time : Clock}
      (route : Play.findRoute game state.location location = some (travelMap, origin, destination))
      (takes : Play.travelHours travelMap origin destination = .ok hours)
      (passes : state.time.advance (.int hours) = .ok time) :
      ArrivalState game state (.travelTo location) { state with location, time, cursor := none }

inductive Conclusion (game : Game) (arrived : Session) (view : View) (next : Session) : Prop
  | intro {fired : Session} {trigger : String}
      (fires : Fire game arrived.state.location arrived fired)
      (finishes : Play.finish game trigger fired = .ok view next) :
      Conclusion game arrived view next

namespace Play

theorem conclusion_of_fireTriggers {trigger : String} {view : View}
    (returns : (fireTriggers game >>= fun _ => finish game trigger) session = .ok view next) :
    Conclusion game session view next := by
  obtain ⟨_, fired, fires, finishes⟩ := ok_of_bind returns
  exact .intro (ok_of_fireTriggers fires) finishes

theorem ok_of_requireTime (returns : requireTime session = .ok () next) : next = session := by
  obtain ⟨_, _, stands, returns⟩ := ok_of_bind returns
  cases stands
  obtain ⟨_, _, reads, returns⟩ := ok_of_bind returns
  cases returns
  exact (ok_of_lift reads).2

theorem ok_of_advanceClock {hours : Int} {reason : String}
    (returns : advanceClock game hours reason session = .ok () next) :
    ∃ time, session.state.time.advance (.int hours) = .ok time ∧
      next.state = { session.state with time } ∧ next.roller = session.roller := by
  obtain ⟨_, _, stands, returns⟩ := ok_of_bind returns
  cases stands
  obtain ⟨time, _, advances, returns⟩ := ok_of_bind returns
  obtain ⟨passes, rfl⟩ := ok_of_lift advances
  obtain ⟨_, _, changes, logs⟩ := ok_of_bind returns
  cases changes
  exact ⟨time, passes, Steady.logTimeStep _ _ _ _ _ _ _ logs⟩

theorem arrival_of_newGame {setup : Setup} {view : View}
    (returns : newGame game setup session = .ok view next) :
    ∃ arrived : Session, Action.ArrivalState game session.state (.newGame setup) arrived.state ∧
      arrived.roller = session.roller ∧ Conclusion game arrived view next := by
  obtain ⟨_, logged, logs, returns⟩ := ok_of_bind returns
  obtain ⟨_, sameRoller⟩ := Steady.record _ session () logged logs
  obtain ⟨_, begun, changes, returns⟩ := ok_of_bind returns
  cases changes
  obtain ⟨_, _, requires, returns⟩ := ok_of_bind returns
  cases ok_of_requireTime requires
  exact ⟨{ logged with state := .initial game setup }, .newGame setup, sameRoller,
    conclusion_of_fireTriggers returns⟩

theorem arrival_of_travelAlong {location : Value} {travelMap : TravelMap}
    {origin destination : Marker}
    (route : findRoute game session.state.location location = some (travelMap, origin, destination))
    (returns : travelAlong game travelMap origin destination location session = .ok () next) :
    ∃ arrived : Session, Action.ArrivalState game session.state (.travelTo location) arrived.state ∧
      arrived.roller = session.roller ∧ Fire game arrived.state.location arrived next := by
  obtain ⟨hours, _, computes, later⟩ := ok_of_bind returns
  obtain ⟨takes, rfl⟩ := ok_of_lift computes
  obtain ⟨_, _, stands, later⟩ := ok_of_bind later
  cases stands
  obtain ⟨_, _, changes, later⟩ := ok_of_bind later
  cases changes
  obtain ⟨_, arrived, advances, fires⟩ := ok_of_bind later
  obtain ⟨time, passes, moved, kept⟩ := ok_of_advanceClock advances
  refine ⟨arrived, ?_, kept, ok_of_fireTriggers fires⟩
  rw [moved]
  exact .travelTo route takes passes

theorem arrival_of_travelTo {location : Value} {view : View}
    (enabled : session.state.mapEnabled.isPresent)
    (shown : (findRoute game session.state.location location).isSome)
    (returns : travelTo game location session = .ok view next) :
    ∃ arrived : Session, Action.ArrivalState game session.state (.travelTo location) arrived.state ∧
      arrived.roller = session.roller ∧ Conclusion game arrived view next := by
  obtain ⟨⟨travelMap, origin, destination⟩, route⟩ := Option.isSome_iff_exists.mp shown
  obtain ⟨_, logged, logs, returns⟩ := ok_of_bind returns
  obtain ⟨sameState, sameRoller⟩ := Steady.record _ session () logged logs
  obtain ⟨_, _, stands, returns⟩ := ok_of_bind returns
  cases stands
  simp only [sameState, enabled, if_true, route] at returns
  rw [← sameState] at route
  obtain ⟨_, fired, travels, finishes⟩ := ok_of_bind returns
  obtain ⟨arrived, arrives, kept, fires⟩ := arrival_of_travelAlong route travels
  rw [sameState] at arrives
  exact ⟨arrived, arrives, kept.trans sameRoller, .intro fires finishes⟩

end Play

/-- A new game, and travel that leads somewhere, arrive at a location. The first dialogue fires that
is triggered there, whose conditions pass and whose start node exists, and then, in the state that
entering it has left, the first interlude that is triggered there and whose conditions pass. Either
may be none. Choosing draws what the conditions draw that are asked until it is found, and nothing
else. -/
theorem triggers_fire {action : Action} {reply : Reply}
    (leads : action.Journey game session.state)
    (returns : Play.act game action session = .ok reply next) :
    ∃ arrived view, reply = .view view ∧ action.ArrivalState game session.state arrived.state ∧
      arrived.roller = session.roller ∧ Conclusion game arrived view next := by
  cases leads with
  | newGame setup =>
    obtain ⟨view, _, begins, replies⟩ := Play.ok_of_bind returns
    cases replies
    obtain ⟨arrived, arrives, kept, ends⟩ := Play.arrival_of_newGame begins
    exact ⟨arrived, view, rfl, arrives, kept, ends⟩
  | travelTo enabled shown =>
    obtain ⟨view, _, travels, replies⟩ := Play.ok_of_bind returns
    cases replies
    obtain ⟨arrived, arrives, kept, ends⟩ := Play.arrival_of_travelTo enabled shown travels
    exact ⟨arrived, view, rfl, arrives, kept, ends⟩

/-- A brawl, a haunting and a rumour are triggered at the inn, and so are a storm and a calm. With
the dice at four, four and two there is no brawl, the haunting has no start node, and the rumour
fires; then there is no storm, and the calm fires. -/
def innDialogue (id start : String) (conditions : List Condition) : Dialogue :=
  ⟨id, start, [{ guideNode with effects := [] }], "inn", conditions⟩

def innInterlude (id : String) (conditions : List Condition) : Interlude :=
  ⟨id, "", "", "", .null, .null, [], .null, .null, "inn", conditions, []⟩

def innGame : Game :=
  { guideGame with
    registry := { guideRegistry with
      characters := ∅
      dialogues := ⟨[
        (.text "brawl", innDialogue "brawl" "hello" [.roll 1 6 (.int 5)]),
        (.text "haunting", innDialogue "haunting" "nowhere" []),
        (.text "rumour", innDialogue "rumour" "hello" [.roll 1 6 (.int 2)])]⟩
      interludes := ⟨[
        (.text "storm", innInterlude "storm" [.roll 1 6 (.int 3)]),
        (.text "calm", innInterlude "calm" [])]⟩ } }

def innSession : Session :=
  .new innGame
    { guideRoller with recording := some (.ofStream [.int 4, .int 4, .int 2]) } 0

def evening : Setup :=
  ⟨"inn", .start, ∅, ∅, []⟩

theorem triggers_fire_inn : ∃ view next,
    Action.Journey innGame innSession.state (.newGame evening) ∧
      Play.act innGame (.newGame evening) innSession = .ok (.view view) next ∧
      Cursor.sameOption next.state.cursor (some ⟨"rumour", "hello"⟩) ∧
      next.roller.draws.map (·.low) = [1, 1, 1] ∧
      ∃ arrived, Action.ArrivalState innGame innSession.state (.newGame evening) arrived.state ∧
        arrived.roller = innSession.roller ∧ Conclusion innGame arrived view next := by
  have returns : (outcome (Play.newGame innGame evening) innSession).1.isOk := by decide +kernel
  have talks : Cursor.sameOption
      (outcome (Play.newGame innGame evening) innSession).2.state.cursor
      (some ⟨"rumour", "hello"⟩) := by
    decide +kernel
  have draws : (outcome (Play.newGame innGame evening) innSession).2.roller.draws.map (·.low) =
      [1, 1, 1] := by
    decide +kernel
  obtain ⟨view, begins⟩ := ok_of_outcome returns
  have acts : Play.act innGame (.newGame evening) innSession =
      .ok (.view view) (outcome (Play.newGame innGame evening) innSession).2 :=
    Play.bind_of_ok begins
  obtain ⟨arrived, _, same, known⟩ := triggers_fire (.newGame evening) acts
  cases same
  exact ⟨view, _, .newGame evening, acts, talks, draws, arrived, known⟩

end Fabula
