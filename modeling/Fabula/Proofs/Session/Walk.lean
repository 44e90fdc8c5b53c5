import Fabula.Proofs.Session.Quiet
/-!
# Walking is quiet

One lemma for each function that an action is made of: whatever happens before an action ends is
quiet.
-/

namespace Fabula
variable {α β : Type} {game : Game}

namespace Quiet

theorem pure (a : α) : Quiet game (pure a) :=
  .lift (failsOnly_ok a)

theorem state : Quiet game Play.state :=
  show Quiet game (Play.ask fun session => .ok session.state) from
    .ask (fun _ => failsOnly_ok _) fun _ _ level => by rw [level.state]

theorem notes : Quiet game (Play.ask fun session => .ok session.notes) :=
  .ask (fun _ => failsOnly_ok _) fun _ _ level => by rw [level.notes]

theorem setState (state : GameState) : Quiet game (Play.setState state) :=
  .edit (fun _ => state) id

theorem setCursor (cursor : Option Cursor) : Quiet game (Play.setCursor cursor) :=
  .edit (fun state => { state with cursor }) id

theorem endDialogue : Quiet game Play.endDialogue :=
  setCursor none

theorem logAction (name : String) (arguments : List (String × Value)) :
    Quiet game (Play.logAction game name arguments) :=
  .record _ (by simp [RunLog.unlogged, Event.kind, Happening.kind])

theorem allPass (conditions : List Condition) : Quiet game (Play.allPass game conditions) :=
  .bind .state fun _ => .rolling (drawn_allPass _ _)

theorem logTimeStep (before after : Clock) {hours : Except Failure Number} (reason : String)
    (fails : FailsOnly Failure.OfValue hours) :
    Quiet game (Play.logTimeStep game before after hours reason) :=
  .bind (.lift (clockText_failsOnly before)) fun _ =>
    .bind (.lift (clockText_failsOnly after)) fun _ =>
      .bind (.lift fails) fun _ =>
        .record _ (by simp [RunLog.unlogged, Event.kind, Happening.kind])

theorem alter {change : GameState → Rolling GameState} (reason : String)
    (drawn : ∀ state, Drawn (change state)) : Quiet game (Play.alter game change reason) := by
  refine .bind .state fun before => .bind (.rolling (drawn before)) fun after =>
    .bind (.setState after) fun _ => ?_
  split
  · exact .logTimeStep _ _ reason (hoursBetween_failsOnly _ _)
  · exact .pure _

theorem perform (effects : List Effect) (reason : String) :
    Quiet game (Play.perform game effects reason) :=
  .alter reason fun state => drawn_applyAll state effects

theorem advanceClock (hours : Int) (reason : String) :
    Quiet game (Play.advanceClock game hours reason) :=
  .bind .state fun _ => .bind (.lift (advance_failsOnly _ _)) fun _ =>
    .bind (.setState _) fun _ => .logTimeStep _ _ reason (failsOnly_ok _)

theorem findM? {items : List α} {check : α → Play Bool}
    (each : ∀ item, Quiet game (check item)) : Quiet game (items.findM? check) :=
  Play.findM?_closed (C := Quiet game) .pure .bind each

theorem findBranch (branches : List Branch) : Quiet game (Play.findBranch game branches) :=
  .bind .state fun _ => .findM? fun _ => .rolling (drawn_passes _ _)

theorem findTarget (node : Node) : Quiet game (Play.findTarget game node) := by
  refine .bind (.findBranch node.branches) fun found => ?_
  cases found <;> exact .pure _

theorem hop (dialogue : Dialogue) (node : Node) : Quiet game (Play.hop game dialogue node) := by
  refine .bind (.findTarget node) fun target => ?_
  cases target with
  | none => exact .endDialogue
  | some target =>
    dsimp only
    split
    · exact .setCursor _
    · exact .endDialogue

theorem pending : Quiet game Play.pending := by
  refine .bind .state fun state => ?_
  cases state.cursor <;> exact .pure _

theorem arrive {follow : Play Bool} (dialogue : Dialogue) (node : Node)
    (quiet : Quiet game follow) : Quiet game (Play.arrive game follow dialogue node) := by
  refine .bind (.setCursor _) fun _ => .bind (.perform _ _) fun _ => .bind quiet fun followed => ?_
  cases followed with
  | true => exact .pure _
  | false =>
    refine .bind .state fun state => ?_
    split
    · exact .hop dialogue node
    · exact .pure _

theorem enter {follow : Play Bool} (id : Value) (quiet : Quiet game follow) :
    Quiet game (Play.enter game follow id) := by
  refine .bind (.lift (findStart_failsOnly game id)) fun found => ?_
  cases found with
  | some place => exact .arrive _ _ quiet
  | none =>
    refine .bind .pending fun pending => ?_
    split
    · exact .endDialogue
    · exact .pure _

theorem followWithin (limit : Nat) : Quiet game (Play.followWithin game limit) := by
  induction limit with
  | zero =>
    refine .bind .pending fun pending => ?_
    split
    · exact .pure _
    · exact .bind .endDialogue fun _ => .pure _
  | succ limit ih =>
    refine .bind .pending fun pending => ?_
    cases pending with
    | none => exact .pure _
    | some id => exact .bind (.enter id ih) fun _ => .pure _

theorem follow : Quiet game (Play.follow game) :=
  .followWithin _

theorem firesAt (location : Value) (dialogue : Dialogue) :
    Quiet game (Play.firesAt game location dialogue) := by
  unfold Play.firesAt
  split
  · exact .pure _
  · refine .bind (.allPass dialogue.conditions) fun passes => ?_
    cases passes <;> exact .pure _

theorem interludeFiresAt (location : Value) (interlude : Interlude) :
    Quiet game (Play.interludeFiresAt game location interlude) := by
  unfold Play.interludeFiresAt
  split
  · exact .pure _
  · exact .allPass interlude.conditions

theorem fireDialogue (location : Value) : Quiet game (Play.fireDialogue game location) := by
  refine .bind (.findM? (.firesAt location)) fun found => ?_
  cases found with
  | some dialogue => exact .enter dialogue.id .follow
  | none => exact .pure _

theorem fireInterlude (location : Value) : Quiet game (Play.fireInterlude game location) := by
  refine .bind (.findM? (.interludeFiresAt location)) fun found => ?_
  cases found with
  | some interlude => exact .bind .state fun _ => .bind (.setState _) fun _ => .perform _ _
  | none => exact .pure _

theorem fireTriggers : Quiet game (Play.fireTriggers game) :=
  .bind .state fun _ => .bind (.fireDialogue _) fun _ => .fireInterlude _

theorem requireTime : Quiet game Play.requireTime :=
  .bind .state fun _ => .bind (.lift (clockText_failsOnly _)) fun _ => .pure _

theorem currentNode : Quiet game (Play.currentNode game) :=
  .bind .state fun _ => .lift (currentNode_failsOnly _ _)

theorem take (dialogue : Dialogue) (choice : Choice) (id : Value) :
    Quiet game (Play.take game dialogue choice id) := by
  refine .bind (.perform _ _) fun _ => .bind .follow fun followed => ?_
  split
  · exact .pure _
  · generalize (if choice.next.isPresent then dialogue.findNode? choice.next else none) = target
    cases target with
    | some node => exact .arrive _ _ .follow
    | none => exact .endDialogue

theorem travelAlong (travelMap : TravelMap) (origin destination : Marker) (location : Value) :
    Quiet game (Play.travelAlong game travelMap origin destination location) :=
  .bind (.lift (travelHours_failsOnly _ _ _)) fun _ => .bind .state fun _ =>
    .bind (.setState _) fun _ => .bind (.advanceClock _ _) fun _ => .fireTriggers

end Quiet
end Fabula
