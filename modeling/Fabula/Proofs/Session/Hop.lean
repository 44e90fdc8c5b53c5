import Fabula.Proofs.Content.Routed
import Fabula.Proofs.Rules.Application
import Fabula.Proofs.Session.Deed
import Fabula.Proofs.Session.Dice
import Fabula.Proofs.Value.Alike
/-!
# Walking step by step

A walk through a dialogue is specified on states and dice alone, without a session: where a node
leads, and what a choice makes of a state. A choice applies its own effects and those of the node it
leads to as one list; a node without choices hops once from there. A session whose effects neither
start nor end a dialogue walks as specified. Main statements:

* `rolled_of_take`: what selecting a choice does;
* `walks`: where the cursor is after a choice or a hop, and what else has changed.
-/

namespace Fabula
variable {α : Type} {game : Game} {state : GameState} {session next : Session}

/-- The target of a node in a state: that of the first branch whose condition passes, else the
default target if it counts as present. -/
def Node.exit (node : Node) (state : GameState) : Rolling (Option Value) := do
  match ← node.branches.findM? fun branch => branch.condition.passes state with
  | some branch => return branch.next.given?
  | none => return (node.next.orElse .null).given?

namespace Dialogue

def hop (dialogue : Dialogue) (node : Node) (state : GameState) : Rolling (Option Cursor) := do
  let target ← node.exit state
  return target.bind fun target =>
    if (dialogue.findNode? target).isSome then some ⟨dialogue.id, target⟩ else none

def arrival (dialogue : Dialogue) (node : Node) (state : GameState) : Rolling (Option Cursor) :=
  if node.choices.isEmpty then dialogue.hop node state else return some ⟨dialogue.id, node.id⟩

def chosen (dialogue : Dialogue) (choice : Choice) : List Effect :=
  choice.effects ++ ((dialogue.findNode? choice.next).map Node.effects).getD []

def choose (dialogue : Dialogue) (choice : Choice) (state : GameState) : Rolling GameState := do
  let after ← Effect.applyAll state (dialogue.chosen choice)
  match dialogue.findNode? choice.next with
  | some node => return after.at (← dialogue.arrival node after)
  | none => return after.at none

end Dialogue

theorem passes_at (condition : Condition) (cursor : Option Cursor) :
    condition.passes (state.at cursor) = condition.passes state := by
  cases condition <;> rfl

theorem hop_at (dialogue : Dialogue) (node : Node) (cursor : Option Cursor) :
    dialogue.hop node (state.at cursor) = dialogue.hop node state := by
  simp only [Dialogue.hop, Node.exit, passes_at]

theorem applyAll_append (state : GameState) (effects later : List Effect) :
    Effect.applyAll state (effects ++ later) =
      (Effect.applyAll state effects >>= fun between => Effect.applyAll between later) := by
  induction effects generalizing state with
  | nil => rfl
  | cons effect rest ih =>
    simp only [List.cons_append, Effect.applyAll, bind_assoc, ih]

theorem steer_of_stays {effects : List Effect} (stays : ∀ effect ∈ effects, effect.steers = false)
    (cursor : Option Cursor) : effects.foldl Effect.steer cursor = cursor := by
  induction effects with
  | nil => rfl
  | cons effect rest ih =>
    have first : effect.steer cursor = cursor := by
      have staysFirst := stays effect List.mem_cons_self
      cases effect <;> first | rfl | cases staysFirst
    rw [List.foldl_cons, first]
    exact ih fun other listed => stays other (List.mem_cons_of_mem _ listed)

namespace Play

theorem rolled_of_findM? {items : List α} {check : α → Rolling Bool}
    (drawn : ∀ item, Drawn (check item)) {found : Option α}
    (returns : items.findM? (fun item => rolling game (check item)) session = .ok found next) :
    items.findM? check session.dice = .ok found next.dice ∧ next.state = session.state := by
  induction items generalizing session with
  | nil =>
    cases returns
    exact ⟨rfl, rfl⟩
  | cons item rest ih =>
    obtain ⟨passes, between, rolls, returns⟩ := ok_of_bind returns
    obtain ⟨checked, same⟩ := rolled_of_rolling (drawn item) rolls
    rw [List.findM?, bind_of_ok checked]
    cases passes with
    | true =>
      cases returns
      exact ⟨rfl, same⟩
    | false =>
      obtain ⟨finds, sameLast⟩ := ih returns
      exact ⟨finds, sameLast.trans same⟩

theorem rolled_of_findTarget {node : Node} {target : Option Value}
    (returns : findTarget game node session = .ok target next) :
    node.exit session.state session.dice = .ok target next.dice ∧ next.state = session.state := by
  obtain ⟨found, between, finds, returns⟩ := ok_of_bind returns
  obtain ⟨_, _, asked, finds⟩ := ok_of_bind finds
  cases asked
  obtain ⟨rolls, same⟩ := rolled_of_findM? (fun (branch : Branch) => drawn_passes _ _) finds
  rw [Node.exit, bind_of_ok rolls]
  cases found with
  | none =>
    cases returns
    exact ⟨rfl, same⟩
  | some branch =>
    cases returns
    exact ⟨rfl, same⟩

theorem ok_of_setCursor {cursor : Option Cursor}
    (returns : setCursor cursor session = .ok () next) :
    next.state = session.state.at cursor ∧ next.dice = session.dice := by
  cases returns
  exact ⟨rfl, rfl⟩

theorem rolled_of_hop {dialogue : Dialogue} {node : Node}
    (returns : hop game dialogue node session = .ok () next) :
    ∃ cursor, dialogue.hop node session.state session.dice = .ok cursor next.dice ∧
      next.state = session.state.at cursor := by
  obtain ⟨target, between, finds, moves⟩ := ok_of_bind returns
  obtain ⟨exits, same⟩ := rolled_of_findTarget finds
  rw [Dialogue.hop, bind_of_ok exits, ← same]
  cases target with
  | none =>
    obtain ⟨moved, dice⟩ := ok_of_setCursor moves
    rw [dice]
    exact ⟨none, rfl, moved⟩
  | some target =>
    cases there : (dialogue.findNode? target).isSome with
    | true =>
      simp only [there, if_true] at moves
      obtain ⟨moved, dice⟩ := ok_of_setCursor moves
      rw [dice]
      exact ⟨_, rfl, by simpa [there] using moved⟩
    | false =>
      simp only [there, Bool.false_eq_true, if_false] at moves
      obtain ⟨moved, dice⟩ := ok_of_setCursor moves
      rw [dice]
      exact ⟨_, rfl, by simpa [there] using moved⟩

theorem entered_of_cursor {cursor : Cursor} (found : session.state.cursor = some cursor)
    (enters : cursor.needsStart = false) : session.Entered := by
  intro place placed
  rw [found] at placed
  cases placed
  exact enters

theorem needsStart_of_named {dialogue : Dialogue} (named : dialogue.Named) {node : Node}
    (listed : node ∈ dialogue.nodes) : (Cursor.mk dialogue.id node.id).needsStart = false :=
  Bool.eq_false_iff.mpr fun starts => named node listed ((same_empty_iff _).mp starts)

theorem rolled_of_arrive {dialogue : Dialogue} {node : Node} (named : dialogue.Named)
    (listed : node ∈ dialogue.nodes)
    (stays : ∀ effect ∈ node.effects, effect.steers = false)
    (returns : arrive game (follow game) dialogue node session = .ok () next) :
    ∃ after dice cursor, Effect.applyAll session.state node.effects session.dice = .ok after dice ∧
      dialogue.arrival node after dice = .ok cursor next.dice ∧ next.state = after.at cursor := by
  obtain ⟨_, arrived, arrives, returns⟩ := ok_of_bind returns
  obtain ⟨moved, sameDice⟩ := ok_of_setCursor arrives
  obtain ⟨_, applied, applies, returns⟩ := ok_of_bind returns
  have rolled := rolled_of_perform applies
  have placed : applied.state.cursor = some ⟨dialogue.id, node.id⟩ := by
    rw [(meaning_of_applyAll rolled).cursor, steer_of_stays stays, moved]
    rfl
  -- Where the session was before does not matter to the effects.
  have before : Effect.applyAll session.state node.effects session.dice =
      .ok (applied.state.at session.state.cursor) applied.dice := by
    have elsewhere := applyAll_at stays session.state.cursor rolled
    rw [moved, sameDice] at elsewhere
    exact elsewhere
  obtain ⟨_, _, follows, returns⟩ := ok_of_bind returns
  rw [follow_of_entered (entered_of_cursor placed (needsStart_of_named named listed))] at follows
  cases follows
  obtain ⟨_, _, asked, returns⟩ := ok_of_bind returns
  cases asked
  refine ⟨applied.state.at session.state.cursor, applied.dice, ?_⟩
  have stayed : Cursor.sameOption applied.state.cursor (some ⟨dialogue.id, node.id⟩) := by
    rw [placed]
    exact Cursor.sameOption_self _
  cases leaf : node.choices.isEmpty with
  | true =>
    simp only [leaf, stayed, Bool.and_self, if_true] at returns
    obtain ⟨cursor, hops, moves⟩ := rolled_of_hop returns
    refine ⟨cursor, before, ?_, moves⟩
    rw [Dialogue.arrival, leaf, if_pos rfl, hop_at]
    exact hops
  | false =>
    simp only [leaf, Bool.false_and, Bool.false_eq_true, if_false] at returns
    cases returns
    refine ⟨some ⟨dialogue.id, node.id⟩, before, ?_, ?_⟩
    · rw [Dialogue.arrival, leaf]
      rfl
    · rw [← placed]
      rfl

theorem rolled_of_take {dialogue : Dialogue} {choice : Choice} {id : Value}
    (named : dialogue.Named) (routed : choice.Routed)
    (stays : ∀ effect ∈ dialogue.chosen choice, effect.steers = false) (entered : session.Entered)
    (returns : take game dialogue choice id session = .ok () next) :
    dialogue.choose choice session.state session.dice = .ok next.state next.dice := by
  obtain ⟨_, applied, applies, returns⟩ := ok_of_bind returns
  have rolled := rolled_of_perform applies
  have placed : applied.state.cursor = session.state.cursor := by
    rw [(meaning_of_applyAll rolled).cursor,
      steer_of_stays fun effect listed => stays effect (List.mem_append_left _ listed)]
  have stillEntered : applied.Entered := fun place found => entered place (placed ▸ found)
  obtain ⟨_, _, follows, returns⟩ := ok_of_bind returns
  rw [follow_of_entered stillEntered] at follows
  cases follows
  simp only [Bool.false_eq_true, if_false, findNode?_of_routed named routed] at returns
  unfold Dialogue.choose
  unfold Dialogue.chosen at stays ⊢
  cases target : dialogue.findNode? choice.next with
  | none =>
    simp only [target, Option.map_none, Option.getD_none, List.append_nil] at returns ⊢
    obtain ⟨moved, sameDice⟩ := ok_of_setCursor returns
    rw [bind_of_ok rolled, moved, sameDice]
    rfl
  | some node =>
    simp only [target, Option.map_some, Option.getD_some] at returns stays ⊢
    have listed := List.mem_of_find?_eq_some target
    obtain ⟨after, dice, cursor, arrives, leads, moved⟩ := rolled_of_arrive named listed
      (fun effect member => stays effect (List.mem_append_right _ member)) returns
    have together : Effect.applyAll session.state (choice.effects ++ node.effects) session.dice =
        .ok after dice := by
      rw [applyAll_append, bind_of_ok rolled, arrives]
    rw [bind_of_ok together, bind_of_ok leads, moved]
    rfl

theorem state_of_finish {trigger : String} {view : View} (entered : session.Entered)
    (returns : finish game trigger session = .ok view next) :
    next.state = session.state.clearCues := by
  obtain ⟨_, _, follows, returns⟩ := ok_of_bind returns
  rw [follow_of_entered entered] at follows
  cases follows
  obtain ⟨_, observed, observes, shows⟩ := ok_of_bind returns
  rw [ok_of_showView shows, (ok_of_observe observes).1]

theorem take_enters {dialogue : Dialogue} (registryNamed : game.registry.Named)
    (named : dialogue.Named) {choice : Choice} {id : Value}
    (returns : take game dialogue choice id session = .ok () next) : next.Entered := by
  obtain ⟨_, applied, _, returns⟩ := ok_of_bind returns
  obtain ⟨led, followed, follows, returns⟩ := ok_of_bind returns
  cases led with
  | true =>
    cases returns
    exact follow_enters registryNamed applied trivial true _ follows
  | false =>
    rw [if_neg Bool.false_ne_true] at returns
    generalize (if choice.next.isPresent then dialogue.findNode? choice.next else none) = target
      at returns
    cases target with
    | some node => exact arrive_enters named (follow_enters registryNamed) returns
    | none => exact endDialogue_enters returns

theorem finds_of_logged {name : String} {arguments : List (String × Value)}
    {rest : Option (Dialogue × Node) → Play α} {place : Option (Dialogue × Node)} {a : α}
    (current : View.currentNode? game.registry session.state.cursor = .ok place)
    (returns : (logAction game name arguments >>= fun _ => currentNode game >>= rest) session =
      .ok a next) :
    ∃ logged : Session, logged.state = session.state ∧ logged.dice = session.dice ∧
      rest place logged = .ok a next := by
  obtain ⟨_, logged, logs, returns⟩ := ok_of_bind returns
  obtain ⟨sameState, sameRoller⟩ := Steady.record _ session () logged logs
  obtain ⟨found, asked, finds, returns⟩ := ok_of_bind returns
  obtain ⟨here, same⟩ := current_of_ok finds
  rw [sameState, current] at here
  cases here
  rw [same] at returns
  exact ⟨logged, sameState, congrArg Roller.unrefused sameRoller, returns⟩

theorem state_of_continue {dialogue : Dialogue} {node : Node} {view : View}
    (named : dialogue.Named) (leaf : node.choices.isEmpty)
    (current : View.currentNode? game.registry session.state.cursor = .ok (some (dialogue, node)))
    (returns : continueDialogue game session = .ok view next) :
    ∃ cursor dice, dialogue.hop node session.state session.dice = .ok cursor dice ∧
      next.state = (session.state.at cursor).clearCues := by
  obtain ⟨logged, sameState, sameDice, returns⟩ := finds_of_logged current returns
  simp only [leaf, if_true] at returns
  obtain ⟨_, hopped, hops, finishes⟩ := ok_of_bind returns
  obtain ⟨cursor, leads, moved⟩ := rolled_of_hop hops
  have entered : hopped.Entered := hop_enters named hops
  rw [sameState] at leads moved
  rw [sameDice] at leads
  exact ⟨cursor, hopped.dice, leads, by rw [state_of_finish entered finishes, moved]⟩

theorem state_of_select {dialogue : Dialogue} {node : Node} {choice : Choice} {id : Value}
    {view : View} (registryNamed : game.registry.Named) (named : dialogue.Named)
    (routed : choice.Routed)
    (stays : ∀ effect ∈ dialogue.chosen choice, effect.steers = false)
    (chosen : node.findChoice? id = some choice) (entered : session.Entered)
    (current : View.currentNode? game.registry session.state.cursor = .ok (some (dialogue, node)))
    (returns : selectChoice game id session = .ok view next) :
    ∃ after dice, dialogue.choose choice session.state session.dice = .ok after dice ∧
      next.state = after.clearCues := by
  obtain ⟨logged, sameState, sameDice, returns⟩ := finds_of_logged current returns
  simp only [chosen] at returns
  obtain ⟨_, taken, takes, finishes⟩ := ok_of_bind returns
  have rolled := rolled_of_take named routed stays
    (fun place found => entered place (sameState ▸ found)) takes
  rw [sameState, sameDice] at rolled
  have enters := take_enters registryNamed named takes
  exact ⟨taken.state, taken.dice, rolled, state_of_finish enters finishes⟩

end Play

/-- A session on a node walks as specified. Without choices it hops from there. A choice whose
effects and those of the node it leads to neither start nor end a dialogue makes of the state what
is specified. Nothing else changes but the cues, which have been shown. -/
theorem walks {content : Value} (read : Registry.ofRecord content = .ok game.registry)
    (reached : Reachable game session) {dialogue : Dialogue} {node : Node}
    (current : View.currentNode? game.registry session.state.cursor = .ok (some (dialogue, node))) :
    (node.choices.isEmpty → ∀ reply next,
      Play.call game (.action .continueDialogue) session = .ok reply next →
        ∃ cursor dice, dialogue.hop node session.state session.dice = .ok cursor dice ∧
          next.state = (session.state.at cursor).clearCues) ∧
    ∀ id choice, node.findChoice? id = some choice →
      (∀ effect ∈ dialogue.chosen choice, effect.steers = false) → ∀ reply next,
        Play.call game (.action (.selectChoice id)) session = .ok reply next →
          ∃ after dice, dialogue.choose choice session.state session.dice = .ok after dice ∧
            next.state = after.clearCues := by
  have registryNamed := registry_ofRecord_named content _ read
  have settled := reached.settled registryNamed
  obtain ⟨place, found, looked, first⟩ := View.currentNode?_eq_some.mp current
  have known := Table.mem_of_lookup looked
  have listed := List.mem_of_find?_eq_some first
  have named := registryNamed dialogue known
  refine ⟨fun leaf reply next returns => ?_, fun id choice chosen stays reply next returns => ?_⟩
  · obtain ⟨view, _, returns, replies⟩ := Play.ok_of_bind returns
    cases replies
    exact Play.state_of_continue named leaf current returns
  · obtain ⟨view, _, returns, replies⟩ := Play.ok_of_bind returns
    cases replies
    have routed := registry_ofRecord_routed content _ read dialogue known node listed choice
      (List.mem_of_find?_eq_some chosen)
    exact Play.state_of_select registryNamed named routed stays chosen settled.entered current
      returns

/-- The street behind the counter leads to a node of id zero. Its text is read, but as a default
target zero counts as absent. -/
def shopContent : Value :=
  .object [
    ("characters", .list [.object [("id", "keeper"), ("dialogue", "shop")]]),
    ("dialogues", .list [.object [("id", "shop"), ("nodes", .list [
      .object [("id", "counter"), ("choices", .list [.object [("id", "buy"), ("next", "street"),
        ("effects", .list ["ROLL luck 1 6"])]])],
      .object [("id", "street"), ("effects", .list ["ADVANCE time 1"]), ("next", .int 0)],
      .object [("id", .int 0), ("choices", .list [.object [("id", "bye")]])]])]])]

def buy : Choice :=
  ⟨"buy", "", "street", [], [.roll "luck" 1 6]⟩

def counter : Node :=
  { guideNode with id := "counter", choices := [buy], effects := [] }

def street : Node :=
  { guideNode with
    id := "street"
    choices := []
    effects := [.advanceTime (.int 1)]
    next := .int 0 }

def shop : Dialogue where
  id := "shop"
  startNode := "counter"
  nodes := [counter, street, { guideNode with id := .int 0, effects := [] }]
  triggerLocation := .null
  conditions := []

def shopGame : Game :=
  { guideGame with
    registry := { guideRegistry with
      characters := ⟨[(.text "keeper", ⟨"keeper", "keeper", "", "", "", "shop", ∅⟩)]⟩
      dialogues := ⟨[(.text "shop", shop)]⟩ } }

def shopSession : Session :=
  (outcome (Play.talkTo shopGame "keeper") (.new shopGame guideRoller 0)).2

theorem shop_read : Registry.ofRecord shopContent = .ok shopGame.registry := rfl

theorem shop_reached : Reachable shopGame shopSession := by
  have started : Session.start shopGame guideRoller 0 none = .ok (.new shopGame guideRoller 0) :=
    rfl
  have returns :
      (outcome (Play.talkTo shopGame "keeper") (.new shopGame guideRoller 0)).1.isOk := by
    decide +kernel
  obtain ⟨view, talks⟩ := ok_of_outcome returns
  have calls : Play.call shopGame (.action (.talkTo "keeper")) (.new shopGame guideRoller 0) =
      .ok (.view view) shopSession := Play.bind_of_ok talks
  exact .call (.start started) calls

theorem eq_of_sameOption_texts {cursor : Option Cursor} {dialogue node : String}
    (same : Cursor.sameOption cursor (some ⟨.text dialogue, .text node⟩)) :
    cursor = some ⟨.text dialogue, .text node⟩ := by
  have text {value : Value} {name : String} (like : value.alike (.text name)) :
      value = .text name := by
    cases value <;> simp_all [Value.alike, Value.arithmetic?]
  cases cursor with
  | none => cases same
  | some place =>
    obtain ⟨sameDialogue, sameNode⟩ := Bool.and_eq_true_iff.mp same
    have first : place.dialogue = .text dialogue := text sameDialogue
    have second : place.node = .text node := text sameNode
    rw [← first, ← second]

theorem shop_current :
    View.currentNode? shopGame.registry shopSession.state.cursor = .ok (some (shop, counter)) := by
  have same : Cursor.sameOption shopSession.state.cursor (some ⟨"shop", "counter"⟩) := by
    decide +kernel
  rw [eq_of_sameOption_texts same]
  rfl

theorem shop_sells : ∃ view next,
    Play.call shopGame (.action (.selectChoice "buy")) shopSession = .ok (.view view) next ∧
      next.state.cursor = none := by
  have returns : (outcome (Play.selectChoice shopGame "buy") shopSession).1.isOk := by
    decide +kernel
  have leaves : (outcome (Play.selectChoice shopGame "buy") shopSession).2.state.cursor.isNone := by
    decide +kernel
  obtain ⟨view, sells⟩ := ok_of_outcome returns
  exact ⟨view, _, Play.bind_of_ok sells, Option.isNone_iff_eq_none.mp leaves⟩

theorem walks_shop : ∃ view next after dice,
    Registry.ofRecord shopContent = .ok shopGame.registry ∧ Reachable shopGame shopSession ∧
      View.currentNode? shopGame.registry shopSession.state.cursor = .ok (some (shop, counter)) ∧
      counter.findChoice? "buy" = some buy ∧
      (∀ effect ∈ shop.chosen buy, effect.steers = false) ∧
      Play.call shopGame (.action (.selectChoice "buy")) shopSession = .ok (.view view) next ∧
      shop.choose buy shopSession.state shopSession.dice = .ok after dice ∧
      next.state = after.clearCues := by
  have chosen : counter.findChoice? "buy" = some buy := rfl
  have stays : ∀ effect ∈ shop.chosen buy, effect.steers = false := by
    have effects : shop.chosen buy = [.roll "luck" 1 6, .advanceTime (.int 1)] := rfl
    simp [effects, Effect.steers]
  obtain ⟨view, next, sells, _⟩ := shop_sells
  obtain ⟨after, dice, makes, left⟩ :=
    (walks shop_read shop_reached shop_current).2 "buy" buy chosen stays _ _ sells
  exact ⟨view, next, after, dice, shop_read, shop_reached, shop_current, chosen, stays, sells,
    makes, left⟩

/-- The street has no choices and no branches, and its default target names a node. Yet buying ends
the dialogue. -/
theorem walks_nowhere : Registry.ofRecord shopContent = .ok shopGame.registry ∧
    Reachable shopGame shopSession ∧
    View.currentNode? shopGame.registry shopSession.state.cursor = .ok (some (shop, counter)) ∧
    counter.findChoice? "buy" = some buy ∧ shop.findNode? buy.next = some street ∧
    street.choices = [] ∧ street.branches = [] ∧ (shop.findNode? street.next).isSome ∧
    ∃ view next,
      Play.call shopGame (.action (.selectChoice "buy")) shopSession = .ok (.view view) next ∧
        next.state.cursor = none :=
  ⟨shop_read, shop_reached, shop_current, rfl, rfl, rfl, rfl, rfl, shop_sells⟩

end Fabula
