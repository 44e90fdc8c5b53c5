import Fabula.Proofs.Session.Reachable
import Fabula.Proofs.Typed.Action
/-!
# Runs of typed actions

A run of typed actions goes on after actions that fail. All sessions on the way are typed, so an
action fails because of a number out of range, or because the machine refuses a change of the phase.
The machine refuses nothing where all actions before have returned. Main statement:

* `act_outOfRange`: why typed actions fail.
-/

namespace Fabula
variable {game : Game} {session : Session}

def Game.trying (game : Game) : RunKind Unit where
  Begins _ session := ∃ (now : Moment) (roller : Roller) (notes : Nat), roller.Numeric ∧
    session = .new (game.at now) roller notes
  Goes _ turn _ := turn.IsIn game ∧ ∃ action : Action, turn.call = .action action ∧ action.Typed

def Tried (game : Game) (session : Session) : Prop :=
  Run game.trying () session

theorem Tried.typed (typed : game.Typed) (tried : Tried game session) : session.Typed := by
  have typedAt (now : Moment) : (game.at now).Typed := ⟨typed.registry, typed.locale⟩
  refine Run.keeps (I := fun _ session => session.Typed) tried ?_ ?_ fun _ _ _ => False.elim
  · rintro _ _ ⟨now, roller, notes, numeric, rfl⟩
    exact new_typed (typedAt now) numeric notes
  · rintro _ ⟨_, _, before⟩ _ ⟨⟨now, rfl⟩, action, rfl, isTyped⟩ typed
    exact (Play.act_sound (typedAt now) isTyped).keeps before typed

/-- References may lead anywhere, and still a typed action fails for two reasons only. A number is
out of range: an integer is too large to meet a float or to be written, or a float has no whole
part. Or the machine refuses a change of the phase, but then an action before has failed. -/
theorem act_outOfRange {content : Value} (read : Registry.ofRecord content = .ok game.registry)
    (typed : game.Typed) (tried : Tried game session) {action : Action} (isTyped : action.Typed)
    {failure : Failure} {next : Session}
    (fails : Play.act game action session = .error failure next) :
    failure.OutOfRange ∨ failure.IsTransition ∧ ¬ Reachable game session := by
  have sound := (Play.act_sound typed isTyped).fails session (tried.typed typed)
  rw [outcome_of_error fails] at sound
  rcases sound failure rfl with ranged | refused
  · exact .inl ranged
  · refine .inr ⟨refused, fun reached => ?_⟩
    have settled := reached.settled (registry_ofRecord_named content game.registry read)
    exact (Answering.call (.action action)).permitted session failure next settled fails refused

/-- A teller adds half a coin to the gold of the player, and a clerk tells how much gold there is.
The bank and the mint are further apart than a float can say, on a map that makes every way short.
-/
def purseContent : Value :=
  .object [
    ("characters", .list [.object [("id", "teller"), ("dialogue", "counter")],
      .object [("id", "clerk"), ("dialogue", "ledger")]]),
    ("dialogues", .list [
      .object [("id", "counter"), ("nodes", .list [.object [("id", "coin"),
        ("effects", .list [.object [("type", "addVariable"), ("variable", "gold"),
          ("value", .float 0.5)]])]])],
      .object [("id", "ledger"), ("nodes", .list [.object [("id", "sum"),
        ("text", "\x7bgold\x7d"), ("choices", .list [.object [("id", "leave")]])]])]]),
    ("maps", .list [.object [("id", "coast"), ("scale", .float 0.0), ("locations", .list [
      .object [("id", "bank"), ("x", .float 1e308)],
      .object [("id", "mint"), ("x", .float (-1e308))]])]])]

def tellerDialogue : Dialogue where
  id := "counter"
  startNode := "coin"
  nodes := [⟨"coin", .null, "", .null, .null, [], [.addVariable "gold" (.float 0.5)], [], .null⟩]
  triggerLocation := .null
  conditions := []

def clerkDialogue : Dialogue where
  id := "ledger"
  startNode := "sum"
  nodes := [⟨"sum", .null, "\x7bgold\x7d", .null, .null, [⟨"leave", "", "", [], []⟩], [], [],
    .null⟩]
  triggerLocation := .null
  conditions := []

def coastMap : TravelMap where
  id := "coast"
  name := "coast"
  image := ""
  scale := .float 0.0
  markers := [⟨"bank", .float 1e308, .int 0⟩, ⟨"mint", .float (-1e308), .int 0⟩]

def purseRegistry : Registry where
  locations := ∅
  characters := ⟨[(.text "teller", ⟨"teller", "teller", "", "", "", "counter", ∅⟩),
    (.text "clerk", ⟨"clerk", "clerk", "", "", "", "ledger", ∅⟩)]⟩
  items := ∅
  maps := ⟨[(.text "coast", coastMap)]⟩
  dialogues := ⟨[(.text "counter", tellerDialogue), (.text "ledger", clerkDialogue)]⟩
  quests := ∅
  journal := ∅
  interludes := ∅
  locales := ∅

def purseGame : Game where
  registry := purseRegistry
  settings := .standard
  now := ⟨2024, 1, 1, 0, 0, 0, 0, none⟩

def purseRoller : Roller where
  seed := .int 0
  source := .ofSeed 0
  draws := []
  recording := none
  refusal := none

def purseSetup (zeros : Nat) : Setup where
  location := "bank"
  time := .start
  flags := ∅
  bindings := ⟨[(.text "gold", .int (.ofNat (Nat.pow 10 zeros)))]⟩
  inventory := []

def purseBegins (zeros : Nat) : Turn :=
  ⟨purseGame, .action (.newGame (purseSetup zeros)), .new purseGame purseRoller 0⟩

def purseSession (zeros : Nat) : Session :=
  (purseBegins zeros).after

theorem purse_read : Registry.ofRecord purseContent = .ok purseGame.registry := rfl

theorem tellerDialogue_typed : tellerDialogue.Typed := by
  refine ⟨⟨_, rfl⟩, fun node listed => ?_⟩
  cases List.mem_singleton.mp listed
  exact ⟨.inl rfl, ⟨_, rfl⟩, by simp⟩

theorem clerkDialogue_typed : clerkDialogue.Typed := by
  refine ⟨⟨_, rfl⟩, fun node listed => ?_⟩
  cases List.mem_singleton.mp listed
  exact ⟨.inl rfl, ⟨_, rfl⟩, by simp [Value.IsText]⟩

theorem coastMap_typed : coastMap.Typed := by
  refine ⟨⟨_, rfl⟩, ⟨_, rfl⟩, ?_⟩
  simp only [coastMap, List.forall_mem_cons]
  exact ⟨⟨⟨_, rfl⟩, ⟨_, rfl⟩, ⟨_, rfl⟩⟩, ⟨⟨_, rfl⟩, ⟨_, rfl⟩, ⟨_, rfl⟩⟩, by simp⟩

theorem purse_typed : purseGame.Typed := by
  have none {α : Type} {P : α → Prop} : ∀ entry ∈ (∅ : Table α).values, P entry :=
    fun _ member => by cases member
  have person (id dialogue : String) : Character.Typed ⟨id, id, "", "", "", dialogue, ∅⟩ :=
    ⟨⟨_, rfl⟩, ⟨_, rfl⟩, .inr ⟨_, rfl⟩⟩
  refine ⟨⟨none, ?_, none, ?_, ?_, none, none, none, none⟩, ⟨_, rfl⟩⟩
  · simp [purseGame, purseRegistry, Table.values, person]
  · simp [purseGame, purseRegistry, Table.values, coastMap_typed]
  · simp [purseGame, purseRegistry, Table.values, tellerDialogue_typed, clerkDialogue_typed]

theorem purse_tried (zeros : Nat) : Tried purseGame (purseBegins zeros).after := by
  have numeric : purseRoller.Numeric := fun recording same => by cases same
  have starts : (purseSetup zeros).Typed :=
    ⟨⟨_, rfl⟩, ⟨⟨_, rfl⟩, ⟨_, rfl⟩⟩, fun item listed => by cases listed⟩
  have isTyped : Action.Typed (.newGame (purseSetup zeros)) := starts
  have new : Tried purseGame (.new purseGame purseRoller 0) :=
    .begin ⟨purseGame.now, purseRoller, 0, numeric, rfl⟩
  exact .turn new ⟨⟨purseGame.now, rfl⟩, _, rfl, isTyped⟩

def Play.excess? {α : Type} (computation : Play α) (session : Session) :
    Option (Option Excess) :=
  match (outcome computation session).1 with
  | .ok _ => none
  | .error failure => some failure.excess?

theorem Play.error_of_excess? {α : Type} {computation : Play α} {excess : Option Excess}
    (fails : computation.excess? session = some excess) :
    ∃ failure next, computation session = .error failure next ∧ failure.excess? = excess := by
  unfold excess? at fails
  split at fails
  · cases fails
  · next failure answer =>
    obtain ⟨reason, run⟩ := error_of_outcome (by rw [answer]; rfl)
    rw [outcome_of_error run] at answer
    cases answer
    exact ⟨_, _, run, Option.some.inj fails⟩

theorem teller_fails :
    (Play.act purseGame (.talkTo "teller")).excess? (purseSession 400) = some (some .tooLarge) := by
  decide +kernel

/-- A typed action can fail, and for each of these reasons: half a coin is more than can be added to
so large an integer, the way to the mint takes a time that is no number, and the clerk cannot write
down an integer so large. What the teller has begun, a look cannot end. -/
theorem purse_overflows :
    Registry.ofRecord purseContent = .ok purseGame.registry ∧ purseGame.Typed ∧
      (∀ zeros, Tried purseGame (purseSession zeros)) ∧
      (Play.act purseGame (.newGame (purseSetup 400))).excess?
        (.new purseGame purseRoller 0) = none ∧
      (Play.act purseGame (.talkTo "teller")).excess? (purseSession 400) =
        some (some .tooLarge) ∧
      (Play.act purseGame (.travelTo "mint")).excess? (purseSession 400) =
        some (some .notANumber) ∧
      (Play.act purseGame (.talkTo "clerk")).excess? (purseSession 4300) =
        some (some .tooManyDigits) ∧
      (Play.act purseGame .look).excess?
        ((Play.act purseGame (.talkTo "teller")).after (purseSession 400)) = some none := by
  refine ⟨purse_read, purse_typed, purse_tried, ?_, teller_fails, ?_, ?_, ?_⟩
  all_goals decide +kernel

theorem act_outOfRange_purse :
    Registry.ofRecord purseContent = .ok purseGame.registry ∧ purseGame.Typed ∧
      Tried purseGame (purseSession 400) ∧ Action.Typed (.talkTo "teller") ∧
      ∃ failure next,
        Play.act purseGame (.talkTo "teller") (purseSession 400) = .error failure next ∧
          (failure.OutOfRange ∨
            failure.IsTransition ∧ ¬ Reachable purseGame (purseSession 400)) := by
  have isTyped : Action.Typed (.talkTo "teller") := ⟨_, rfl⟩
  have tried := purse_tried 400
  obtain ⟨failure, next, fails, _⟩ := Play.error_of_excess? teller_fails
  have reason := act_outOfRange purse_read purse_typed tried isTyped fails
  exact ⟨purse_read, purse_typed, tried, isTyped, failure, next, fails, reason⟩

end Fabula
