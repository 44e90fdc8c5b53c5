import Fabula.Proofs.Session.Trail
import Mathlib.Logic.Function.Iterate
/-!
# Chains of starts end

Content may start dialogues in a circle. Starts are counted while they are followed, and the limit
of the settings is the only thing that ends such a chain. Main statements:

* `iterate_followFrom`: following calls itself no more often than the limit says;
* `starts_end`: no chain of starts is longer than the limit, one that would be longer leaves the
  dialogue, and a call comes to at most twice as many nodes and one more.
-/

namespace Fabula
variable {game : Game} {limit : Nat}

def Play.followFrom (game : Game) (limit : Nat) (recurse : Nat → Play Bool) (entered : Nat) :
    Play Bool := do
  let some id ← pending | return false
  if limit ≤ entered then
    endDialogue
    return true
  enter game (recurse (entered + 1)) id
  return true

theorem iterate_followFrom (beyond : Nat → Play Bool) (left : Nat) (le : left ≤ limit) :
    (Play.followFrom game limit)^[left + 1] beyond (limit - left) =
      Play.followWithin game left := by
  induction left with
  | zero =>
    show Play.followFrom game limit beyond limit = _
    funext session
    rw [Play.followFrom, Play.followWithin, Play.bind_of_ok (Play.pending_eq session),
      Play.bind_of_ok (Play.pending_eq session)]
    cases session.state.cursor.bind fun cursor =>
      if cursor.needsStart then some cursor.dialogue else none with
    | none => rfl
    | some id => simp only [Nat.le_refl, if_true, Option.isNone_some, Bool.false_eq_true, if_false]
  | succ left ih =>
    have next : limit - (left + 1) + 1 = limit - left := by omega
    have fewer : ¬ limit ≤ limit - (left + 1) := by omega
    rw [Function.iterate_succ_apply', Play.followFrom, Play.followWithin]
    refine congrArg (Play.pending >>= ·) (funext fun found => ?_)
    cases found with
    | none => rfl
    | some id => simp only [fewer, if_false, next, ih (by omega)]

/-- A chain of starts, with the number of dialogues that it enters and the cursors at both its ends.
At each of its links the cursor is on a dialogue that is still to be entered; a node is come to and
its effects are applied. -/
inductive Chain : Nat → Option Cursor → List Deed → Option Cursor → Prop
  | nil (cursor : Option Cursor) : Chain 0 cursor [] cursor
  | link {count : Nat} {cursor last : Option Cursor} {deeds : List Deed} {dialogue : Dialogue}
      {node : Node} (starts : Cursor.starts cursor)
      (rest :
        Chain count (node.effects.foldl Effect.steer (some ⟨dialogue.id, node.id⟩)) deeds last) :
      Chain (count + 1) cursor (.arrive dialogue node :: .apply node.effects :: deeds) last

/-- Every chain with which the deeds begin is at most as long as the limit. Where one of this length
would go on, the dialogue is left, unless the deeds end there because something has failed. -/
def Chain.Bound (limit : Nat) (failed : Bool) (cursor : Option Cursor) (deeds : List Deed) : Prop :=
  ∀ count last chain rest, Chain count cursor chain last → deeds = chain ++ rest →
    count ≤ limit ∧ (count = limit → Cursor.starts last →
      (∃ later, rest = .leave :: later) ∨ rest = [] ∧ failed)

namespace Chain
variable {count most : Nat} {cursor last : Option Cursor} {chain rest : List Deed} {trail : Trail}

theorem along (chained : Chain count cursor chain last) (same : trail.cursor = cursor)
    (ripe : trail.ripe) (holds : trail.Holds limit most (chain ++ rest)) :
    (chain.foldl Trail.after trail).cursor = last ∧ (chain.foldl Trail.after trail).ripe ∧
      (chain.foldl Trail.after trail).length = trail.length + count ∧
        (0 < count → trail.length + count ≤ limit) := by
  induction chained generalizing trail with
  | nil cursor => exact ⟨same, ripe, rfl, fun some => absurd some (Nat.lt_irrefl 0)⟩
  | @link count cursor last deeds dialogue node starts chained ih =>
    obtain ⟨arrives, applies, holds⟩ := holds
    have waits : trail.waits := by rwa [Trail.waits, same]
    have room : trail.length < limit := by
      rcases arrives.chain ripe waits with room | leaves
      · exact room
      · cases leaves
    have linked : ((trail.after (.arrive dialogue node)).after (.apply node.effects)).length =
        trail.length + 1 := by
      simp [Trail.after, ripe, waits]
    obtain ⟨cursor, ripe, all, within⟩ := ih rfl rfl holds
    rw [linked] at all within
    refine ⟨cursor, ripe, ?_, fun _ => ?_⟩
    · rw [List.foldl_cons, List.foldl_cons, all]
      omega
    · by_cases more : 0 < count
      · have bound := within more
        omega
      · omega

theorem bound_of_holds {deeds : List Deed} {failed : Bool} (positive : 1 ≤ limit)
    (ripe : trail.ripe) (holds : trail.Holds limit most deeds)
    (rests : failed = false → (deeds.foldl Trail.after trail).ripe →
      (deeds.foldl Trail.after trail).waits → (deeds.foldl Trail.after trail).length = 0) :
    Bound limit failed trail.cursor deeds := by
  rintro count last chain rest chained rfl
  obtain ⟨cursor, ripe, length, within⟩ := along chained rfl ripe holds
  refine ⟨?_, fun full starts => ?_⟩
  · by_cases some : 0 < count
    · have bound := within some
      omega
    · omega
  · have waits : (chain.foldl Trail.after trail).waits := by rwa [Trail.waits, cursor]
    cases rest with
    | nil =>
      refine .inr ⟨rfl, ?_⟩
      cases failed with
      | true => rfl
      | false =>
        rw [List.append_nil] at rests
        have none := rests rfl ripe waits
        omega
    | cons deed later =>
      have allowed := (Trail.holds_append.mp holds).2.1
      rcases allowed.chain ripe waits with room | rfl
      · omega
      · exact .inl ⟨later, rfl⟩

end Chain

theorem Settings.redirectLimit_of_int {settings : Settings} {limit : Nat}
    (limited : settings.maxRedirects = .int limit) : settings.redirectLimit = limit := by
  have whole : Number.same (.int limit) (.int limit) := by
    simp [Number.same, Number.value, Binary64.Extended.same]
  simp only [redirectLimit, limited, Value.int, Value.arithmetic?, Number.floor, whole, if_true,
    Int.toNat_natCast]

theorem Retells.told {α : Type} {telling : Telling α} {computation : Play α}
    (same : Retells telling computation) {session next : Session} {answer : Except Failure α}
    (run : outcome computation session = (answer, next)) :
    ∃ deeds, outcome telling ⟨session, []⟩ = (answer, ⟨next, deeds⟩) := by
  have told := same ⟨session, []⟩
  rw [run, Prod.ext_iff] at told
  obtain ⟨rfl, rfl⟩ := told
  exact ⟨(outcome telling ⟨session, []⟩).2.deeds, rfl⟩

/-- With a limit of `limit` starts, following calls itself no deeper than `limit + 1` times. The
dialogues that it enters are at most as many as the limit, and so are those of every chain of starts
in a call. A chain of this length that would go on ends with leaving the dialogue. A call comes to
at most twice as many nodes and one more, also if it fails. -/
theorem starts_end (limited : game.settings.maxRedirects = .int limit) (positive : 1 ≤ limit) :
    (∀ beyond, (Play.followFrom game limit)^[limit + 1] beyond 0 = Play.follow game) ∧
      (∀ session answer next, outcome (Play.follow game) session = (answer, next) →
        ∃ deeds, outcome (Telling.follow game) ⟨session, []⟩ = (answer, ⟨next, deeds⟩) ∧
          deeds.countP Deed.arrives ≤ limit ∧
          Chain.Bound limit (!answer.isOk) session.state.cursor deeds) ∧
      ∀ call session answer next, outcome (Play.call game call) session = (answer, next) →
        ∃ deeds, outcome (Telling.call game call) ⟨session, []⟩ = (answer, ⟨next, deeds⟩) ∧
          next.state.cursor = deeds.foldl Deed.steer session.state.cursor ∧
          deeds.countP Deed.arrives ≤ 2 * limit + 1 ∧
          ∀ before deed rest, deeds = before ++ deed :: rest → deed.arrives = false →
            Chain.Bound limit (!answer.isOk)
              ((before ++ [deed]).foldl Deed.steer session.state.cursor) rest := by
  have limited := Settings.redirectLimit_of_int limited
  refine ⟨fun beyond => ?_, fun session answer next run => ?_,
    fun call session answer next run => ?_⟩
  · rw [Play.follow, limited, ← iterate_followFrom beyond limit (Nat.le_refl limit), Nat.sub_self]
  · obtain ⟨deeds, told⟩ := Retells.follow.told run
    -- A start that is found where following begins is the first of its chain.
    have within : 0 + limit ≤ limit := Nat.le_of_eq (Nat.zero_add limit)
    have tracks := Telling.Tracks.follow limited within
    obtain ⟨done, same, holds, _, returns⟩ :=
      tracks ⟨session, []⟩ ⟨session.state.cursor, true, 0, 0⟩
      rfl ⟨fun _ _ => within, Nat.le_refl 0⟩
    rw [told] at same returns
    obtain rfl : deeds = done := same
    refine ⟨deeds, told, ?_, Chain.bound_of_holds positive rfl holds fun returned => ?_⟩
    · have few := holds.arrived_le (Nat.zero_le limit)
      rwa [Trail.arrived_of_foldl, Nat.zero_add] at few
    · cases answer with
      | ok led => exact (returns led rfl).rests.fresh
      | error failure => cases returned
  · obtain ⟨deeds, told⟩ := (retells_call call).told run
    have tracks := Telling.Tracks.call limited positive (Nat.le_refl (1 + limit + limit)) call
    obtain ⟨done, same, holds, cursor, returns⟩ := tracks ⟨session, []⟩
      ⟨session.state.cursor, false, 0, 0⟩ rfl ⟨rfl, rfl, rfl⟩
    rw [told] at same cursor returns
    obtain rfl : deeds = done := same
    refine ⟨deeds, told, ?_, ?_, ?_⟩
    · rw [← cursor, Trail.cursor_of_foldl]
    · have few := holds.arrived_le (Nat.zero_le _)
      rw [Trail.arrived_of_foldl, Nat.zero_add] at few
      omega
    · rintro before deed rest rfl plain
      have split : before ++ deed :: rest = (before ++ [deed]) ++ rest := List.append_cons ..
      rw [split] at holds returns
      have ripe : ((before ++ [deed]).foldl Trail.after
          ⟨session.state.cursor, false, 0, 0⟩).ripe := by
        simp only [List.foldl_append, List.foldl_cons, List.foldl_nil, Trail.after, plain,
          Bool.not_false]
      have place :
          ((before ++ [deed]).foldl Trail.after ⟨session.state.cursor, false, 0, 0⟩).cursor =
          (before ++ [deed]).foldl Deed.steer session.state.cursor := Trail.cursor_of_foldl _
      rw [← place]
      refine Chain.bound_of_holds positive ripe (Trail.holds_append.mp holds).2
        fun returned _ _ => ?_
      rw [← List.foldl_append]
      cases answer with
      | ok reply => exact returns reply rfl
      | error failure => cases returned

/-- A dialogue that starts itself, in a hall where a dream starts it once more. -/
def echoContent : Value :=
  .object [
    ("dialogues", .list [.object [("id", "echo"), ("trigger_location", "hall"),
      ("nodes", .list [.object [("id", "call"), ("effects", .list ["START dialogue echo"])]])]]),
    ("interludes", .list [.object [("id", "dream"), ("trigger_location", "hall"),
      ("effects", .list ["START dialogue echo"])]])]

def echoNode : Node where
  id := "call"
  speaker := .null
  text := ""
  voice := .null
  portrait := .null
  choices := []
  effects := [.startDialogue "echo"]
  branches := []
  next := .null

def echoDream : Interlude where
  id := "dream"
  background := ""
  text := ""
  banner := .null
  music := .null
  voice := .null
  sounds := []
  scroll := .null
  scrollSpeed := .null
  triggerLocation := "hall"
  conditions := []
  effects := [.startDialogue "echo"]

def echoRegistry : Registry where
  locations := ∅
  characters := ∅
  items := ∅
  maps := ∅
  dialogues := ⟨[(.text "echo", ⟨"echo", "call", [echoNode], "hall", []⟩)]⟩
  quests := ∅
  journal := ∅
  interludes := ⟨[(.text "dream", echoDream)]⟩
  locales := ∅

def echoGame : Game where
  registry := echoRegistry
  settings := { Settings.standard with maxRedirects := .int 2 }
  now := ⟨2024, 1, 1, 0, 0, 0, 0, none⟩

def echoSetup : Setup :=
  ⟨"hall", Clock.start, ∅, ∅, []⟩

def echoSession : Session :=
  .new echoGame guideRoller 0

theorem echo_read : Registry.ofRecord echoContent = .ok echoGame.registry := rfl

/-- The circle is cut after the first two starts of the dialogue, and once more after two. -/
theorem starts_end_echo : Registry.ofRecord echoContent = .ok echoGame.registry ∧
    echoGame.settings.maxRedirects = .int (2 : Nat) ∧ ∃ answer next deeds,
      outcome (Play.call echoGame (.action (.newGame echoSetup))) echoSession = (answer, next) ∧
      outcome (Telling.call echoGame (.action (.newGame echoSetup))) ⟨echoSession, []⟩ =
        (answer, ⟨next, deeds⟩) ∧
      answer.isOk ∧ deeds.countP Deed.arrives = 2 * 2 + 1 ∧
      deeds.foldl Deed.steer echoSession.state.cursor = none ∧
      ∀ before deed rest, deeds = before ++ deed :: rest → deed.arrives = false →
        Chain.Bound 2 (!answer.isOk)
          ((before ++ [deed]).foldl Deed.steer echoSession.state.cursor) rest := by
  have returns : (outcome (Play.call echoGame (.action (.newGame echoSetup)))
      echoSession).1.isOk := by decide +kernel
  have arrives : (outcome (Telling.call echoGame (.action (.newGame echoSetup)))
      ⟨echoSession, []⟩).2.deeds.countP Deed.arrives = 5 := by decide +kernel
  have leaves : ((outcome (Telling.call echoGame (.action (.newGame echoSetup)))
      ⟨echoSession, []⟩).2.deeds.foldl Deed.steer echoSession.state.cursor).isNone := by
    decide +kernel
  obtain ⟨⟨answer, next⟩, run⟩ : ∃ ran,
      outcome (Play.call echoGame (.action (.newGame echoSetup))) echoSession = ran := ⟨_, rfl⟩
  have limited : echoGame.settings.maxRedirects = .int (2 : Nat) := rfl
  obtain ⟨deeds, told, _, _, chains⟩ := (starts_end limited (by decide)).2.2
    (.action (.newGame echoSetup)) echoSession answer next run
  rw [run] at returns
  rw [told] at arrives leaves
  exact ⟨echo_read, limited, answer, next, deeds, run, told, returns, arrives,
    Option.isNone_iff_eq_none.mp leaves, chains⟩

end Fabula
