import Fabula.Proofs.Session.CallMeaning
/-!
# The trail of starts

An effect can start a dialogue whose effects start the next one, and so on. The trail of an account
is what its deeds say about such a chain. Of every trail it is demanded that a chain which is as
long as it may be only leads out of the dialogue, and that the account comes to no more nodes than
it may. `Tracks` is the rule of a logic for this: it has one lemma for each function of a session,
and what it says holds also of computations that fail. Main statement:

* `Tracks.call`: the trail of every call keeps to the limit on starts.
-/

namespace Fabula
variable {α β : Type} {game : Game}

/-! ## Trails -/

namespace Deed

def steer (cursor : Option Cursor) : Deed → Option Cursor
  | .apply effects => effects.foldl Effect.steer cursor
  | .arrive dialogue node => some ⟨dialogue.id, node.id⟩
  | .hop dialogue target => some ⟨dialogue.id, target⟩
  | .leave | .depart _ | .begin _ => none
  | .restore state => state.cursor
  | .command order => order.steer cursor
  | .fire _ | .wait _ | .carry _ | .write _ | .delete _ | .translate _ | .clear => cursor

def arrives : Deed → Bool
  | .arrive _ _ => true
  | _ => false

end Deed

def Cursor.starts (cursor : Option Cursor) : Bool :=
  cursor.any needsStart

/-- What deeds have left behind: the cursor, how many nodes they have come to, and how many
dialogues have been entered in the chain of starts that is going on. A start is ripe if it is to be
entered next: it was not found where the deeds begin, and no effects of a node come first. -/
structure Trail where
  cursor : Option Cursor
  ripe : Bool
  length : Nat
  arrived : Nat

namespace Trail

def waits (trail : Trail) : Bool :=
  Cursor.starts trail.cursor

/-- Effects go on with a chain, and an arrival at a ripe start is its next link. Any other deed
breaks it. -/
def after (trail : Trail) (deed : Deed) : Trail where
  cursor := deed.steer trail.cursor
  ripe := !deed.arrives
  length := match deed with
    | .apply _ => trail.length
    | .arrive _ _ => if trail.ripe && trail.waits then trail.length + 1 else 0
    | _ => 0
  arrived := if deed.arrives then trail.arrived + 1 else trail.arrived

/-- A chain of `limit` starts allows nothing but to leave, and at most `most` nodes are come to. -/
structure Allows (limit most : Nat) (trail : Trail) (deed : Deed) : Prop where
  chain : trail.ripe → trail.waits → trail.length < limit ∨ deed = .leave
  arrivals : deed.arrives → trail.arrived < most

def Holds (limit most : Nat) : Trail → List Deed → Prop
  | _, [] => True
  | trail, deed :: rest => trail.Allows limit most deed ∧ Holds limit most (trail.after deed) rest

variable {limit most bound : Nat} {trail : Trail} {deed : Deed}

theorem holds_append {deeds later : List Deed} : trail.Holds limit most (deeds ++ later) ↔
    trail.Holds limit most deeds ∧ (deeds.foldl after trail).Holds limit most later := by
  induction deeds generalizing trail with
  | nil => simp [Holds]
  | cons deed rest ih => simp [Holds, ih, and_assoc]

theorem cursor_of_foldl (deeds : List Deed) :
    (deeds.foldl after trail).cursor = deeds.foldl Deed.steer trail.cursor := by
  induction deeds generalizing trail with
  | nil => rfl
  | cons deed rest ih => exact ih

theorem arrived_of_foldl (deeds : List Deed) :
    (deeds.foldl after trail).arrived = trail.arrived + deeds.countP Deed.arrives := by
  induction deeds generalizing trail with
  | nil => rfl
  | cons deed rest ih =>
    rw [List.foldl_cons, ih, List.countP_cons]
    simp only [after]
    split <;> omega

theorem Holds.arrived_le {deeds : List Deed} (holds : trail.Holds limit most deeds)
    (few : trail.arrived ≤ most) : (deeds.foldl after trail).arrived ≤ most := by
  induction deeds generalizing trail with
  | nil => exact few
  | cons deed rest ih =>
    refine ih holds.2 ?_
    have more := holds.1.arrivals
    simp only [after]
    split
    · next arrives => exact more arrives
    · exact few

/-! ## What is known along a trail -/

structure Opens (trail : Trail) : Prop where
  unripe : trail.ripe = false
  fresh : trail.length = 0
  few : trail.arrived = 0

structure Idle (bound : Nat) (trail : Trail) : Prop where
  idle : trail.ripe → trail.waits = false
  few : trail.arrived ≤ bound

structure Rests (bound : Nat) (trail : Trail) : Prop where
  fresh : trail.ripe → trail.waits → trail.length = 0
  few : trail.arrived ≤ bound

structure HasRoom (limit room bound : Nat) (trail : Trail) : Prop where
  chain : trail.ripe → trail.waits → trail.length + room ≤ limit
  few : trail.arrived ≤ bound

structure Followed (room bound : Nat) (followed : Bool) (trail : Trail) : Prop where
  rests : trail.Rests (bound + room)
  idle : followed = false → trail.Idle bound

theorem Opens.idle (opens : trail.Opens) : trail.Idle 0 where
  idle ripe := by simp [opens.unripe] at ripe
  few := Nat.le_of_eq opens.few

theorem Idle.rests (idle : trail.Idle bound) : trail.Rests bound where
  fresh ripe waits := by simp [idle.idle ripe] at waits
  few := idle.few

theorem Idle.hasRoom (idle : trail.Idle bound) (room : Nat) :
    trail.HasRoom limit room bound where
  chain ripe waits := by simp [idle.idle ripe] at waits
  few := idle.few

theorem Idle.allows (idle : trail.Idle bound) (stays : deed.arrives = false) :
    trail.Allows limit most deed where
  chain ripe waits := by simp [idle.idle ripe] at waits
  arrivals arrives := by simp [stays] at arrives

theorem Rests.hasRoom (rests : trail.Rests bound) : trail.HasRoom limit limit bound where
  chain ripe waits := by
    have fresh := rests.fresh ripe waits
    omega
  few := rests.few

theorem Rests.mono {more : Nat} (rests : trail.Rests bound) (le : bound ≤ more) :
    trail.Rests more :=
  ⟨rests.fresh, Nat.le_trans rests.few le⟩

theorem Rests.allows (rests : trail.Rests bound) (positive : 1 ≤ limit)
    (stays : deed.arrives = false) : trail.Allows limit most deed where
  chain ripe waits := by
    have fresh := rests.fresh ripe waits
    exact .inl (by omega)
  arrivals arrives := by simp [stays] at arrives

theorem allows_leave : trail.Allows limit most .leave :=
  ⟨fun _ _ => .inr rfl, fun arrives => by simp [Deed.arrives] at arrives⟩

theorem rests_after (few : trail.arrived ≤ bound) (stays : deed.arrives = false)
    (breaks : (trail.after deed).length = 0) : (trail.after deed).Rests bound where
  fresh _ _ := breaks
  few := by simpa [after, stays] using few

theorem HasRoom.unfollowed {room : Nat} (free : trail.HasRoom limit room bound)
    (idle : trail.waits = false) : trail.Followed room bound false where
  rests := ⟨fun _ waits => by simp [idle] at waits, Nat.le_trans free.few (Nat.le_add_right _ _)⟩
  idle _ := ⟨fun _ => idle, free.few⟩

theorem Rests.followed {room : Nat} (rests : trail.Rests (bound + room)) :
    trail.Followed room bound true :=
  ⟨rests, fun unfollowed => by cases unfollowed⟩

structure Visits (limit room bound : Nat) (trail : Trail) : Prop where
  unripe : trail.ripe = false
  chain : trail.length + room ≤ limit
  few : trail.arrived ≤ bound

theorem HasRoom.allows_arrive {room : Nat} (free : trail.HasRoom limit (room + 1) bound)
    (more : bound < most) (dialogue : Dialogue) (node : Node) :
    trail.Allows limit most (.arrive dialogue node) where
  chain ripe waits := by
    have chain := free.chain ripe waits
    exact .inl (by omega)
  arrivals _ := Nat.lt_of_le_of_lt free.few more

theorem HasRoom.visits {room : Nat} (free : trail.HasRoom limit (room + 1) bound)
    (le : room ≤ limit) (dialogue : Dialogue) (node : Node) :
    (trail.after (.arrive dialogue node)).Visits limit room (bound + 1) where
  unripe := rfl
  chain := by
    simp only [after]
    split
    · next link =>
      simp only [Bool.and_eq_true] at link
      have chain := free.chain link.1 link.2
      omega
    · omega
  few := Nat.succ_le_succ free.few

theorem Visits.allows {room : Nat} (visits : trail.Visits limit room bound)
    (effects : List Effect) : trail.Allows limit most (.apply effects) where
  chain ripe := by simp [visits.unripe] at ripe
  arrivals arrives := by simp [Deed.arrives] at arrives

theorem Visits.hasRoom {room : Nat} (visits : trail.Visits limit room bound)
    (effects : List Effect) : (trail.after (.apply effects)).HasRoom limit room bound where
  chain _ _ := visits.chain
  few := visits.few

end Trail

/-! ## The logic -/

namespace Telling

/-- Whether the deeds of a computation that begins where `P` holds of the trail keep to its limits,
also if it fails, and where `R` holds of what it returns. -/
def Tracks (limit most : Nat) (P : Trail → Prop) (telling : Telling α) (R : α → Trail → Prop) :
    Prop :=
  ∀ account trail, trail.cursor = account.session.state.cursor → P trail → ∃ deeds,
    (outcome telling account).2.deeds = account.deeds ++ deeds ∧ trail.Holds limit most deeds ∧
      (deeds.foldl Trail.after trail).cursor = (outcome telling account).2.session.state.cursor ∧
        ∀ a, (outcome telling account).1 = .ok a → R a (deeds.foldl Trail.after trail)

namespace Tracks
variable {limit most bound room : Nat} {P Q : Trail → Prop} {R : α → Trail → Prop}
  {S : β → Trail → Prop}

theorem imp {telling : Telling α} {T : α → Trail → Prop}
    (tracks : Tracks limit most P telling R) (pre : ∀ trail, Q trail → P trail)
    (post : ∀ a trail, R a trail → T a trail) : Tracks limit most Q telling T := by
  intro account trail same holds
  obtain ⟨deeds, told, keeps, last, known⟩ := tracks account trail same (pre trail holds)
  exact ⟨deeds, told, keeps, last, fun a returns => post a _ (known a returns)⟩

theorem of_imp {telling : Telling α} (tracks : Tracks limit most P telling R)
    (pre : ∀ trail, Q trail → P trail) : Tracks limit most Q telling R :=
  tracks.imp pre fun _ _ known => known

theorem bind {first : Telling α} {next : α → Telling β} (early : Tracks limit most P first R)
    (late : ∀ a, Tracks limit most (R a) (next a) S) :
    Tracks limit most P (first >>= next) S := by
  intro account trail same holds
  obtain ⟨deeds, told, keeps, last, known⟩ := early account trail same holds
  rw [outcome_bind]
  cases answer : (outcome first account).1 with
  | error failure => exact ⟨deeds, told, keeps, last, fun a returns => by cases returns⟩
  | ok a =>
    obtain ⟨later, toldLater, keepsLater, lastLater, knownLater⟩ :=
      late a (outcome first account).2 _ last (known a answer)
    refine ⟨deeds ++ later, ?_, Trail.holds_append.mpr ⟨keeps, keepsLater⟩, ?_, ?_⟩
    · rw [toldLater, told, List.append_assoc]
    · rwa [List.foldl_append]
    · rwa [List.foldl_append]

/-! ## Single steps -/

theorem pure (a : α) : Tracks limit most P (Pure.pure a) fun b trail => b = a ∧ P trail := by
  intro account trail same holds
  refine ⟨[], (List.append_nil _).symm, trivial, same, ?_⟩
  rintro b ⟨⟩
  exact ⟨rfl, holds⟩

theorem calm {computation : Play α}
    (keeps : ∀ session, (Play.after computation session).state = session.state) :
    Tracks limit most P (silently computation) fun _ => P := by
  intro account trail same holds
  have kept := keeps account.session
  have told : outcome (silently computation) account =
      ((outcome computation account.session).1,
        ⟨(outcome computation account.session).2, account.deeds⟩) := by
    unfold outcome silently
    cases computation account.session <;> rfl
  rw [told]
  refine ⟨[], (List.append_nil _).symm, trivial, ?_, fun _ _ => holds⟩
  show trail.cursor = (Play.after computation account.session).state.cursor
  rw [kept, same]

theorem silent {computation : Play α} (quiet : computation.Stays) :
    Tracks limit most P (silently computation) fun _ => P :=
  .calm fun session => (quiet session).state

theorem after {computation : Play α} {next : α → Telling β} (quiet : computation.Stays)
    (rest : ∀ a, Tracks limit most P (next a) S) :
    Tracks limit most P (silently computation >>= next) S :=
  .bind (.silent quiet) rest

theorem after_rolling {computation : Rolling α} {next : α → Telling β}
    (rest : ∀ a, (∃ roller rolled, computation roller = .ok a rolled) →
      Tracks limit most P (next a) S) :
    Tracks limit most P (silently (Play.rolling game computation) >>= next) S := by
  intro account trail same holds
  have quiet : (Play.rolling game computation).Stays := .rolling computation
  have kept := quiet account.session
  rw [outcome_bind]
  cases run : Play.rolling game computation account.session with
  | ok a last =>
    have told : silently (Play.rolling game computation) account =
        .ok a { account with session := last } := by rw [silently, run]
    rw [Play.after_of_ok run] at kept
    rw [outcome_of_ok told]
    obtain ⟨rolled, returns⟩ := Play.ok_of_rolling run
    exact rest a ⟨_, rolled, returns⟩ _ trail (same.trans (congrArg _ kept.state.symm)) holds
  | error failure last =>
    have told : silently (Play.rolling game computation) account =
        .error failure { account with session := last } := by rw [silently, run]
    rw [Play.after_of_error run] at kept
    rw [outcome_of_error told]
    exact ⟨[], (List.append_nil _).symm, trivial, same.trans (congrArg _ kept.state.symm),
      fun _ returns => by cases returns⟩

theorem after_lift {result : Except Failure α} {next : α → Telling β}
    (rest : ∀ a, result = .ok a → Tracks limit most P (next a) S) :
    Tracks limit most P (liftM result >>= next) S := by
  intro account trail same holds
  rw [outcome_bind, outcome_lift]
  cases result with
  | error failure =>
    exact ⟨[], (List.append_nil _).symm, trivial, same, fun _ returns => by cases returns⟩
  | ok a => exact rest a rfl account trail same holds

theorem after_state {next : GameState → Telling β}
    (rest : ∀ state, Tracks limit most (fun trail => P trail ∧ trail.cursor = state.cursor)
      (next state) S) : Tracks limit most P (silently Play.state >>= next) S := by
  intro account trail same holds
  have asked : silently Play.state account = .ok account.session.state account := rfl
  rw [outcome, Play.bind_of_ok asked]
  exact rest _ account trail same ⟨holds, same⟩

theorem after_pending {next : Option Value → Telling β}
    (nothing : Tracks limit most (fun trail => P trail ∧ trail.waits = false) (next none) S)
    (something : ∀ id, Tracks limit most (fun trail => P trail ∧ trail.waits) (next (some id)) S) :
    Tracks limit most P (silently Play.pending >>= next) S := by
  intro account trail same holds
  have asked : silently Play.pending account =
      .ok (account.session.state.cursor.bind fun cursor =>
        if cursor.needsStart then some cursor.dialogue else none) account := by
    rw [silently, Play.pending_eq]
  rw [outcome, Play.bind_of_ok asked, ← same]
  cases place : trail.cursor with
  | none => exact nothing account trail same ⟨holds, by simp [Trail.waits, Cursor.starts, place]⟩
  | some cursor =>
    cases waits : cursor.needsStart with
    | false =>
      simp only [Option.bind_some, waits, Bool.false_eq_true, if_false]
      exact nothing account trail same ⟨holds, by simp [Trail.waits, Cursor.starts, place, waits]⟩
    | true =>
      simp only [Option.bind_some, waits, if_true]
      exact something _ account trail same
        ⟨holds, by simp [Trail.waits, Cursor.starts, place, waits]⟩

theorem put {deed : Deed} {state : GameState} {R : Unit → Trail → Prop}
    (steers : ∀ trail, P trail → state.cursor = deed.steer trail.cursor)
    (allows : ∀ trail, P trail → trail.Allows limit most deed)
    (leads : ∀ trail, P trail → R () (trail.after deed)) :
    Tracks limit most P (put deed state) R :=
  fun _ trail _ holds => ⟨[deed], rfl, ⟨allows trail holds, trivial⟩, (steers trail holds).symm,
    fun _ _ => leads trail holds⟩

theorem setCursor {deed : Deed} {cursor : Option Cursor} {R : Unit → Trail → Prop}
    (steers : ∀ trail : Trail, cursor = deed.steer trail.cursor)
    (allows : ∀ trail, P trail → trail.Allows limit most deed)
    (leads : ∀ trail, P trail → R () (trail.after deed)) :
    Tracks limit most P (setCursor deed cursor) R :=
  .after_state fun _ => .put (fun trail _ => steers trail) (fun trail known => allows trail known.1)
    fun trail known => leads trail known.1

theorem endDialogue {R : Unit → Trail → Prop}
    (leads : ∀ trail, P trail → R () (trail.after .leave)) :
    Tracks limit most P endDialogue R :=
  .setCursor (fun _ => rfl) (fun _ _ => Trail.allows_leave) leads

/-! ## Effects and the clock -/

theorem alter {deed : Deed} {change : GameState → Rolling GameState} {reason : String}
    {R : Unit → Trail → Prop}
    (steers : ∀ before after roller rolled, change before roller = .ok after rolled →
      after.cursor = deed.steer before.cursor)
    (allows : ∀ trail, P trail → trail.Allows limit most deed)
    (leads : ∀ trail, P trail → R () (trail.after deed)) :
    Tracks limit most P (alter game deed change reason) R := by
  refine .after_state fun before => .after_rolling fun after ⟨roller, rolled, changes⟩ => ?_
  refine .bind (R := R) (.put ?_ (fun trail known => allows trail known.1)
    fun trail known => leads trail known.1) fun _ => ?_
  · intro trail known
    rw [steers before after roller rolled changes, known.2]
  · split
    · exact .silent (.logTimeStep _ _ _ _)
    · exact (pure ()).imp (fun _ known => known) fun _ _ known => known.2

theorem perform {effects : List Effect} {reason : String} {R : Unit → Trail → Prop}
    (allows : ∀ trail, P trail → trail.Allows limit most (.apply effects))
    (leads : ∀ trail, P trail → R () (trail.after (.apply effects))) :
    Tracks limit most P (perform game effects reason) R :=
  .alter (fun _ _ _ _ applies => (meaning_of_applyAll applies).cursor) allows leads

theorem advanceClock {hours : Int} {reason : String} {R : Unit → Trail → Prop}
    (allows : ∀ trail, P trail → trail.Allows limit most (.wait hours))
    (leads : ∀ trail, P trail → R () (trail.after (.wait hours))) :
    Tracks limit most P (advanceClock game hours reason) R := by
  refine .after_state fun before => .after_lift fun time _ => .bind (R := R)
    (.put (fun trail known => known.2.symm) (fun trail known => allows trail known.1)
      fun trail known => leads trail known.1) fun _ => ?_
  exact .silent (.logTimeStep _ _ _ _)

/-! ## Walking -/

theorem hop (dialogue : Dialogue) (node : Node) :
    Tracks limit most (Trail.Idle bound) (hop game dialogue node) fun _ => Trail.Rests bound := by
  refine .after (.findTarget node) fun target => ?_
  have leaves : Tracks limit most (Trail.Idle bound) Telling.endDialogue
      fun _ => Trail.Rests bound :=
    .endDialogue fun trail idle => Trail.rests_after idle.few rfl rfl
  cases target with
  | none => exact leaves
  | some target =>
    dsimp only
    split
    · exact .setCursor (fun _ => rfl) (fun trail idle => idle.allows rfl)
        fun trail idle => Trail.rests_after idle.few rfl rfl
    · exact leaves

theorem arrive {told : Telling Bool} (within : room ≤ limit) (more : bound < most)
    (follows : Tracks limit most (Trail.HasRoom limit room (bound + 1)) told
      (Trail.Followed room (bound + 1))) (dialogue : Dialogue) (node : Node) :
    Tracks limit most (Trail.HasRoom limit (room + 1) bound) (arrive game told dialogue node)
      fun _ => Trail.Rests (bound + 1 + room) := by
  refine .bind (R := fun _ => Trail.Visits limit room (bound + 1))
    (.setCursor (fun _ => rfl) (fun trail free => free.allows_arrive more _ _)
      fun trail free => free.visits within _ _) fun _ => ?_
  refine .bind (R := fun _ => Trail.HasRoom limit room (bound + 1))
    (.perform (fun trail visits => visits.allows _) fun trail visits => visits.hasRoom _)
    fun _ => ?_
  refine .bind follows fun followed => ?_
  cases followed with
  | true => exact (pure ()).imp (fun _ known => known) fun _ _ known => known.2.rests
  | false =>
    refine .after .state fun state => ?_
    split
    · exact (hop dialogue node).imp (fun _ known => known.idle rfl)
        fun _ _ rests => rests.mono (Nat.le_add_right _ _)
    · exact (pure ()).imp (fun _ known => known) fun _ _ known => known.2.rests

theorem enter {told : Telling Bool} (within : room ≤ limit) (more : bound < most)
    (follows : Tracks limit most (Trail.HasRoom limit room (bound + 1)) told
      (Trail.Followed room (bound + 1))) (id : Value) :
    Tracks limit most (Trail.HasRoom limit (room + 1) bound) (enter game told id)
      fun _ => Trail.Rests (bound + 1 + room) := by
  refine .after_lift fun found _ => ?_
  cases found with
  | some place => exact .arrive within more follows _ _
  | none =>
    refine .after_pending ?_ fun id => ?_
    · refine (pure ()).imp (fun _ known => known) fun _ trail known => ?_
      obtain ⟨_, free, idle⟩ := known
      exact ⟨fun _ waits => by simp [idle] at waits, Nat.le_trans free.few (by omega)⟩
    · exact .endDialogue fun trail known =>
        Trail.rests_after (Nat.le_trans known.1.few (by omega)) rfl rfl

theorem followWithin (within : room ≤ limit) (more : bound + room ≤ most) :
    Tracks limit most (Trail.HasRoom limit room bound) (followWithin game room)
      (Trail.Followed room bound) := by
  -- Each start that is entered takes one from the room of the chain and one from the arrivals.
  induction room generalizing bound with
  | zero =>
    refine .after_pending ?_ fun id => ?_
    · refine (pure false).imp (fun _ known => known) fun _ trail known => ?_
      obtain ⟨rfl, free, idle⟩ := known
      exact free.unfollowed idle
    · refine .bind (R := fun _ => Trail.Rests bound) (.endDialogue fun trail known =>
        Trail.rests_after known.1.few rfl rfl) fun _ => ?_
      refine (pure true).imp (fun _ known => known) fun _ trail known => ?_
      obtain ⟨rfl, rests⟩ := known
      exact Trail.Rests.followed rests
  | succ room ih =>
    refine .after_pending ?_ fun id => ?_
    · refine (pure false).imp (fun _ known => known) fun _ trail known => ?_
      obtain ⟨rfl, free, idle⟩ := known
      exact free.unfollowed idle
    · have entered : Tracks limit most (Trail.HasRoom limit (room + 1) bound)
          (Telling.enter game (Telling.followWithin game room) id)
          fun _ => Trail.Rests (bound + 1 + room) :=
        .enter (by omega) (by omega) (ih (by omega) (by omega)) id
      refine .bind (entered.of_imp fun _ known => known.1) fun _ => ?_
      refine (pure true).imp (fun _ known => known) fun _ trail known => ?_
      obtain ⟨rfl, rests⟩ := known
      exact Trail.Rests.followed (rests.mono (by omega))

/-! ## Parts of actions -/

section
variable (limited : game.settings.redirectLimit = limit)
include limited

theorem follow (more : bound + limit ≤ most) :
    Tracks limit most (Trail.HasRoom limit limit bound) (follow game)
      (Trail.Followed limit bound) := by
  rw [Telling.follow, limited]
  exact .followWithin (Nat.le_refl limit) more

theorem enterAnew (more : bound + 1 + limit ≤ most) (id : Value) :
    Tracks limit most (Trail.Idle bound) (Telling.enter game (Telling.follow game) id)
      fun _ => Trail.Rests (bound + 1 + limit) :=
  (enter (Nat.le_refl limit) (by omega) (.follow limited more) id).of_imp
    fun _ idle => idle.hasRoom _

theorem arriveAnew (more : bound + 1 + limit ≤ most) (dialogue : Dialogue) (node : Node) :
    Tracks limit most (Trail.Idle bound) (Telling.arrive game (Telling.follow game) dialogue node)
      fun _ => Trail.Rests (bound + 1 + limit) :=
  (arrive (Nat.le_refl limit) (by omega) (.follow limited more) dialogue node).of_imp
    fun _ idle => idle.hasRoom _

theorem fireDialogue (more : bound + 1 + limit ≤ most) (location : Value) :
    Tracks limit most (Trail.Idle bound) (fireDialogue game location)
      fun _ => Trail.Rests (bound + 1 + limit) := by
  refine .after (.findM? fun _ => .firesAt _ _) fun found => ?_
  cases found with
  | some dialogue => exact .enterAnew limited more dialogue.id
  | none =>
    exact (pure ()).imp (fun _ idle => idle) fun _ _ known => known.2.rests.mono (by omega)

omit limited in
theorem fireInterlude (positive : 1 ≤ limit) (location : Value) :
    Tracks limit most (Trail.Rests bound) (fireInterlude game location)
      fun _ => Trail.Rests bound := by
  refine .after (.findM? fun _ => .interludeFiresAt _ _) fun found => ?_
  cases found with
  | some interlude =>
    refine .after_state fun state => ?_
    refine .bind (R := fun _ trail => trail.length = 0 ∧ trail.arrived ≤ bound)
      (.put (fun trail known => known.2.symm) (fun trail known => known.1.allows positive rfl)
        fun trail known => ⟨rfl, known.1.few⟩) fun _ => ?_
    refine .perform (fun trail known => ?_) fun trail known => ?_
    · have rests : trail.Rests bound := ⟨fun _ _ => known.1, known.2⟩
      exact rests.allows positive rfl
    · exact ⟨fun _ _ => known.1, known.2⟩
  | none => exact (pure ()).imp (fun _ rests => rests) fun _ _ known => known.2

theorem fireTriggers (positive : 1 ≤ limit) (more : bound + 1 + limit ≤ most) :
    Tracks limit most (Trail.Idle bound) (fireTriggers game)
      fun _ => Trail.Rests (bound + 1 + limit) :=
  .after .state fun _ => .bind (.fireDialogue limited more _) fun _ => .fireInterlude positive _

theorem finish (positive : 1 ≤ limit) (more : bound + limit ≤ most) (trigger : String) :
    Tracks limit most (Trail.Rests bound) (finish game trigger)
      fun _ trail => trail.length = 0 := by
  have observed : Tracks limit most (Trail.Rests (bound + limit))
      (silently (Play.observe game trigger)) fun _ => Trail.Rests (bound + limit) := by
    refine .calm fun session => ?_
    cases run : Play.observe game trigger session with
    | ok a last =>
      rw [Play.after_of_ok run]
      exact (Play.ok_of_observe run).1
    | error failure last =>
      rw [Play.after_of_error run]
      exact (Play.error_of_observe run).1.state
  refine .bind ((follow limited more).imp (fun _ rests => rests.hasRoom)
    fun _ _ followed => followed.rests) fun _ => .bind observed fun _ => ?_
  refine .after .state fun state => .after (.rolling _) fun view => .after_state fun shown => ?_
  refine .bind (R := fun _ trail => trail.length = 0) (.put (fun trail known => known.2.symm)
    (fun trail known => known.1.allows positive rfl) fun _ _ => rfl) fun _ => ?_
  exact (pure view).imp (fun _ known => known) fun _ _ known => known.2

theorem take (more : 1 + limit ≤ most) (dialogue : Dialogue) (choice : Choice) (id : Value) :
    Tracks limit most Trail.Opens (take game dialogue choice id)
      fun _ => Trail.Rests (1 + limit) := by
  refine .bind (R := fun _ trail => trail.length = 0 ∧ trail.arrived = 0)
    (.perform (fun trail opens => opens.idle.allows rfl)
      fun trail opens => ⟨opens.fresh, opens.few⟩)
    fun _ => ?_
  have follows : Tracks limit most (fun trail => trail.length = 0 ∧ trail.arrived = 0)
      (Telling.follow game) (Trail.Followed limit 0) :=
    (follow limited (by omega)).of_imp fun _ known => ⟨fun _ _ => by omega, by omega⟩
  refine .bind follows fun followed => ?_
  cases followed with
  | true =>
    exact (pure ()).imp (fun _ known => known) fun _ _ known => known.2.rests.mono (by omega)
  | false =>
    dsimp only
    generalize (if choice.next.isPresent then dialogue.findNode? choice.next else none) = target
    cases target with
    | some node =>
      have within : 0 + 1 + limit ≤ most := by omega
      exact (arriveAnew limited within dialogue node).imp (fun _ known => known.idle rfl)
        fun _ _ rests => rests.mono (by omega)
    | none =>
      refine .endDialogue fun trail known => ?_
      exact Trail.rests_after (Nat.le_trans known.rests.few (by omega)) rfl rfl

theorem travelAlong (positive : 1 ≤ limit) (more : 1 + limit ≤ most) (travelMap : TravelMap)
    (origin destination : Marker) (location : Value) :
    Tracks limit most Trail.Opens (travelAlong game travelMap origin destination location)
      fun _ => Trail.Rests (1 + limit) := by
  refine .after_lift fun hours _ => .after_state fun state => ?_
  refine .bind (R := fun _ trail => trail.waits = false ∧ trail.arrived = 0)
    (.put (fun _ _ => rfl) (fun trail known => known.1.idle.allows rfl)
      fun trail known => ⟨rfl, known.1.few⟩) fun _ => ?_
  refine .bind (R := fun _ => Trail.Idle 0) (.advanceClock (fun trail known => ?_)
    fun trail known => ⟨fun _ => known.1, Nat.le_of_eq known.2⟩) fun _ => ?_
  · have idle : trail.Idle 0 := ⟨fun _ => known.1, Nat.le_of_eq known.2⟩
    exact idle.allows rfl
  · exact (fireTriggers limited positive (by omega)).imp (fun _ idle => idle)
      fun _ _ rests => rests.mono (by omega)

/-! ## Actions -/

omit limited in
theorem put_opening {deed : Deed} {state : GameState}
    (steers : ∀ trail, P trail → trail.Opens ∧ state.cursor = deed.steer trail.cursor)
    (stays : deed.arrives = false) (breaks : ∀ trail : Trail, (trail.after deed).length = 0) :
    Tracks limit most P (Telling.put deed state) fun _ => Trail.Rests bound := by
  refine .put (fun trail known => (steers trail known).2)
    (fun trail known => (steers trail known).1.idle.allows stays) fun trail known => ?_
  have idle := (steers trail known).1.idle
  exact Trail.rests_after (Nat.le_trans idle.few (Nat.zero_le _)) stays (breaks trail)

omit limited in
theorem nowhere : Tracks limit most Trail.Opens (Pure.pure ()) fun _ => Trail.Rests bound :=
  (pure ()).imp (fun _ opens => opens) fun _ _ known => known.2.idle.rests.mono (Nat.zero_le _)

omit limited in
theorem load (save : Save) :
    Tracks limit most Trail.Opens (load game save) fun _ => Trail.Rests bound :=
  .after (.logAction _ _) fun _ => .put_opening (fun _ opens => ⟨opens, rfl⟩) rfl fun _ => rfl

theorem lead (positive : 1 ≤ limit) (more : 1 + limit ≤ most) (action : Action) :
    Tracks limit most Trail.Opens (lead game action) fun _ => Trail.Rests (1 + limit) := by
  cases action with
  | newGame setup =>
    refine .after (.logAction _ _) fun _ => ?_
    refine .bind (R := fun _ => Trail.Idle 0) (.put (fun _ _ => rfl)
      (fun trail opens => opens.idle.allows rfl) fun trail opens => ?_) fun _ => ?_
    · exact ⟨fun _ => rfl, Nat.le_of_eq opens.few⟩
    · refine .after .requireTime fun _ => ?_
      exact (fireTriggers limited positive (by omega)).imp (fun _ idle => idle)
        fun _ _ rests => rests.mono (by omega)
  | load save => exact .load save
  | loadRecord data => exact .after_lift fun save _ => .load save
  | save => exact .nowhere
  | selectChoice id =>
    refine .after (.logAction _ _) fun _ => .after .currentNode fun found => ?_
    cases found with
    | none => exact .nowhere
    | some place =>
      dsimp only
      split
      · exact .take limited more _ _ _
      · exact .nowhere
  | talkTo id =>
    refine .after (.logAction _ _) fun _ => .after_lift fun found _ => ?_
    cases found with
    | none => exact .nowhere
    | some character =>
      dsimp only
      split
      · exact (enterAnew limited (by omega) _).imp (fun _ opens => opens.idle)
          fun _ _ rests => rests.mono (by omega)
      · exact .nowhere
  | continueDialogue =>
    refine .after (.logAction _ _) fun _ => .after .currentNode fun found => ?_
    cases found with
    | none => exact .nowhere
    | some place =>
      dsimp only
      split
      · exact (hop place.1 place.2).imp (fun _ opens => opens.idle)
          fun _ _ rests => rests.mono (Nat.zero_le _)
      · exact .nowhere
  | takeItem item =>
    refine .after (.logAction _ _) fun _ => .after_state fun state => .after_lift fun place _ => ?_
    dsimp only
    split
    · refine .after_lift fun carried carries => .put_opening (fun trail known => ⟨known.1, ?_⟩) rfl
        fun _ => rfl
      rw [GameState.carryItem_cursor carries]
      exact known.2.symm
    · exact nowhere.of_imp fun _ known => known.1
  | travelTo location =>
    refine .after (.logAction _ _) fun _ => .after .state fun state => ?_
    split
    · split
      · exact .travelAlong limited positive more _ _ _ _
      · exact .nowhere
    · exact .nowhere
  | writeNote title text =>
    exact .after (fun session => ⟨rfl, rfl⟩) fun _ => .after (fun session => ⟨rfl, rfl⟩)
      fun session => .after (.logAction _ _) fun _ => .after_state fun state =>
        .put_opening (fun trail known => ⟨known.1, known.2.symm⟩) rfl fun _ => rfl
  | deleteNote id =>
    exact .after (.logAction _ _) fun _ => .after_state fun state =>
      .put_opening (fun trail known => ⟨known.1, known.2.symm⟩) rfl fun _ => rfl
  | setLocale locale =>
    exact .after (.logAction _ _) fun _ => .after_lift fun _ _ => .after_state fun state =>
      .put_opening (fun trail known => ⟨known.1, known.2.symm⟩) rfl fun _ => rfl
  | look => exact .nowhere
  | debug effects label =>
    refine .after (.logAction _ _) fun _ => .perform (fun trail opens => opens.idle.allows rfl)
      fun trail opens => ⟨fun _ _ => opens.fresh, ?_⟩
    exact Nat.le_trans (Nat.le_of_eq opens.few) (Nat.zero_le _)

/-! ## Calls -/

omit limited in
theorem plainly (answer : Play Reply) (quiet : answer.Stays) :
    Tracks limit most Trail.Opens (silently answer) fun _ trail => trail.length = 0 :=
  (silent quiet).imp (fun _ opens => opens) fun _ _ opens => opens.fresh

theorem reply (positive : 1 ≤ limit) (more : 1 + limit + limit ≤ most) {telling : Telling Unit}
    (leads : Tracks limit most Trail.Opens telling fun _ => Trail.Rests (1 + limit))
    (trigger : String) : Tracks limit most Trail.Opens (telling >>= fun _ =>
      Telling.finish game trigger >>= fun view => Pure.pure (Reply.view view))
      fun _ trail => trail.length = 0 := by
  refine .bind leads fun _ => .bind (.finish limited positive more trigger) fun view => ?_
  exact (pure (Reply.view view)).imp (fun _ known => known) fun _ _ known => known.2

theorem act (positive : 1 ≤ limit) (more : 1 + limit + limit ≤ most) (action : Action) :
    Tracks limit most Trail.Opens (act game action) fun _ trail => trail.length = 0 := by
  cases action with
  | save =>
    refine .after .save fun saved => ?_
    exact (pure (Reply.save saved)).imp (fun _ opens => opens) fun _ _ known => known.2.fresh
  | _ => exact .reply limited positive more (.lead limited positive (by omega) _) _

theorem change (positive : 1 ≤ limit) (more : 1 + limit + limit ≤ most) (label : String)
    (command : Command) : Tracks limit most Trail.Opens (change game label command)
      fun _ trail => trail.length = 0 := by
  have altered : Tracks limit most Trail.Opens (Telling.alter game (.command command)
      (fun state => command.update state) ("debug " ++ label))
      fun _ => Trail.Rests (1 + limit) := by
    refine .alter (fun before after _ _ updates => ?_) (fun trail opens => opens.idle.allows rfl)
      fun trail opens => Trail.rests_after (Nat.le_trans opens.idle.few (Nat.zero_le _)) rfl rfl
    exact (Command.meaning_of_update (ok_of_lifted updates)).2
  exact .after (.logAction _ _) fun _ => .reply limited positive more altered "debug"

theorem run (positive : 1 ≤ limit) (more : 1 + limit + limit ≤ most) (command : Command) :
    Tracks limit most Trail.Opens (run game command) fun _ trail => trail.length = 0 := by
  have changes (label : String) (command : Command) : Tracks limit most Trail.Opens
      (Telling.change game label command) fun _ trail => trail.length = 0 :=
    .change limited positive more label command
  have refuses (given : Value) : Tracks limit most Trail.Opens (silently (Play.refuse given))
      fun _ trail => trail.length = 0 :=
    .plainly _ (.bind (.lift _) fun _ => .pure _)
  cases command with
  | setFlag flag => exact changes _ _
  | clearFlag flag => exact changes _ _
  | setVariable name value => exact changes _ _
  | teleport location =>
    refine .after_lift fun found _ => ?_
    cases found with
    | none => exact refuses _
    | some known => exact changes _ _
  | triggerDialogue dialogue =>
    refine .after_lift fun found _ => ?_
    cases found with
    | none => exact refuses _
    | some place => exact changes _ _
  | setQuestStage quest stage => exact changes _ _
  | addItem item =>
    refine .after .state fun state => ?_
    split
    · exact refuses _
    · exact changes _ _
  | removeItem item =>
    refine .after .state fun state => ?_
    split
    · exact changes _ _
    · exact refuses _
  | getVariable name =>
    exact .plainly (Play.run game (.getVariable name))
      (.bind .state fun _ => .bind (.lift _) fun _ =>
      .bind (.lift _) fun _ => .pure _)
  | inspect =>
    exact .plainly (Play.run game .inspect) (.bind (fun session => .refl session) fun _ =>
      .bind (.lift _) fun _ => .pure _)
  | inspectState =>
    exact .plainly (Play.run game .inspectState) (.bind .state fun _ => .pure _)
  | inspectRegistry => exact .plainly (Play.run game .inspectRegistry) (.pure _)

theorem runLine (positive : 1 ≤ limit) (more : 1 + limit + limit ≤ most) (line : String) :
    Tracks limit most Trail.Opens (runLine game line) fun _ trail => trail.length = 0 := by
  have nothing : Tracks limit most Trail.Opens (silently Play.nothing)
      fun _ trail => trail.length = 0 :=
    .plainly _ (.pure _)
  refine .after_lift fun words _ => ?_
  cases words with
  | nil => exact nothing
  | cons name words =>
    dsimp only
    split
    · exact nothing
    · refine .after_lift fun arguments _ => ?_
      cases Command.of? name arguments with
      | some command =>
        exact .after (Play.keeps_logCommand game _ _).stays fun _ =>
          .run limited positive more command
      | none => exact nothing

theorem call (positive : 1 ≤ limit) (more : 1 + limit + limit ≤ most) (call : Call) :
    Tracks limit most Trail.Opens (Telling.call game call) fun _ trail => trail.length = 0 := by
  cases call with
  | action action => exact .act limited positive more action
  | command command => exact .run limited positive more command
  | line line => exact .runLine limited positive more line

end

end Tracks
end Telling
end Fabula
