import Fabula.Proofs.Session.Quiet
import Fabula.Session.Action
/-!
# Computations beside each other

Two computations can do the same with different inputs. They are compared where both return: then
what they return is related, and so is what they leave. Here this is shown, one lemma for each
function of a session, for games whose content differs in the locales and which are played at
different moments. What the session has is the same in both, but for the moments in its log.
-/

namespace Fabula
variable {σ α β γ δ : Type}

def Pairs (R : α → β → Prop) (result : Except Failure α) (other : Except Failure β) : Prop :=
  ∀ a b, result = .ok a → other = .ok b → R a b

namespace Pairs
variable {R : α → β → Prop} {S : γ → δ → Prop}

theorem pure {a : α} {b : β} (related : R a b) : Pairs R (pure a) (pure b) := by
  rintro _ _ ⟨⟩ ⟨⟩
  exact related

theorem refl (result : Except Failure α) : Pairs Eq result result :=
  fun _ _ holds other => Except.ok.inj (holds.symm.trans other)

theorem bind {result : Except Failure α} {other : Except Failure β} {next : α → Except Failure γ}
    {nextOther : β → Except Failure δ} (first : Pairs R result other)
    (rest : ∀ a b, R a b → Pairs S (next a) (nextOther b)) :
    Pairs S (result >>= next) (other >>= nextOther) := by
  intro c d holds holdsOther
  cases result with
  | error failure => cases holds
  | ok a =>
    cases other with
    | error failure => cases holdsOther
    | ok b => exact rest a b (first a b rfl rfl) c d holds holdsOther

theorem bind_same {result : Except Failure α} {next : α → Except Failure γ}
    {nextOther : α → Except Failure δ} (rest : ∀ a, Pairs S (next a) (nextOther a)) :
    Pairs S (result >>= next) (result >>= nextOther) :=
  .bind (.refl result) fun a _ same => same ▸ rest a

theorem bind_any {result : Except Failure α} {other : Except Failure β}
    {next : α → Except Failure γ} {nextOther : β → Except Failure δ}
    (rest : ∀ a b, Pairs S (next a) (nextOther b)) :
    Pairs S (result >>= next) (other >>= nextOther) :=
  .bind (R := fun _ _ => True) (fun _ _ _ _ => trivial) fun a b _ => rest a b

theorem mapM {f other : α → Except Failure β} {erase : β → γ}
    (each : ∀ a, Pairs (InvImage Eq erase) (f a) (other a)) (items : List α) :
    Pairs (InvImage Eq (List.map erase)) (items.mapM f) (items.mapM other) := by
  induction items with
  | nil => exact .pure rfl
  | cons item rest ih =>
    rw [List.mapM_cons, List.mapM_cons]
    exact .bind (each item) fun _ _ first => .bind ih fun _ _ others =>
      .pure (List.cons_eq_cons.mpr ⟨first, others⟩)

end Pairs

/-- Whether two computations that start from related states and both return leave related states
and return what is related. -/
def Mirrors (T : σ → σ → Prop) (R : α → β → Prop) (computation : EStateM Failure σ α)
    (other : EStateM Failure σ β) : Prop :=
  ∀ start startOther, T start startOther → ∀ a last b lastOther,
    computation start = .ok a last → other startOther = .ok b lastOther → T last lastOther ∧ R a b

namespace Mirrors
variable {T : σ → σ → Prop} {R : α → β → Prop} {S : γ → δ → Prop}

theorem pure {a : α} {b : β} (related : R a b) : Mirrors T R (pure a) (pure b) := by
  rintro _ _ start _ _ _ _ ⟨⟩ ⟨⟩
  exact ⟨start, related⟩

theorem lift {result : Except Failure α} {other : Except Failure β} (pairs : Pairs R result other) :
    Mirrors T R (liftM result) (liftM other) := by
  intro _ _ start a _ b _ returns returnsOther
  cases result with
  | error failure => cases returns
  | ok a =>
    cases other with
    | error failure => cases returnsOther
    | ok b =>
      cases returns
      cases returnsOther
      exact ⟨start, pairs _ _ rfl rfl⟩

theorem bind {first : EStateM Failure σ α} {other : EStateM Failure σ β}
    {next : α → EStateM Failure σ γ} {nextOther : β → EStateM Failure σ δ}
    (early : Mirrors T R first other) (late : ∀ a b, R a b → Mirrors T S (next a) (nextOther b)) :
    Mirrors T S (first >>= next) (other >>= nextOther) := by
  intro _ _ start c last d lastOther returns returnsOther
  obtain ⟨a, between, begins, ends⟩ := Play.ok_of_bind returns
  obtain ⟨b, betweenOther, beginsOther, endsOther⟩ := Play.ok_of_bind returnsOther
  obtain ⟨halfway, related⟩ := early _ _ start a between b betweenOther begins beginsOther
  exact late a b related _ _ halfway c last d lastOther ends endsOther

theorem bind_same {first other : EStateM Failure σ α} {next : α → EStateM Failure σ γ}
    {nextOther : α → EStateM Failure σ δ} (early : Mirrors T Eq first other)
    (late : ∀ a, Mirrors T S (next a) (nextOther a)) :
    Mirrors T S (first >>= next) (other >>= nextOther) :=
  .bind early fun a _ same => same ▸ late a

theorem bind_any {result : Except Failure α} {other : Except Failure β}
    {next : α → EStateM Failure σ γ} {nextOther : β → EStateM Failure σ δ}
    (late : ∀ a b, Mirrors T S (next a) (nextOther b)) :
    Mirrors T S (liftM result >>= next) (liftM other >>= nextOther) :=
  .bind (R := fun _ _ => True) (.lift fun _ _ _ _ => trivial) fun a b _ => late a b

theorem refl (computation : EStateM Failure σ α) : Mirrors Eq Eq computation computation := by
  rintro start _ rfl a last b lastOther returns returnsOther
  rw [returns] at returnsOther
  cases returnsOther
  exact ⟨rfl, rfl⟩

theorem findM? {items : List α} {check other : α → EStateM Failure σ Bool}
    (each : ∀ item, Mirrors T Eq (check item) (other item)) :
    Mirrors T Eq (items.findM? check) (items.findM? other) := by
  induction items with
  | nil => exact .pure rfl
  | cons item rest ih =>
    refine .bind_same (each item) fun found => ?_
    cases found with
    | true => exact .pure rfl
    | false => exact ih

theorem forM {items : List α} {act other : α → EStateM Failure σ Unit}
    (each : ∀ item, Mirrors T Eq (act item) (other item)) :
    Mirrors T Eq (items.forM act) (items.forM other) := by
  induction items with
  | nil => exact .pure rfl
  | cons item rest ih => exact .bind_same (each item) fun _ => ih

end Mirrors

def Moment.epoch : Moment :=
  ⟨1970, 1, 1, 0, 0, 0, 0, none⟩

def Happening.timeless : Happening → Happening
  | .action name (.record arguments) =>
    .action name (.record (arguments.filter fun argument => argument.1 != .text "timestamp"))
  | happening => happening

def Event.timeless (event : Event) : Event :=
  { event with moment := .epoch, happening := event.happening.timeless }

structure RunLog.Twin (log other : RunLog) : Prop where
  sequence : other.sequence = log.sequence
  isPaused : other.isPaused = log.isPaused
  events : other.events.map Event.timeless = log.events.map Event.timeless

structure Session.Twin (session other : Session) : Prop where
  state : other.state = session.state
  roller : other.roller = session.roller
  machine : other.machine = session.machine
  notes : other.notes = session.notes
  log : session.log.Twin other.log

theorem RunLog.Twin.record {log other : RunLog} (twin : log.Twin other)
    (clock : other.clock = log.clock) {event eventOther : Event}
    (same : eventOther.timeless = event.timeless) :
    Pairs (fun logged loggedOther => logged.2.Twin loggedOther.2) (log.record event)
      (other.record eventOther) := by
  obtain ⟨moment, sequence, gameTime, context, happening⟩ := event
  obtain ⟨momentOther, sequenceOther, gameTimeOther, contextOther, happeningOther⟩ := eventOther
  simp only [Event.timeless, Event.mk.injEq, true_and] at same
  obtain ⟨rfl, rfl, rfl, happened⟩ := same
  unfold RunLog.record
  rw [twin.isPaused, twin.sequence, clock]
  split
  · exact .pure twin
  · refine .bind_same fun sequence => .bind_same fun gameTime => .pure ⟨rfl, rfl, ?_⟩
    simp only [List.map_append, List.map_cons, List.map_nil, twin.events, Event.timeless, happened]

namespace Mirrors
variable {game other : Game}

theorem get : Mirrors Session.Twin Session.Twin get get := by
  rintro _ _ twin _ _ _ _ ⟨⟩ ⟨⟩
  exact ⟨twin, twin⟩

theorem edit {change changeOther : Session → Session}
    (twins : ∀ session other : Session, session.Twin other →
      (change session).Twin (changeOther other)) :
    Mirrors Session.Twin Eq (modify change) (modify changeOther) := by
  rintro _ _ twin _ _ _ _ ⟨⟩ ⟨⟩
  exact ⟨twins _ _ twin, rfl⟩

theorem state : Mirrors Session.Twin Eq Play.state Play.state :=
  .bind .get fun _ _ twin => .pure twin.state.symm

theorem setState (state : GameState) :
    Mirrors Session.Twin Eq (Play.setState state) (Play.setState state) :=
  .edit fun _ _ twin => { twin with state := rfl }

theorem setCursor (cursor : Option Cursor) :
    Mirrors Session.Twin Eq (Play.setCursor cursor) (Play.setCursor cursor) :=
  .edit fun _ _ twin => { twin with state := by rw [twin.state] }

theorem endDialogue : Mirrors Session.Twin Eq Play.endDialogue Play.endDialogue :=
  .setCursor none

theorem ok_of_record {write : RunLog → Except Failure (Event × RunLog)} {session next : Session}
    {done : Unit} (returns : Play.record write session = .ok done next) :
    ∃ logged, write session.clockedLog = .ok logged ∧ next = { session with log := logged.2 } := by
  have outcome := Play.outcome_record write session
  rw [outcome_of_ok returns] at outcome
  cases written : write session.clockedLog with
  | error failure => simp [written] at outcome
  | ok logged =>
    simp only [written, Prod.mk.injEq] at outcome
    exact ⟨logged, rfl, outcome.2⟩

theorem record {event eventOther : Event} (same : eventOther.timeless = event.timeless) :
    Mirrors Session.Twin Eq (Play.record fun log => log.record event)
      (Play.record fun log => log.record eventOther) := by
  intro session other twin _ next _ nextOther returns returnsOther
  obtain ⟨logged, records, rfl⟩ := ok_of_record returns
  obtain ⟨loggedOther, recordsOther, rfl⟩ := ok_of_record returnsOther
  have clocked : session.clockedLog.Twin other.clockedLog := ⟨twin.log.1, twin.log.2, twin.log.3⟩
  have clock : other.clockedLog.clock = session.clockedLog.clock := by
    simp only [Session.clockedLog, twin.state]
  have log := clocked.record clock same _ _ records recordsOther
  exact ⟨{ twin with log }, rfl⟩

theorem unlogged (context : Value) (happening : Happening) :
    Mirrors Session.Twin Eq
      (Play.record fun log => log.record (RunLog.unlogged game.now context happening))
      (Play.record fun log => log.record (RunLog.unlogged other.now context happening)) :=
  .record rfl

theorem logAction (name : String) (arguments : List (String × Value)) :
    Mirrors Session.Twin Eq (Play.logAction game name arguments)
      (Play.logAction other name arguments) :=
  .record rfl

theorem logDraw (draw : Draw) :
    Mirrors Session.Twin Eq (Play.logDraw game draw) (Play.logDraw other draw) :=
  .unlogged .null (.roll draw.bounds draw.rolls (.int 0) draw.total draw.reason)

theorem settle (roller : Roller) :
    Mirrors Session.Twin Eq (Play.settle game roller) (Play.settle other roller) := by
  refine .bind .get fun session sessionOther twin => ?_
  rw [twin.roller]
  exact .bind_same (.edit fun _ _ twin => { twin with roller := rfl }) fun _ => .forM .logDraw

theorem rolling {R : α → β → Prop} {computation : Rolling α} {computationOther : Rolling β}
    (same : Mirrors Eq R computation computationOther) :
    Mirrors Session.Twin R (Play.rolling game computation)
      (Play.rolling other computationOther) := by
  intro session sessionOther twin a next b nextOther returns returnsOther
  have heard : session.heardRoller = sessionOther.heardRoller := by
    simp only [Session.heardRoller, twin.roller, twin.state]
  rw [Play.rolling_eq] at returns returnsOther
  cases run : computation session.heardRoller with
  | error failure roller =>
    rw [outcome_of_error run] at returns
    obtain ⟨_, _, _, fails⟩ := Play.ok_of_bind returns
    cases fails
  | ok found roller =>
    cases runOther : computationOther sessionOther.heardRoller with
    | error failure rollerOther =>
      rw [outcome_of_error runOther] at returnsOther
      obtain ⟨_, _, _, fails⟩ := Play.ok_of_bind returnsOther
      cases fails
    | ok foundOther rollerOther =>
      obtain ⟨rfl, related⟩ := same _ _ heard _ _ _ _ run runOther
      have settled : Mirrors Session.Twin R
          (Play.settle game roller >>= fun _ => liftM (Except.ok found : Except Failure α))
          (Play.settle other roller >>= fun _ => liftM (Except.ok foundOther : Except Failure β)) :=
        .bind_same (.settle roller) fun _ => .lift (.pure related)
      rw [outcome_of_ok run] at returns
      rw [outcome_of_ok runOther] at returnsOther
      exact settled _ _ twin _ _ _ _ returns returnsOther

theorem allPass (conditions : List Condition) :
    Mirrors Session.Twin Eq (Play.allPass game conditions) (Play.allPass other conditions) :=
  .bind_same .state fun _ => .rolling (.refl _)

theorem logTimeStep (before after : Clock) (hours : Except Failure Number) (reason : String) :
    Mirrors Session.Twin Eq (Play.logTimeStep game before after hours reason)
      (Play.logTimeStep other before after hours reason) :=
  .bind_same (.lift (.refl _)) fun _ => .bind_same (.lift (.refl _)) fun _ =>
    .bind_same (.lift (.refl _)) fun _ => .record rfl

theorem alter (change : GameState → Rolling GameState) (reason : String) :
    Mirrors Session.Twin Eq (Play.alter game change reason) (Play.alter other change reason) := by
  refine .bind_same .state fun before => .bind_same (.rolling (.refl _)) fun after =>
    .bind_same (.setState after) fun _ => ?_
  split
  · exact .logTimeStep _ _ _ reason
  · exact .pure rfl

theorem perform (effects : List Effect) (reason : String) :
    Mirrors Session.Twin Eq (Play.perform game effects reason)
      (Play.perform other effects reason) :=
  .alter _ reason

theorem advanceClock (hours : Int) (reason : String) :
    Mirrors Session.Twin Eq (Play.advanceClock game hours reason)
      (Play.advanceClock other hours reason) :=
  .bind_same .state fun _ => .bind_same (.lift (.refl _)) fun _ =>
    .bind_same (.setState _) fun _ => .logTimeStep _ _ _ reason

theorem findBranch (branches : List Branch) :
    Mirrors Session.Twin Eq (Play.findBranch game branches) (Play.findBranch other branches) :=
  .bind_same .state fun _ => .findM? fun _ => .rolling (.refl _)

theorem findTarget (node : Node) :
    Mirrors Session.Twin Eq (Play.findTarget game node) (Play.findTarget other node) := by
  refine .bind_same (.findBranch node.branches) fun found => ?_
  cases found <;> exact .pure rfl

theorem hop (dialogue : Dialogue) (node : Node) :
    Mirrors Session.Twin Eq (Play.hop game dialogue node) (Play.hop other dialogue node) := by
  refine .bind_same (.findTarget node) fun target => ?_
  cases target with
  | none => exact .endDialogue
  | some target =>
    dsimp only
    split
    · exact .setCursor _
    · exact .endDialogue

theorem pending : Mirrors Session.Twin Eq Play.pending Play.pending := by
  refine .bind_same .state fun state => ?_
  cases state.cursor <;> exact .pure rfl

theorem arrive {follow followOther : Play Bool} (same : Mirrors Session.Twin Eq follow followOther)
    (dialogue : Dialogue) (node : Node) :
    Mirrors Session.Twin Eq (Play.arrive game follow dialogue node)
      (Play.arrive other followOther dialogue node) := by
  refine .bind_same (.setCursor _) fun _ => .bind_same (.perform _ _) fun _ =>
    .bind_same same fun followed => ?_
  cases followed with
  | true => exact .pure rfl
  | false =>
    refine .bind_same .state fun state => ?_
    split
    · exact .hop dialogue node
    · exact .pure rfl

end Mirrors

def Game.translated (game : Game) (locales : Table (Table Value)) (now : Moment) : Game :=
  { game with registry := { game.registry with locales }, now }

namespace Mirrors
variable {game : Game} {locales : Table (Table Value)} {now : Moment}

theorem enter {follow followOther : Play Bool} (same : Mirrors Session.Twin Eq follow followOther)
    (id : Value) :
    Mirrors Session.Twin Eq (Play.enter game follow id)
      (Play.enter (game.translated locales now) followOther id) := by
  refine .bind_same (.lift (.refl (Play.findStart game id))) fun found => ?_
  cases found with
  | some place => exact .arrive same place.1 place.2
  | none =>
    refine .bind_same .pending fun pending => ?_
    split
    · exact .endDialogue
    · exact .pure rfl

theorem followWithin (limit : Nat) :
    Mirrors Session.Twin Eq (Play.followWithin game limit)
      (Play.followWithin (game.translated locales now) limit) := by
  induction limit with
  | zero =>
    refine .bind_same .pending fun pending => ?_
    split
    · exact .pure rfl
    · exact .bind_same .endDialogue fun _ => .pure rfl
  | succ limit ih =>
    refine .bind_same .pending fun pending => ?_
    cases pending with
    | none => exact .pure rfl
    | some id => exact .bind_same (.enter ih id) fun _ => .pure rfl

theorem follow :
    Mirrors Session.Twin Eq (Play.follow game) (Play.follow (game.translated locales now)) :=
  .followWithin game.settings.redirectLimit

theorem firesAt (location : Value) (dialogue : Dialogue) :
    Mirrors Session.Twin Eq (Play.firesAt game location dialogue)
      (Play.firesAt (game.translated locales now) location dialogue) := by
  unfold Play.firesAt
  split
  · exact .pure rfl
  · refine .bind_same (.allPass dialogue.conditions) fun passes => ?_
    cases passes <;> exact .pure rfl

theorem interludeFiresAt (location : Value) (interlude : Interlude) :
    Mirrors Session.Twin Eq (Play.interludeFiresAt game location interlude)
      (Play.interludeFiresAt (game.translated locales now) location interlude) := by
  unfold Play.interludeFiresAt
  split
  · exact .pure rfl
  · exact .allPass interlude.conditions

theorem fireDialogue (location : Value) :
    Mirrors Session.Twin Eq (Play.fireDialogue game location)
      (Play.fireDialogue (game.translated locales now) location) := by
  refine .bind_same (.findM? (.firesAt location)) fun found => ?_
  cases found with
  | some dialogue => exact .enter .follow dialogue.id
  | none => exact .pure rfl

theorem fireInterlude (location : Value) :
    Mirrors Session.Twin Eq (Play.fireInterlude game location)
      (Play.fireInterlude (game.translated locales now) location) := by
  refine .bind_same (.findM? (.interludeFiresAt location)) fun found => ?_
  cases found with
  | some interlude =>
    exact .bind_same .state fun _ => .bind_same (.setState _) fun _ => .perform _ _
  | none => exact .pure rfl

theorem fireTriggers :
    Mirrors Session.Twin Eq (Play.fireTriggers game)
      (Play.fireTriggers (game.translated locales now)) :=
  .bind_same .state fun _ => .bind_same (.fireDialogue _) fun _ => .fireInterlude _

theorem requireTime : Mirrors Session.Twin Eq Play.requireTime Play.requireTime :=
  .bind_same .state fun _ => .bind_same (.lift (.refl _)) fun _ => .pure rfl

theorem currentNode :
    Mirrors Session.Twin Eq (Play.currentNode game)
      (Play.currentNode (game.translated locales now)) :=
  .bind_same .state fun state =>
    .lift (.refl (View.currentNode? game.registry state.cursor))

theorem take (dialogue : Dialogue) (choice : Choice) (id : Value) :
    Mirrors Session.Twin Eq (Play.take game dialogue choice id)
      (Play.take (game.translated locales now) dialogue choice id) := by
  refine .bind_same (.perform _ _) fun _ => .bind_same .follow fun followed => ?_
  split
  · exact .pure rfl
  · generalize (if choice.next.isPresent then dialogue.findNode? choice.next else none) = target
    cases target with
    | some node => exact .arrive .follow dialogue node
    | none => exact .endDialogue

theorem travelAlong (travelMap : TravelMap) (origin destination : Marker) (location : Value) :
    Mirrors Session.Twin Eq (Play.travelAlong game travelMap origin destination location)
      (Play.travelAlong (game.translated locales now) travelMap origin destination location) :=
  .bind_same (.lift (.refl _)) fun _ => .bind_same .state fun _ =>
    .bind_same (.setState _) fun _ => .bind_same (.advanceClock _ _) fun _ => .fireTriggers

theorem turn (change : PhaseMachine → PhaseMachine) :
    Mirrors Session.Twin Eq
      (modify fun session => { session with machine := change session.machine })
      (modify fun session => { session with machine := change session.machine }) :=
  .edit fun _ _ twin => { twin with machine := by rw [twin.machine] }

theorem takeStep (step : Step) :
    Mirrors Session.Twin Eq (Play.takeStep game step)
      (Play.takeStep (game.translated locales now) step) :=
  .bind_same (.turn (·.note step)) fun _ => .bind_same (.record rfl) fun _ => .turn (·.move step)

theorem observe (trigger : String) :
    Mirrors Session.Twin Eq (Play.observe game trigger)
      (Play.observe (game.translated locales now) trigger) := by
  refine .bind .get fun session sessionOther twin => ?_
  rw [twin.machine, twin.state]
  refine .bind_same (.lift (.refl _)) fun step => ?_
  cases step with
  | some step => exact .takeStep step
  | none => exact .pure rfl

end Mirrors
end Fabula
