import Fabula.Proofs.Content.Named
import Fabula.Proofs.Session.Walk
/-!
# Where a session stands between actions

Between actions the machine is at the place of the state, and no dialogue waits to be entered. What
brings a session there are the first two steps of the end of an action: following enters whatever
has been started, whatever the limit is, and observing moves the machine to the place of the state.
Main statements:

* `follow_enters`: after following, nothing is left to enter;
* `error_of_observe`, `ok_of_observe`: what a refused and an accepted observation do.
-/

namespace Fabula
variable {α β : Type} {game : Game}

def Cursor.Agree (a b : Option Cursor) : Prop :=
  a = b ∨ Cursor.sameOption a b

theorem Cursor.Agree.phase {a b : Option Cursor} (agree : Cursor.Agree a b) :
    Phase.ofCursor a = Phase.ofCursor b := by
  rcases agree with rfl | same
  · rfl
  · cases a <;> cases b <;> simp_all [Cursor.sameOption, Phase.ofCursor]

namespace Session

/-- Whether no dialogue has been started that still has to be entered. -/
def Entered (session : Session) : Prop :=
  ∀ cursor, session.state.cursor = some cursor → cursor.needsStart = false

structure Rests (session : Session) : Prop where
  samePhase : session.phase = Phase.ofCursor session.state.cursor
  entered : session.Entered

structure Settled (session : Session) : Prop extends session.Rests where
  sameCursor : Cursor.Agree session.state.cursor session.machine.cursor

def Frees (session : Session) (trigger : String) : Prop :=
  ∀ phase, session.machine.permits phase trigger = .ok true

theorem settled_of_agree {session : Session}
    (agree : Cursor.Agree session.state.cursor session.machine.cursor)
    (entered : session.Entered) : session.Settled :=
  ⟨⟨agree.phase.symm, entered⟩, agree⟩

theorem Rests.of_kept {session next : Session} (rests : session.Rests) (kept : session.Kept next) :
    next.Rests where
  samePhase := by
    simp only [phase, kept.machine, kept.state]
    exact rests.samePhase
  entered := by
    intro cursor found
    rw [kept.state] at found
    exact rests.entered cursor found

theorem Settled.of_kept {session next : Session} (settled : session.Settled)
    (kept : session.Kept next) : next.Settled := by
  refine ⟨settled.toRests.of_kept kept, ?_⟩
  rw [kept.state, kept.machine]
  exact settled.sameCursor

theorem frees_of_table {session : Session} {trigger : String}
    (listed : ∀ phase, phase ≠ session.machine.phase →
      ⟨session.machine.phase, phase, trigger⟩ ∈ Transition.table) : session.Frees trigger := by
  intro phase
  unfold PhaseMachine.permits
  by_cases same : phase = session.machine.phase
  · simp [same]
  · simp only [beq_iff_eq, same, if_false, Value.key, Value.key?, bind, Except.bind, pure,
      Except.pure, Except.ok.injEq, List.any_eq_true]
    exact ⟨_, listed phase same, by simp⟩

theorem frees_inDialogue {session : Session} {trigger : String}
    (talks : session.phase = .inDialogue)
    (listed : ⟨.inDialogue, .idle, trigger⟩ ∈ Transition.table) : session.Frees trigger := by
  refine frees_of_table fun phase other => ?_
  have talks : session.machine.phase = .inDialogue := talks
  cases phase with
  | idle => rwa [talks]
  | inDialogue => exact absurd talks.symm other

theorem frees_of_both {trigger : String} (enters : ⟨.idle, .inDialogue, trigger⟩ ∈ Transition.table)
    (leaves : ⟨.inDialogue, .idle, trigger⟩ ∈ Transition.table) (session : Session) :
    session.Frees trigger := by
  cases place : session.phase with
  | inDialogue => exact frees_inDialogue place leaves
  | idle =>
    refine frees_of_table fun phase other => ?_
    have place : session.machine.phase = .idle := place
    cases phase with
    | idle => exact absurd place.symm other
    | inDialogue => rwa [place]

theorem Frees.of_machine {session next : Session} {trigger : String}
    (frees : session.Frees trigger) (same : next.machine = session.machine) :
    next.Frees trigger := by
  intro phase
  rw [same]
  exact frees phase

end Session

namespace Play

def Triple (P : Session → Prop) (computation : Play α) (R : α → Session → Prop) : Prop :=
  ∀ session, P session → ∀ a next, computation session = .ok a next → R a next

theorem pending_eq (session : Session) : pending session =
    .ok (session.state.cursor.bind fun cursor =>
      if cursor.needsStart then some cursor.dialogue else none) session := by
  have asked : state session = .ok session.state session := rfl
  rw [pending, bind_of_ok asked]
  cases session.state.cursor <;> rfl

theorem pending_of_entered {session : Session} (entered : session.Entered) :
    pending session = .ok none session := by
  rw [pending_eq]
  cases place : session.state.cursor with
  | none => rfl
  | some cursor => simp [entered cursor place]

theorem entered_of_pending {session next : Session} {found : Option Value}
    (returns : pending session = .ok found next) :
    next = session ∧ (found = none → session.Entered) := by
  rw [pending_eq] at returns
  cases returns
  refine ⟨rfl, fun none cursor place => ?_⟩
  simpa [place] using none

theorem follow_of_entered {session : Session} (entered : session.Entered) :
    follow game session = .ok false session := by
  unfold follow
  cases game.settings.redirectLimit <;>
    simp [followWithin, bind_of_ok (pending_of_entered entered), pure, EStateM.pure]

theorem endDialogue_enters {session next : Session} (returns : endDialogue session = .ok () next) :
    next.Entered := by
  cases returns
  intro cursor found
  cases found

theorem hop_enters {dialogue : Dialogue} {node : Node} (named : dialogue.Named)
    {session next : Session} (returns : hop game dialogue node session = .ok () next) :
    next.Entered := by
  obtain ⟨target, between, _, moves⟩ := ok_of_bind returns
  cases target with
  | none => exact endDialogue_enters moves
  | some target =>
    simp only at moves
    split at moves
    · next found =>
      cases moves
      intro cursor placed
      cases placed
      -- The target is the id of a node that is there, and no such id is empty.
      obtain ⟨other, first⟩ := Option.isSome_iff_exists.mp found
      have matched := List.find?_some first
      refine Bool.eq_false_iff.mpr fun empty =>
        named other (List.mem_of_find?_eq_some first) ((same_empty_iff _).mp ?_)
      rw [← (same_empty_iff target).mp empty]
      exact matched
    · exact endDialogue_enters moves

theorem arrive_enters {follow : Play Bool} {dialogue : Dialogue} {node : Node}
    (named : dialogue.Named) (followed : Triple (fun _ => True) follow fun _ => Session.Entered)
    {session next : Session} (returns : arrive game follow dialogue node session = .ok () next) :
    next.Entered := by
  obtain ⟨_, _, _, returns⟩ := ok_of_bind returns
  obtain ⟨_, before, _, returns⟩ := ok_of_bind returns
  obtain ⟨led, between, follows, returns⟩ := ok_of_bind returns
  have entered := followed before trivial led between follows
  cases led with
  | true =>
    cases returns
    exact entered
  | false =>
    obtain ⟨state, _, asked, returns⟩ := ok_of_bind returns
    cases asked
    split at returns
    · exact hop_enters named returns
    · cases returns
      exact entered

theorem start_of_findStart {id : Value} {dialogue : Dialogue} {start : Node}
    (found : findStart game id = .ok (some (dialogue, start))) :
    game.registry.dialogues.lookup id = .ok (some dialogue) ∧ dialogue.start? = some start := by
  unfold findStart at found
  cases known : game.registry.dialogues.lookup id with
  | error failure => simp [known, bind, Except.bind] at found
  | ok entry =>
    cases entry with
    | none => simp [known, bind, Except.bind, pure, Except.pure] at found
    | some listed =>
      simp only [known, bind, Except.bind, pure, Except.pure, Except.ok.injEq,
        Option.map_eq_some_iff, Prod.mk.injEq] at found
      obtain ⟨_, first, rfl, rfl⟩ := found
      exact ⟨rfl, first⟩

theorem ok_of_lift {result : Except Failure α} {session next : Session} {a : α}
    (returns : (liftM result : Play α) session = .ok a next) : result = .ok a ∧ next = session := by
  cases result with
  | error failure => cases returns
  | ok b =>
    cases returns
    exact ⟨rfl, rfl⟩

theorem error_of_lift {result : Except Failure α} {session next : Session} {failure : Failure}
    (fails : (liftM result : Play α) session = .error failure next) :
    result = .error failure ∧ next = session := by
  cases result with
  | ok a => cases fails
  | error fault =>
    cases fails
    exact ⟨rfl, rfl⟩

theorem enter_enters (named : game.registry.Named) {follow : Play Bool} {id : Value}
    (followed : Triple (fun _ => True) follow fun _ => Session.Entered) {session next : Session}
    (returns : enter game follow id session = .ok () next) : next.Entered := by
  obtain ⟨found, between, looked, returns⟩ := ok_of_bind returns
  obtain ⟨known, rfl⟩ := ok_of_lift looked
  cases found with
  | some place =>
    have listed := Table.mem_of_lookup (start_of_findStart known).1
    exact arrive_enters (named place.1 listed) followed returns
  | none =>
    obtain ⟨waiting, between, asked, returns⟩ := ok_of_bind returns
    obtain ⟨rfl, entered⟩ := entered_of_pending asked
    cases waiting with
    | none =>
      cases returns
      exact entered rfl
    | some dialogue => exact endDialogue_enters returns

theorem followWithin_enters (named : game.registry.Named) (limit : Nat) :
    Triple (fun _ => True) (followWithin game limit) fun _ => Session.Entered := by
  -- Entering follows with one start less, so the rest of the chain is the induction hypothesis.
  induction limit with
  | zero =>
    intro session _ led next returns
    obtain ⟨waiting, between, asked, returns⟩ := ok_of_bind returns
    obtain ⟨rfl, entered⟩ := entered_of_pending asked
    cases waiting with
    | none =>
      cases returns
      exact entered rfl
    | some dialogue =>
      obtain ⟨_, between, ends, returns⟩ := ok_of_bind returns
      cases returns
      exact endDialogue_enters ends
  | succ limit ih =>
    intro session _ led next returns
    obtain ⟨waiting, between, asked, returns⟩ := ok_of_bind returns
    obtain ⟨rfl, entered⟩ := entered_of_pending asked
    cases waiting with
    | none =>
      cases returns
      exact entered rfl
    | some dialogue =>
      obtain ⟨_, between, enters, returns⟩ := ok_of_bind returns
      cases returns
      exact enter_enters named ih enters

theorem follow_enters (named : game.registry.Named) :
    Triple (fun _ => True) (follow game) fun _ => Session.Entered :=
  followWithin_enters named _

theorem permits_returns (machine : PhaseMachine) (target : Phase) (trigger : String) :
    ∃ permitted, machine.permits target trigger = .ok permitted := by
  unfold PhaseMachine.permits
  split
  · exact ⟨true, rfl⟩
  · exact ⟨_, rfl⟩

def Refused (permitted : Bool) (failure : Failure) : Prop :=
  failure.OfValue ∨ permitted = false ∧ failure.IsTransition

theorem step?_failsOnly {machine : PhaseMachine} {cursor : Option Cursor} {trigger : Value}
    {permitted : Bool} (asked : machine.permits (.ofCursor cursor) trigger = .ok permitted)
    (context : Value) : FailsOnly (Refused permitted) (machine.step? cursor trigger context) := by
  simp only [PhaseMachine.step?, asked, failsOnly_bind, failsOnly_ite]
  cases permitted <;> simp [Refused, Failure.IsTransition]

theorem step?_target (machine : PhaseMachine) (cursor : Option Cursor) (trigger context : Value) :
    Returns (fun step => (step = none → Cursor.sameOption cursor machine.cursor) ∧
      ∀ taken, step = some taken →
        ¬ Cursor.sameOption cursor machine.cursor ∧ taken.target = cursor)
      (machine.step? cursor trigger context) := by
  simp only [PhaseMachine.step?, returns_ite, returns_bind, returns_pure]
  refine ⟨fun same => ⟨fun _ => same, by simp⟩, fun other permitted _ => ?_⟩
  cases permitted <;> simp [other]

theorem ok_of_takeStep {step : Step} {session next : Session}
    (returns : takeStep game step session = .ok () next) :
    next.state = session.state ∧ next.machine.cursor = step.target := by
  obtain ⟨_, noted, notes, returns⟩ := ok_of_bind returns
  cases notes
  obtain ⟨_, logged, logs, returns⟩ := ok_of_bind returns
  cases returns
  exact ⟨((keeps_record _).of_ok logs).state, rfl⟩

theorem error_of_takeStep {step : Step} {session next : Session} {failure : Failure}
    (fails : takeStep game step session = .error failure next) :
    session.Unmoved next ∧ failure.OfValue := by
  obtain early | ⟨_, noted, notes, late⟩ := error_of_bind fails
  · cases early
  cases notes
  obtain early | ⟨_, _, _, late⟩ := error_of_bind late
  · have kept := (keeps_record _).of_error early
    exact ⟨⟨kept.state, by rw [kept.machine]; rfl⟩, failsOfValue_recordEvent _ _ _ _ early⟩
  · cases late

theorem observe_eq (trigger : String) (session : Session) :
    observe game trigger session =
      (liftM (session.machine.step? session.state.cursor trigger .null) >>= fun step =>
        match step with
        | some step => takeStep game step
        | none => pure ()) session := rfl

theorem error_of_observe {trigger : String} {session next : Session} {failure : Failure}
    (fails : observe game trigger session = .error failure next) :
    session.Unmoved next ∧ ∃ permitted,
      session.machine.permits (.ofCursor session.state.cursor) trigger = .ok permitted ∧
        Refused permitted failure := by
  obtain ⟨permitted, permits⟩ :=
    permits_returns session.machine (.ofCursor session.state.cursor) trigger
  rw [observe_eq] at fails
  obtain early | ⟨step, between, asked, late⟩ := error_of_bind fails
  · obtain ⟨refused, rfl⟩ := error_of_lift early
    exact ⟨.refl next, permitted, permits, step?_failsOnly permits .null failure refused⟩
  · obtain ⟨_, rfl⟩ := ok_of_lift asked
    cases step with
    | none => cases late
    | some step =>
      obtain ⟨unmoved, ofValue⟩ := error_of_takeStep late
      exact ⟨unmoved, permitted, permits, .inl ofValue⟩

theorem moves_of_observe {trigger : String} {session next : Session}
    (returns : observe game trigger session = .ok () next) :
    next.state = session.state ∧
      (Cursor.sameOption session.state.cursor session.machine.cursor ∧
          next.machine = session.machine ∨
        ¬ Cursor.sameOption session.state.cursor session.machine.cursor ∧
          next.machine.cursor = session.state.cursor) := by
  rw [observe_eq] at returns
  obtain ⟨step, between, asked, returns⟩ := ok_of_bind returns
  obtain ⟨stepped, rfl⟩ := ok_of_lift asked
  obtain ⟨stays, moves⟩ := step?_target _ _ _ _ step stepped
  cases step with
  | none =>
    cases returns
    exact ⟨rfl, .inl ⟨stays rfl, rfl⟩⟩
  | some step =>
    obtain ⟨other, target⟩ := moves step rfl
    obtain ⟨sameState, moved⟩ := ok_of_takeStep returns
    exact ⟨sameState, .inr ⟨other, moved.trans target⟩⟩

theorem ok_of_observe {trigger : String} {session next : Session}
    (returns : observe game trigger session = .ok () next) :
    next.state = session.state ∧ Cursor.Agree next.state.cursor next.machine.cursor := by
  obtain ⟨sameState, moves⟩ := moves_of_observe returns
  refine ⟨sameState, ?_⟩
  rw [sameState]
  rcases moves with ⟨same, stays⟩ | ⟨_, moved⟩
  · exact .inr (by rwa [stays])
  · exact .inl moved.symm

end Play
end Fabula
