import Fabula.Proofs.Session.Settled
import Fabula.Proofs.Typed.Session
/-!
# Walking in typed sessions

One lemma for each function that an action is made of. Whatever is entered is in the content or
named by an effect, so the cursor of a typed session names its dialogue by a text wherever walking
leads.
-/

namespace Fabula
variable {α : Type} {game : Game}

namespace Play

theorem findBranch_sound (branches : List Branch) : Secure (findBranch game branches) := by
  apply Sound.bind state_sound
  intro state typed
  refine Sound.imp (.findM? fun branch _ => ?_) fun _ _ => trivial
  exact rolling_sound (passes_sound typed branch.condition)

theorem findTarget_sound (node : Node) : Secure (findTarget game node) := by
  apply Sound.bind (findBranch_sound node.branches)
  intro found _
  cases found <;> exact .pure trivial

theorem hop_sound {dialogue : Dialogue} (known : dialogue.Typed) (node : Node) :
    Secure (hop game dialogue node) := by
  apply Sound.bind (findTarget_sound node)
  intro target _
  cases target with
  | none => exact endDialogue_sound
  | some target =>
    dsimp only
    split
    · refine setCursor_sound fun place same => ?_
      cases same
      exact known.id
    · exact endDialogue_sound

theorem pending_sound :
    Safe (fun waiting => ∀ id, waiting = some id → id.IsText) pending := by
  apply Sound.bind state_sound
  intro state typed
  cases place : state.cursor with
  | none => exact .pure fun id same => by cases same
  | some cursor =>
    refine .pure fun id same => ?_
    split at same
    · cases same
      exact typed.dialogue cursor place
    · cases same

theorem arrive_sound {follow : Play Bool} (follows : Secure follow)
    {dialogue : Dialogue} (known : dialogue.Typed) (node : Node) :
    Secure (arrive game follow dialogue node) := by
  have enters : Secure (setCursor (some ⟨dialogue.id, node.id⟩)) := by
    refine setCursor_sound fun place same => ?_
    cases same
    exact known.id
  apply Sound.bind enters
  intro _ _
  apply Sound.bind (perform_sound _ _)
  intro _ _
  apply Sound.bind follows
  intro led _
  cases led with
  | true => exact .pure trivial
  | false =>
    apply Sound.bind state_sound
    intro state _
    split
    · exact hop_sound known node
    · exact .pure trivial

theorem firesAt_sound (location : Value) (dialogue : Dialogue) :
    Secure (firesAt game location dialogue) := by
  unfold firesAt
  split
  · exact .pure trivial
  · apply Sound.bind (allPass_sound dialogue.conditions)
    intro passes _
    cases passes <;> exact .pure trivial

theorem interludeFiresAt_sound (location : Value) (interlude : Interlude) :
    Secure (interludeFiresAt game location interlude) := by
  unfold interludeFiresAt
  split
  · exact .pure trivial
  · exact allPass_sound interlude.conditions

theorem step?_blocked (machine : PhaseMachine) (cursor : Option Cursor) (trigger : String)
    (context : Value) :
    FailsOnly Failure.Blocked (machine.step? cursor (.text trigger) context) := by
  obtain ⟨permitted, asked⟩ := permits_returns machine (.ofCursor cursor) trigger
  simp [PhaseMachine.step?, asked, Failure.Blocked, Failure.IsTransition]

theorem takeStep_sound (step : Step) : Secure (takeStep game step) :=
  .bind (.modify fun _ typed => { typed with }) fun _ _ => .bind (record_sound _) fun _ _ =>
    .modify fun _ typed => { typed with }

theorem observe_sound (trigger : String) : Secure (observe game trigger) := by
  apply Sound.bind Sound.get
  intro session _
  have steps : Secure
      (liftM (session.machine.step? session.state.cursor trigger .null)) :=
    .lift (step?_blocked _ _ trigger _) fun _ _ => trivial
  apply Sound.bind steps
  intro step _
  cases step with
  | some step => exact takeStep_sound step
  | none => exact .pure trivial

section
variable (typed : game.registry.Typed)
include typed

theorem findStart_sound {id : Value} (isText : id.IsText) :
    Safe (fun found => ∀ place, found = some place → place.1.Typed)
      (liftM (findStart game id)) := by
  refine lift_sound ?_ ?_
  · simp only [findStart, failsOnly_bind, isText.lookup_failsOnly, true_and]
    intro found _
    cases found <;> exact failsOnly_ok _
  · simp only [findStart, returns_bind]
    intro found looked
    cases found with
    | none => simp
    | some dialogue =>
      refine (returns_pure _).mpr fun place started => ?_
      obtain ⟨start, _, rfl⟩ := Option.map_eq_some_iff.mp started
      exact typed.dialogues dialogue (Table.mem_of_lookup looked)

theorem enter_sound {follow : Play Bool} (follows : Secure follow) {id : Value}
    (isText : id.IsText) : Secure (enter game follow id) := by
  apply Sound.bind (findStart_sound typed isText)
  intro found known
  cases found with
  | some place => exact arrive_sound follows (known place rfl) place.2
  | none =>
    apply Sound.bind pending_sound
    intro waiting _
    split
    · exact endDialogue_sound
    · exact .pure trivial

theorem followWithin_sound (limit : Nat) : Secure (followWithin game limit) := by
  -- Entering follows with one start less, so the rest of the chain is the induction hypothesis.
  induction limit with
  | zero =>
    apply Sound.bind pending_sound
    intro waiting _
    split
    · exact .pure trivial
    · exact .bind endDialogue_sound fun _ _ => .pure trivial
  | succ limit ih =>
    apply Sound.bind pending_sound
    intro waiting texts
    cases waiting with
    | none => exact .pure trivial
    | some id =>
      exact .bind (enter_sound typed ih (texts id rfl)) fun _ _ => .pure trivial

theorem follow_sound : Secure (follow game) :=
  followWithin_sound typed _

theorem fireDialogue_sound (location : Value) : Secure (fireDialogue game location) := by
  apply Sound.bind (Sound.findM? fun dialogue _ => firesAt_sound location dialogue)
  intro found listed
  cases found with
  | none => exact .pure trivial
  | some dialogue =>
    have known := typed.dialogues dialogue (listed dialogue rfl)
    exact enter_sound typed (follow_sound typed) known.id

theorem fireInterlude_sound (location : Value) : Secure (fireInterlude game location) := by
  apply Sound.bind (Sound.findM? fun interlude _ => interludeFiresAt_sound location interlude)
  intro found listed
  cases found with
  | none => exact .pure trivial
  | some interlude =>
    have known := typed.interludes interlude (listed interlude rfl)
    apply Sound.bind state_sound
    intro state isState
    have shown : GameState.Typed { state with interlude := interlude.id } :=
      { isState with interlude := known.id.label }
    exact .bind (setState_sound shown) fun _ _ => perform_sound _ _

theorem fireTriggers_sound : Secure (fireTriggers game) :=
  .bind state_sound fun _ _ => .bind (fireDialogue_sound typed _) fun _ _ =>
    fireInterlude_sound typed _

theorem finish_sound (trigger : String) : Secure (finish game trigger) := by
  apply Sound.bind (follow_sound typed)
  intro _ _
  apply Sound.bind (observe_sound trigger)
  intro _ _
  apply Sound.bind state_sound
  intro state isState
  apply Sound.bind (rolling_sound (View.build_sound typed isState))
  intro view _
  apply Sound.bind state_sound
  intro state isState
  have cleared : state.clearCues.Typed :=
    { isState with
      notifications := fun message member => by cases member
      interlude := .inl rfl }
  exact .bind (setState_sound cleared) fun _ _ => .pure trivial

end

end Play
end Fabula
