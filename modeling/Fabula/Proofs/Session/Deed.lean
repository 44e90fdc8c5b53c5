import Fabula.Proofs.Rules.Application
import Fabula.Proofs.Session.Refusal
import Fabula.Proofs.Session.Telling
/-!
# What deeds do

A deed leads from one state to the next. `Tells` says that the deeds of a computation lead from the
state that it finds to the state that it leaves, and that something is known there. It has one rule
for each step and one lemma for each function of a session.
-/

namespace Fabula
variable {α β : Type} {game : Game}

/-- What a deed that goes on from a state makes of it, with what is known where it is done. -/
inductive Deed.Meaning (game : Game) : Deed → GameState → GameState → Prop
  | apply {effects : List Effect} {before after : GameState} {roller rolled : Roller}
      (applies : Effect.applyAll before effects roller = .ok after rolled) :
      Meaning game (.apply effects) before after
  | arrive {dialogue : Dialogue} {node : Node} {before : GameState}
      (known : dialogue ∈ game.registry.dialogues.values) (listed : node ∈ dialogue.nodes) :
      Meaning game (.arrive dialogue node) before
        { before with cursor := some ⟨dialogue.id, node.id⟩ }
  | hop {dialogue : Dialogue} {target : Value} {before : GameState}
      (known : dialogue ∈ game.registry.dialogues.values)
      (found : (dialogue.findNode? target).isSome) :
      Meaning game (.hop dialogue target) before
        { before with cursor := some ⟨dialogue.id, target⟩ }
  | leave {before : GameState} : Meaning game .leave before { before with cursor := none }
  | fire {interlude : Interlude} {before : GameState} :
      Meaning game (.fire interlude) before { before with interlude := interlude.id }
  | wait {hours : Int} {before : GameState} {time : Clock}
      (advances : before.time.advance (.int hours) = .ok time) :
      Meaning game (.wait hours) before { before with time }
  | depart {location : Value} {before : GameState} :
      Meaning game (.depart location) before { before with location, cursor := none }
  | carry {item : Value} {before after : GameState} (carries : before.carryItem item = .ok after) :
      Meaning game (.carry item) before after
  | write {note : Note} {before : GameState} :
      Meaning game (.write note) before { before with notes := before.notes ++ [note] }
  | delete {id : Value} {before : GameState} :
      Meaning game (.delete id) before
        { before with notes := before.notes.filter fun note => !note.id.same id }
  | translate {locale : Value} {before : GameState} :
      Meaning game (.translate locale) before { before with locale }
  | command {command : Command} {before after : GameState}
      (updates : command.update before = .ok after) : Meaning game (.command command) before after

inductive Path (game : Game) : GameState → List Deed → GameState → Prop
  | nil (state : GameState) : Path game state [] state
  | cons {before between after : GameState} {deed : Deed} {deeds : List Deed}
      (does : deed.Meaning game before between) (rest : Path game between deeds after) :
      Path game before (deed :: deeds) after

namespace Path

theorem single {before after : GameState} {deed : Deed} (does : deed.Meaning game before after) :
    Path game before [deed] after :=
  .cons does (.nil after)

theorem append {before between after : GameState} {deeds later : List Deed}
    (early : Path game before deeds between) (late : Path game between later after) :
    Path game before (deeds ++ later) after := by
  induction early with
  | nil => exact late
  | cons does _ ih => exact .cons does (ih late)

theorem split {before after : GameState} {early late : List Deed}
    (path : Path game before (early ++ late) after) :
    ∃ between, Path game before early between ∧ Path game between late after := by
  induction early generalizing before with
  | nil => exact ⟨before, .nil _, path⟩
  | cons deed early ih =>
    cases path with
    | cons does rest =>
      obtain ⟨between, first, last⟩ := ih rest
      exact ⟨between, .cons does first, last⟩

end Path

def Command.steer (cursor : Option Cursor) : Command → Option Cursor
  | .triggerDialogue dialogue => some (.starting dialogue)
  | _ => cursor

theorem ok_of_keyed {value : Value} {change : Key → GameState} {after : GameState}
    (updates : (value.key >>= fun key => pure (change key)) = .ok after) :
    ∃ key, change key = after := by
  cases read : value.key with
  | ok key =>
    rw [read] at updates
    cases updates
    exact ⟨key, rfl⟩
  | error failure =>
    rw [read] at updates
    cases updates

theorem Command.handle_of_update {command : Command} {before after : GameState}
    (updates : command.update before = .ok after) : command.handle before = .ok after := by
  unfold update at updates
  cases written : (Value.list command.arguments).writable with
  | ok _ =>
    rw [written] at updates
    exact updates
  | error failure =>
    rw [written] at updates
    cases updates

theorem Command.meaning_of_update {command : Command} {before after : GameState}
    (updates : command.update before = .ok after) :
    after.cues = before.cues ∧ after.cursor = command.steer before.cursor := by
  replace updates := handle_of_update updates
  cases command with
  | setFlag | clearFlag | setVariable | setQuestStage =>
    obtain ⟨_, rfl⟩ := ok_of_keyed updates
    exact ⟨rfl, rfl⟩
  | addItem item =>
    obtain ⟨_, _, rfl⟩ := addItem_eq updates
    exact ⟨rfl, rfl⟩
  | _ =>
    cases updates
    exact ⟨rfl, rfl⟩

theorem View.currentNode?_eq_some {registry : Registry} {cursor : Option Cursor}
    {dialogue : Dialogue} {node : Node} :
    currentNode? registry cursor = .ok (some (dialogue, node)) ↔ ∃ place, cursor = some place ∧
      registry.dialogues.lookup place.dialogue = .ok (some dialogue) ∧
        dialogue.findNode? place.node = some node := by
  cases cursor with
  | none => simp [currentNode?, pure, Except.pure]
  | some place =>
    simp only [currentNode?, Option.some.injEq, exists_eq_left']
    cases registry.dialogues.lookup place.dialogue with
    | error failure => simp [bind, Except.bind]
    | ok found =>
      cases found with
      | none => simp [bind, Except.bind, pure, Except.pure]
      | some known =>
        simp only [bind, Except.bind, pure, Except.pure, Except.ok.injEq, Option.some.injEq,
          Option.map_eq_some_iff, Prod.mk.injEq]
        constructor
        · rintro ⟨found, first, rfl, rfl⟩
          exact ⟨rfl, first⟩
        · rintro ⟨rfl, first⟩
          exact ⟨node, first, rfl, rfl⟩

namespace Play

theorem Stays.pending : Stays pending := by
  intro session
  rw [after_of_ok (pending_eq session)]
  exact .refl session

theorem Stays.allPass (conditions : List Condition) : Stays (allPass game conditions) :=
  .bind .state fun _ => .rolling _

theorem Stays.firesAt (location : Value) (dialogue : Dialogue) :
    Stays (firesAt game location dialogue) := by
  unfold Play.firesAt
  split
  · exact .pure _
  · refine .bind (.allPass _) fun passes => ?_
    cases passes <;> exact .pure _

theorem Stays.interludeFiresAt (location : Value) (interlude : Interlude) :
    Stays (interludeFiresAt game location interlude) := by
  unfold Play.interludeFiresAt
  split
  · exact .pure _
  · exact .allPass _

theorem Stays.logTimeStep (before after : Clock) (hours : Except Failure Number)
    (reason : String) : Stays (logTimeStep game before after hours reason) :=
  .bind (.lift _) fun _ => .bind (.lift _) fun _ => .bind (.lift _) fun _ => (keeps_record _).stays

theorem Stays.requireTime : Stays requireTime :=
  .bind .state fun _ => .bind (.lift _) fun _ => .pure _

theorem keeps_logCommand (game : Game) (name : String) (arguments : List Value) :
    Keeps (logCommand game name arguments) :=
  keeps_record _

theorem ok_of_rolling {computation : Rolling α} {session next : Session} {a : α}
    (returns : rolling game computation session = .ok a next) :
    ∃ rolled, computation session.heardRoller = .ok a rolled := by
  rw [rolling_eq] at returns
  obtain ⟨_, settled, _, answers⟩ := ok_of_bind returns
  obtain ⟨answer, _⟩ := ok_of_lift answers
  cases run : computation session.heardRoller with
  | ok b rolled =>
    rw [outcome_of_ok run] at answer
    cases answer
    exact ⟨rolled, rfl⟩
  | error failure rolled =>
    rw [outcome_of_error run] at answer
    cases answer

theorem known_of_findStart {id : Value} {place : Dialogue × Node}
    (found : findStart game id = .ok (some place)) :
    place.1 ∈ game.registry.dialogues.values ∧ place.2 ∈ place.1.nodes := by
  obtain ⟨known, first⟩ := start_of_findStart found
  exact ⟨Table.mem_of_lookup known, List.mem_of_find?_eq_some first⟩

theorem current_of_ok {session next : Session} {place : Option (Dialogue × Node)}
    (returns : currentNode game session = .ok place next) :
    View.currentNode? game.registry session.state.cursor = .ok place ∧ next = session := by
  obtain ⟨state, between, asked, returns⟩ := ok_of_bind returns
  cases asked
  exact ok_of_lift returns

end Play

namespace Telling

theorem ok_of_silently {computation : Play α} {account last : Account} {a : α}
    (returns : silently computation account = .ok a last) :
    ∃ next, computation account.session = .ok a next ∧ last = ⟨next, account.deeds⟩ := by
  unfold silently at returns
  cases run : computation account.session with
  | ok b next =>
    rw [run] at returns
    cases returns
    exact ⟨next, rfl, rfl⟩
  | error failure next =>
    rw [run] at returns
    cases returns

theorem ok_of_lift {result : Except Failure α} {account last : Account} {a : α}
    (returns : (liftM result : Telling α) account = .ok a last) :
    result = .ok a ∧ last = account := by
  cases result with
  | ok b =>
    cases returns
    exact ⟨rfl, rfl⟩
  | error failure => cases returns

/-- Whether a computation that begins where `P` holds does deeds that lead to the state it leaves,
where `R` holds of what it returns. -/
def Tells (game : Game) (P : GameState → Prop) (telling : Telling α) (R : α → GameState → Prop) :
    Prop :=
  ∀ account, P account.session.state → ∀ a last, telling account = .ok a last →
    ∃ deeds, last.deeds = account.deeds ++ deeds ∧
      Path game account.session.state deeds last.session.state ∧ R a last.session.state

namespace Tells
variable {P : GameState → Prop} {R : α → GameState → Prop} {S : β → GameState → Prop}

theorem bind {first : Telling α} {next : α → Telling β} (early : Tells game P first R)
    (late : ∀ a, Tells game (R a) (next a) S) : Tells game P (first >>= next) S := by
  intro account holds b last returns
  obtain ⟨a, between, starts, returns⟩ := Play.ok_of_bind returns
  obtain ⟨deeds, told, path, known⟩ := early account holds a between starts
  obtain ⟨later, toldLater, pathLater, knownLater⟩ := late a between known b last returns
  refine ⟨deeds ++ later, ?_, path.append pathLater, knownLater⟩
  rw [toldLater, told, List.append_assoc]

theorem pure (a : α) : Tells game P (Pure.pure a) fun _ _ => True := by
  intro account _ b last returns
  cases returns
  exact ⟨[], (List.append_nil _).symm, .nil _, trivial⟩

theorem put {deed : Deed} {state : GameState}
    (does : ∀ before, P before → deed.Meaning game before state) :
    Tells game P (put deed state) fun _ _ => True := by
  intro account holds _ last returns
  cases returns
  exact ⟨[deed], rfl, .single (does _ holds), trivial⟩

theorem stays {computation : Play α} {F : α → Prop} (quiet : computation.Stays)
    (answers : ∀ session a next, computation session = .ok a next → F a) :
    Tells game P (silently computation) fun a state => P state ∧ F a := by
  intro account holds a last told
  obtain ⟨next, returns, rfl⟩ := ok_of_silently told
  have same : next.state = account.session.state := (quiet.of_ok returns).state
  have path : Path game account.session.state [] next.state := by
    rw [same]
    exact .nil _
  refine ⟨[], (List.append_nil _).symm, path, ?_, answers _ _ _ returns⟩
  rwa [same]

theorem silent {computation : Play α} (quiet : computation.Stays) :
    Tells game P (silently computation) fun _ _ => True := by
  intro account holds a last returns
  have tells : Tells game P (silently computation) fun _ state => P state ∧ True :=
    .stays quiet fun _ _ _ _ => trivial
  obtain ⟨deeds, told, path, _⟩ := tells account holds a last returns
  exact ⟨deeds, told, path, trivial⟩

theorem after_stays {computation : Play α} {F : α → Prop} {next : α → Telling β}
    (quiet : computation.Stays)
    (answers : ∀ session a last, computation session = .ok a last → F a)
    (rest : ∀ a, F a → Tells game P (next a) S) :
    Tells game P (silently computation >>= next) S :=
  .bind (.stays quiet answers) fun a account known => rest a known.2 account known.1

theorem after {computation : Play α} {next : α → Telling β} (quiet : computation.Stays)
    (rest : ∀ a, Tells game P (next a) S) : Tells game P (silently computation >>= next) S :=
  .after_stays (F := fun _ => True) quiet (fun _ _ _ _ => trivial) fun a _ => rest a

theorem after_lift {result : Except Failure α} {next : α → Telling β}
    (rest : ∀ a, result = .ok a → Tells game P (next a) S) :
    Tells game P (liftM result >>= next) S := by
  intro account holds b last told
  obtain ⟨a, between, asked, returns⟩ := Play.ok_of_bind told
  obtain ⟨answer, rfl⟩ := ok_of_lift asked
  exact rest a answer between holds b last returns

theorem after_state {next : GameState → Telling β}
    (rest : ∀ state, Tells game (fun now => P now ∧ now = state) (next state) S) :
    Tells game P (silently Play.state >>= next) S := by
  intro account holds b last returns
  obtain ⟨state, between, asked, returns⟩ := Play.ok_of_bind returns
  cases asked
  exact rest _ account ⟨holds, rfl⟩ b last returns

theorem setCursor {deed : Deed} {cursor : Option Cursor}
    (does : ∀ before, deed.Meaning game before { before with cursor }) :
    Tells game P (setCursor deed cursor) fun _ _ => True := by
  refine .after_state fun state => .put fun before known => ?_
  rw [← known.2]
  exact does before

theorem alter {deed : Deed} {change : GameState → Rolling GameState} {reason : String}
    (does : ∀ before after roller rolled, change before roller = .ok after rolled →
      deed.Meaning game before after) :
    Tells game P (alter game deed change reason) fun _ _ => True := by
  refine .after_state fun before => .after_stays (F := fun after => ∃ roller rolled,
    change before roller = .ok after rolled) (.rolling _) ?_ ?_
  · intro session after next returns
    obtain ⟨rolled, changes⟩ := Play.ok_of_rolling returns
    exact ⟨_, rolled, changes⟩
  · rintro after ⟨roller, rolled, changes⟩
    refine .bind (.put fun now known => ?_) fun _ => ?_
    · rw [known.2]
      exact does before after roller rolled changes
    · split
      · exact .silent (.logTimeStep _ _ _ _)
      · exact .pure _

theorem perform (effects : List Effect) (reason : String) :
    Tells game P (perform game effects reason) fun _ _ => True :=
  .alter fun _ _ _ _ => .apply

theorem advanceClock (hours : Int) (reason : String) :
    Tells game P (advanceClock game hours reason) fun _ _ => True := by
  refine .after_state fun before => .after_lift fun time advances =>
    .bind (.put fun now known => ?_) fun _ => .silent (.logTimeStep _ _ _ _)
  rw [known.2]
  exact .wait advances

theorem hop {dialogue : Dialogue} (known : dialogue ∈ game.registry.dialogues.values)
    (node : Node) : Tells game P (hop game dialogue node) fun _ _ => True := by
  refine .after (.findTarget node) fun target => ?_
  cases target with
  | none => exact .setCursor fun _ => .leave
  | some target =>
    dsimp only
    split
    · next found => exact .setCursor fun _ => .hop known found
    · exact .setCursor fun _ => .leave

theorem arrive {told : Telling Bool} (follows : ∀ {P}, Tells game P told fun _ _ => True)
    {dialogue : Dialogue} (known : dialogue ∈ game.registry.dialogues.values) {node : Node}
    (listed : node ∈ dialogue.nodes) :
    Tells game P (arrive game told dialogue node) fun _ _ => True := by
  refine .bind (.setCursor fun _ => .arrive known listed) fun _ =>
    .bind (.perform _ _) fun _ => .bind follows fun followed => ?_
  cases followed with
  | true => exact .pure _
  | false =>
    refine .after .state fun state => ?_
    split
    · exact .hop known node
    · exact .pure _

theorem enter {told : Telling Bool} (follows : ∀ {P}, Tells game P told fun _ _ => True)
    (id : Value) : Tells game P (enter game told id) fun _ _ => True := by
  refine .after_lift fun found looked => ?_
  cases found with
  | some place =>
    obtain ⟨known, listed⟩ := Play.known_of_findStart looked
    exact .arrive follows known listed
  | none =>
    refine .after .pending fun waiting => ?_
    split
    · exact .setCursor fun _ => .leave
    · exact .pure _

theorem followWithin (limit : Nat) :
    Tells game P (followWithin game limit) fun _ _ => True := by
  -- What is entered follows with one start less.
  induction limit generalizing P with
  | zero =>
    refine .after .pending fun waiting => ?_
    split
    · exact .pure _
    · exact .bind (.setCursor fun _ => .leave) fun _ => .pure _
  | succ limit ih =>
    refine .after .pending fun waiting => ?_
    cases waiting with
    | none => exact .pure _
    | some id => exact .bind (.enter ih id) fun _ => .pure _

theorem follow : Tells game P (follow game) fun _ _ => True :=
  .followWithin _

theorem fireDialogue (location : Value) :
    Tells game P (fireDialogue game location) fun _ _ => True := by
  refine .after (.findM? fun _ => .firesAt _ _) fun found => ?_
  cases found with
  | some dialogue => exact .enter .follow dialogue.id
  | none => exact .pure _

theorem fireInterlude (location : Value) :
    Tells game P (fireInterlude game location) fun _ _ => True := by
  refine .after (.findM? fun _ => .interludeFiresAt _ _) fun found => ?_
  cases found with
  | some interlude =>
    refine .after_state fun state => .bind (.put fun now same => ?_) fun _ => .perform _ _
    rw [← same.2]
    exact .fire
  | none => exact .pure _

theorem fireTriggers : Tells game P (fireTriggers game) fun _ _ => True :=
  .after_state fun _ => .bind (.fireDialogue _) fun _ => .fireInterlude _

theorem take {dialogue : Dialogue} (known : dialogue ∈ game.registry.dialogues.values)
    (choice : Choice) (id : Value) :
    Tells game P (take game dialogue choice id) fun _ _ => True := by
  refine .bind (.perform _ _) fun _ => .bind .follow fun followed => ?_
  cases followed with
  | true => exact .pure _
  | false =>
    have leaves : Tells game (fun _ => True) endDialogue fun _ _ => True :=
      .setCursor fun _ => .leave
    by_cases present : choice.next.isPresent
    · simp only [present, if_true, Bool.false_eq_true, if_false]
      cases found : dialogue.findNode? choice.next with
      | none => exact leaves
      | some node => exact .arrive .follow known (List.mem_of_find?_eq_some found)
    · simpa [present] using leaves

theorem travelAlong (travelMap : TravelMap) (origin destination : Marker) (location : Value) :
    Tells game P (travelAlong game travelMap origin destination location) fun _ _ => True := by
  refine .after_lift fun hours _ => .after_state fun state => .bind (.put fun now known => ?_)
    fun _ => .bind (.advanceClock _ _) fun _ => .fireTriggers
  rw [← known.2]
  exact .depart

theorem after_current {next : Option (Dialogue × Node) → Telling β}
    (nowhere : Tells game P (next none) S)
    (there : ∀ dialogue node, dialogue ∈ game.registry.dialogues.values →
      Tells game P (next (some (dialogue, node))) S) :
    Tells game P (silently (Play.currentNode game) >>= next) S := by
  refine .after_stays (F := fun found => ∀ place, found = some place →
    place.1 ∈ game.registry.dialogues.values) .currentNode ?_ fun found known => ?_
  · rintro session _ last returns place rfl
    obtain ⟨_, _, looked, _⟩ :=
      View.currentNode?_eq_some.mp (Play.current_of_ok returns).1
    exact Table.mem_of_lookup looked
  · cases found with
    | none => exact nowhere
    | some place => exact there place.1 place.2 (known place rfl)

theorem selectChoice (id : Value) :
    Tells game P (lead game (.selectChoice id)) fun _ _ => True := by
  refine .after (.logAction _ _) fun _ => .after_current (.pure _) fun dialogue node known => ?_
  dsimp only
  split
  · exact .take known _ _
  · exact .pure _

theorem talkTo (id : Value) : Tells game P (lead game (.talkTo id)) fun _ _ => True := by
  refine .after (.logAction _ _) fun _ => .after_lift fun found _ => ?_
  cases found with
  | none => exact .pure _
  | some character =>
    dsimp only
    split
    · exact .enter .follow _
    · exact .pure _

theorem continueDialogue : Tells game P (lead game .continueDialogue) fun _ _ => True := by
  refine .after (.logAction _ _) fun _ => .after_current (.pure _) fun dialogue node known => ?_
  dsimp only
  split
  · exact .hop known node
  · exact .pure _

theorem takeItem (item : Value) : Tells game P (lead game (.takeItem item)) fun _ _ => True := by
  refine .after (.logAction _ _) fun _ => .after_state fun state => .after_lift fun place _ => ?_
  dsimp only
  split
  · refine .after_lift fun carried carries => .put fun now known => ?_
    rw [known.2]
    exact .carry carries
  · exact .pure _

theorem travelTo (location : Value) :
    Tells game P (lead game (.travelTo location)) fun _ _ => True := by
  refine .after (.logAction _ _) fun _ => .after .state fun state => ?_
  split
  · split
    · exact .travelAlong _ _ _ _
    · exact .pure _
  · exact .pure _

theorem writeNote (title text : Value) :
    Tells game P (lead game (.writeNote title text)) fun _ _ => True := by
  refine .after (fun session => ⟨rfl, rfl⟩) fun _ => .after (fun session => ⟨rfl, rfl⟩)
    fun session => .after (.logAction _ _) fun _ => .after_state fun state =>
      .put fun now known => ?_
  rw [known.2]
  exact .write

theorem deleteNote (id : Value) :
    Tells game P (lead game (.deleteNote id)) fun _ _ => True := by
  refine .after (.logAction _ _) fun _ => .after_state fun state => .put fun now known => ?_
  rw [known.2]
  exact .delete

theorem setLocale (locale : Value) :
    Tells game P (lead game (.setLocale locale)) fun _ _ => True := by
  refine .after (.logAction _ _) fun _ => .after_lift fun _ _ => .after_state fun state =>
    .put fun now known => ?_
  rw [known.2]
  exact .translate

end Tells

end Telling
end Fabula
