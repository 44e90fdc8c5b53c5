import Fabula.Proofs.Rules.Comparison
import Fabula.Proofs.Session.Belongings
/-!
# What flags hold

Setting or clearing a flag stores a truth value, and nothing else touches the flags. So a flag holds
a truth value, or it still holds what the state began with, which can be anything. Main statements:

* `toggled_of_deed`: what a deed can do to the flags;
* `flag_set_or_clear`: a flag is either set or not, unless it holds from the beginning what is
  neither.
-/

namespace Fabula
variable {game : Game} {before after : GameState} {given flags later : Table Value}

def Table.Toggled (given flags : Table Value) : Prop :=
  ∀ key, flags.find? key = given.find? key ∨ ∃ b, flags.find? key = some (.bool b)

/-- Whether a flag holds a value that counts as present and still is not `true`. -/
def Table.Unclear (flags : Table Value) (flag : String) : Prop :=
  ∃ value, flags.find? flag = some value ∧ value.isPresent ∧ value ≠ .bool true

namespace Table.Toggled

theorem refl (flags : Table Value) : flags.Toggled flags :=
  fun _ => .inl rfl

theorem trans (early : given.Toggled flags) (late : flags.Toggled later) : given.Toggled later := by
  intro key
  rcases late key with same | stored
  · rw [same]
    exact early key
  · exact .inr stored

theorem insert (flags : Table Value) (flag : Key) (b : Bool) :
    flags.Toggled (flags.insert flag (.bool b)) := by
  intro key
  by_cases same : flag.place = key.place
  · rw [← find?_of_place same, find?_insert_self]
    exact .inr ⟨b, rfl⟩
  · exact .inl (find?_insert_of_ne _ _ (mt Key.same_iff.mp same))

theorem of_unclear {flag : String} (toggled : given.Toggled flags) (unclear : flags.Unclear flag) :
    flags.find? flag = given.find? flag := by
  obtain ⟨value, held, present, other⟩ := unclear
  rcases toggled flag with same | ⟨b, stored⟩
  · exact same
  · rw [stored] at held
    cases held
    cases b with
    | true => exact absurd rfl other
    | false => cases present

end Table.Toggled

theorem toggled_of_apply {effect : Effect} {roller rolled : Roller}
    (applies : effect.apply before roller = .ok after rolled) :
    before.flags.Toggled after.flags := by
  replace applies := (apply_eq_ok.mp applies).2
  have updated {id : String} {change : CharacterState → Except Failure CharacterState}
      (updates : (liftM (before.updateCharacter id change) : Rolling GameState) roller =
        .ok after rolled) : before.flags.Toggled after.flags := by
    obtain ⟨characters, rfl⟩ := updateCharacter_eq (ok_of_lifted updates)
    exact .refl _
  cases effect with
  | setFlag | clearFlag =>
    cases applies
    exact .insert _ _ _
  | addVariable | roll | advanceTime =>
    obtain ⟨_, _, _, returns⟩ := Play.ok_of_bind applies
    cases returns
    exact .refl _
  | addItem item =>
    obtain ⟨_, _, rfl⟩ := addItem_eq (ok_of_lifted applies)
    exact .refl _
  | addJournalEntry entry =>
    simp only [Effect.handle] at applies
    split at applies <;> cases applies <;> exact .refl _
  | setCharacterLocation | addToParty | removeFromParty | setRelationship | addRelationship
  | setCharacterStat | addCharacterStat => exact updated applies
  | _ =>
    cases applies
    exact .refl _

theorem toggled_of_applyAll {effects : List Effect} {roller rolled : Roller}
    (applies : Effect.applyAll before effects roller = .ok after rolled) :
    before.flags.Toggled after.flags := by
  induction effects generalizing before roller with
  | nil =>
    cases applies
    exact .refl _
  | cons effect rest ih =>
    obtain ⟨between, middle, early, late⟩ := Play.ok_of_bind applies
    exact (toggled_of_apply early).trans (ih late)

theorem toggled_of_update {command : Command} (updates : command.update before = .ok after) :
    before.flags.Toggled after.flags := by
  replace updates := command.handle_of_update updates
  cases command with
  | setFlag | clearFlag =>
    obtain ⟨_, rfl⟩ := ok_of_keyed updates
    exact .insert _ _ _
  | setVariable | setQuestStage =>
    obtain ⟨_, rfl⟩ := ok_of_keyed updates
    exact .refl _
  | addItem item =>
    obtain ⟨_, _, rfl⟩ := addItem_eq updates
    exact .refl _
  | _ =>
    cases updates
    exact .refl _

theorem toggled_of_deed {deed : Deed} (does : deed.Meaning game before after) :
    before.flags.Toggled after.flags := by
  cases does with
  | apply applies => exact toggled_of_applyAll applies
  | carry carries =>
    obtain ⟨_, _, rfl⟩ := carryItem_eq carries
    exact .refl _
  | command updates => exact toggled_of_update updates
  | _ => exact .refl _

inductive Call.BroughtFlags (game : Game) : Call → Table Value → Prop
  | newGame (setup : Setup) : BroughtFlags game (.action (.newGame setup)) setup.flags
  | load (save : Save) : BroughtFlags game (.action (.load save)) save.state.flags
  | loadRecord {data : Value} {save : Save} (read : Save.ofRecord game.now.text data = .ok save) :
      BroughtFlags game (.action (.loadRecord data)) save.state.flags

/-- Runs whose calls may fail. The index is the flags that the state began with, also where the
session has been saved and loaded since. -/
def flagRuns : RunKind (Table Value) where
  Begins flags session := ∃ turn : Turn, turn.call.BroughtFlags turn.game flags ∧ turn.Begins ∧
    turn.after = session
  Goes flags turn next := next = flags ∧ turn.GoesOn
  Loads turn := turn.Begins

def FlagRun (given : Table Value) (session : Session) : Prop :=
  Run flagRuns given session

theorem Call.BroughtFlags.flags_of_opening {call : Call} {state start : GameState}
    {opening : List Deed}
    (brings : call.BroughtFlags game given) (opens : call.Opening game state opening start) :
    start.flags = given := by
  cases brings with
  | newGame setup =>
    cases opens with
    | newGame => rfl
    | other goesOn => cases goesOn
  | load save =>
    cases opens with
    | load => rfl
    | other goesOn => cases goesOn
  | loadRecord read =>
    cases opens with
    | loadRecord found =>
      rw [read] at found
      cases found
      rfl
    | other goesOn => cases goesOn

theorem FlagRun.toggled {session : Session} (descends : FlagRun given session) :
    given.Toggled session.state.flags := by
  have does {game : Game} {call : Call} {given : Table Value} (deed : Deed)
      (before after : GameState) (done : deed.Meaning game before after)
      (_ : call.Permits game.registry deed) (toggled : given.Toggled before.flags) :
      given.Toggled after.flags :=
    toggled.trans (toggled_of_deed done)
  refine Run.keeps (I := fun given session => given.Toggled session.state.flags) descends ?_ ?_ ?_
  · rintro given _ ⟨turn, brings, begins, rfl⟩
    refine begins.keeps does (fun _ => id) fun _ _ opens => ?_
    rw [brings.flags_of_opening opens]
    exact .refl _
  · rintro given turn _ ⟨rfl, goesOn⟩ toggled
    exact goesOn.keeps does (fun _ => id) toggled
  · rintro given holder turn begins resumes toggled
    exact begins.keeps does (fun _ => id) fun _ _ opens => resumes.start_eq opens ▸ toggled

namespace Condition
variable {state : GameState} {flag : String}

theorem passes_hasFlag {has : Bool}
    (tells : has = true ↔ state.flags.find? flag = some (.bool true)) :
    (hasFlag flag).passes state = pure has := by
  apply passes_of_answer
  simp only [answer]
  congr 2
  split
  · next b held =>
    rw [held] at tells
    cases b <;> simpa using tells
  · next other =>
    cases has with
    | false => rfl
    | true => exact absurd (tells.mp rfl) (other true)

theorem passes_notFlag {value : Value} (held : state.flags.getD flag (.bool false) = value) :
    (notFlag flag).passes state = pure !value.isPresent :=
  passes_of_answer (by rw [answer, held])

theorem Passing.unique {conditions : List Condition} {count other : Nat}
    (passing : Passing state conditions count) (others : Passing state conditions other) :
    count = other := by
  obtain ⟨answers, passes, rfl⟩ := passing
  obtain ⟨_, same, rfl⟩ := others
  rw [(List.map_inj_right fun _ _ => pure_injective).mp (passes.symm.trans same)]

theorem passing_pair {first second : Condition} {a b : Bool}
    (early : first.passes state = pure a) (late : second.passes state = pure b) :
    Passing state [first, second] ([a, b].count true) :=
  ⟨[a, b], by simp only [List.map_cons, List.map_nil, early, late], rfl⟩

theorem passing_unclear (unclear : state.flags.Unclear flag) :
    Passing state [.hasFlag flag, .notFlag flag] 0 := by
  obtain ⟨value, held, present, other⟩ := unclear
  have has : (hasFlag flag).passes state = pure false := passes_hasFlag (by simp [held, other])
  have lacks := passes_notFlag (by rw [Table.getD, held, Option.getD_some])
  rw [present] at lacks
  exact passing_pair has lacks

theorem passing_clear (clear : ¬ state.flags.Unclear flag) :
    Passing state [.hasFlag flag, .notFlag flag] 1 := by
  have lacks : (notFlag flag).passes state =
      pure !(state.flags.getD flag (.bool false)).isPresent := passes_notFlag rfl
  by_cases set : state.flags.find? flag = some (.bool true)
  · have has : (hasFlag flag).passes state = pure true := passes_hasFlag (by simp [set])
    rw [Table.getD, set] at lacks
    exact passing_pair has lacks
  · have has : (hasFlag flag).passes state = pure false := passes_hasFlag (by simp [set])
    have absent : (state.flags.getD flag (.bool false)).isPresent = false := by
      rw [Table.getD]
      cases held : state.flags.find? flag with
      | none => rfl
      | some value =>
        by_contra present
        rw [Option.getD_some, Bool.not_eq_false] at present
        exact clear ⟨value, held, present, fun same => set (held.trans (congrArg some same))⟩
    rw [absent] at lacks
    exact passing_pair has lacks

end Condition

/-- Of the two questions about a flag exactly one is answered with yes, unless the flag holds a
value that counts as present and still is not `true`. Then none is, and it is what the state began
with. -/
theorem flag_set_or_clear {session : Session} (descends : FlagRun given session) (flag : String) :
    (¬ session.state.flags.Unclear flag →
      Condition.Passing session.state [.hasFlag flag, .notFlag flag] 1) ∧
    (session.state.flags.Unclear flag →
      Condition.Passing session.state [.hasFlag flag, .notFlag flag] 0 ∧
        session.state.flags.find? flag = given.find? flag) :=
  ⟨Condition.passing_clear, fun unclear =>
    ⟨Condition.passing_unclear unclear, descends.toggled.of_unclear unclear⟩⟩

/-- What is given for a flag is not checked. -/
def metData : Value :=
  .object [("start_location", "hall"), ("start_flags", .object [("met", .number (.int 1))])]

def metSetup : Setup :=
  ⟨"hall", .start, ⟨[("met", .number (.int 1))]⟩, ∅, []⟩

theorem met_read : Setup.ofRecord metData = .ok metSetup := rfl

def metBegins : Turn :=
  ⟨keyGame, .action (.newGame metSetup), .new keyGame guideRoller 0⟩

theorem met_begins : metBegins.Returns :=
  Turn.returns_of_isOk (by decide +kernel)

theorem met_unclear : metBegins.after.state.flags.Unclear "met" := by
  have held : (metBegins.after.state.flags.find? "met").bind Value.number? = some (.int 1) := by
    decide +kernel
  obtain ⟨value, found, read⟩ := Option.bind_eq_some_iff.mp held
  cases value with
  | number n =>
    cases read
    exact ⟨_, found, rfl, nofun⟩
  | _ => cases read

theorem flag_set_or_clear_met :
    FlagRun metSetup.flags metBegins.after ∧
      metBegins.after.state.flags.find? "met" = metSetup.flags.find? "met" ∧
      Condition.Passing metBegins.after.state [.hasFlag "seen", .notFlag "seen"] 1 := by
  have descends : FlagRun metSetup.flags metBegins.after :=
    .begin ⟨metBegins, .newGame metSetup, met_begins.begins, rfl⟩
  have unseen : (metBegins.after.state.flags.find? "seen").isNone := by decide +kernel
  refine ⟨descends, ((flag_set_or_clear descends "met").2 met_unclear).2,
    (flag_set_or_clear descends "seen").1 ?_⟩
  rintro ⟨value, held, _⟩
  simp [held] at unseen

/-- A new game with one for a flag neither has the flag nor lacks it. -/
theorem met_neither : Setup.ofRecord metData = .ok metSetup ∧
    metBegins.Returns ∧
    ¬ Condition.Passing metBegins.after.state [.hasFlag "met", .notFlag "met"] 1 := by
  refine ⟨met_read, met_begins, fun one => ?_⟩
  have none := Condition.passing_unclear met_unclear
  cases one.unique none

end Fabula
