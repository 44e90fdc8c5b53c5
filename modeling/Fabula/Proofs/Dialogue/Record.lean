import Fabula.Content.Registry
import Fabula.Proofs.Rules.Record
import Fabula.Proofs.State.Record
/-!
# Dialogues as records

A dialogue that has been read, from a script or from a record, is settled: what it holds is what
its record would be read as. The record of a settled dialogue is read back as the dialogue, as long
as the integers in its conditions and effects are within the range of floats; the reader asks of
every number whether it is finite, and the question fails beyond. Main statements:

* `Dialogue.Settled.ofRecord_toRecord`: the record of a settled dialogue is read back;
* `dialogue_restored`: so is that of every dialogue that has been read.
-/

namespace Fabula

def Value.Names (value : Value) : Prop :=
  value ≠ .null ∧ value ≠ .text ""

structure Choice.Settled (choice : Choice) : Prop where
  named : choice.id.Names
  routed : choice.next.orElse "" = choice.next
  conditions : ∀ condition ∈ choice.conditions, condition.Suited
  effects : ∀ effect ∈ choice.effects, effect.Suited

structure Node.Settled (node : Node) : Prop where
  named : node.id.Names
  choices : ∀ choice ∈ node.choices, choice.Settled
  effects : ∀ effect ∈ node.effects, effect.Suited
  branches : ∀ branch ∈ node.branches, branch.condition.Suited

structure Dialogue.Settled (dialogue : Dialogue) : Prop where
  named : dialogue.id.Names
  starts : dialogue.startNode.orElse (defaultStart dialogue.nodes) = dialogue.startNode
  nodes : ∀ node ∈ dialogue.nodes, node.Settled
  conditions : ∀ condition ∈ dialogue.conditions, condition.Suited

def Choice.integers (choice : Choice) : List Int :=
  choice.conditions.flatMap Condition.integers ++ choice.effects.flatMap Effect.integers

def Branch.integers (branch : Branch) : List Int :=
  branch.condition.integers

def Node.integers (node : Node) : List Int :=
  node.choices.flatMap Choice.integers ++ node.effects.flatMap Effect.integers ++
    node.branches.flatMap Branch.integers

def Dialogue.integers (dialogue : Dialogue) : List Int :=
  dialogue.nodes.flatMap Node.integers ++ dialogue.conditions.flatMap Condition.integers

theorem moderate_append {a b : List Int} : Moderate (a ++ b) ↔ Moderate a ∧ Moderate b := by
  simp only [Moderate, List.mem_append, or_imp, forall_and]

theorem moderate_of_flatMap {α : Type} {integers : α → List Int} {items : List α} {item : α}
    (moderate : Moderate (items.flatMap integers)) (member : item ∈ items) :
    Moderate (integers item) :=
  fun n listed => moderate n (List.mem_flatMap.mpr ⟨item, member, listed⟩)

theorem orElse_orElse (value other : Value) :
    (value.orElse other).orElse other = value.orElse other := by
  by_cases present : value.isPresent
  · simp [Value.orElse, present]
  · simp [Value.orElse, present]

theorem required_of_names {kind name : String} {value : Value} {fields : List (Key × Value)}
    (found : (Table.mk fields).find? name = some value) (names : value.Names) :
    (Value.record fields).required kind name = .ok value := by
  obtain ⟨given, nonempty⟩ := names
  unfold Value.required
  simp only [found]

theorem list_restored {α : Type} {write : α → Value} {read : Value → Except Failure α}
    {items : List α} (each : ∀ item ∈ items, read (write item) = .ok item) :
    (do if (Value.list (items.map write)).isPresent
          then (← (Value.list (items.map write)).items).mapM read else return []) =
      Except.ok items := by
  by_cases none : items = []
  · subst none
    rfl
  · have present : (Value.list (items.map write)).isPresent := by
      simpa [Value.isPresent] using none
    have restored := mapM_written each
    simp only [present, ↓reduceIte, Value.items, bind, Except.bind]
    exact restored

theorem conditions_restored {conditions : List Condition}
    (suited : ∀ condition ∈ conditions, condition.Suited)
    (moderate : Moderate (conditions.flatMap Condition.integers)) :
    Condition.listOfAuthored (Condition.listToRecord conditions) = .ok conditions := by
  apply list_restored
  intro condition member
  have read := Condition.ofRecord_toRecord (suited condition member)
    (moderate_of_flatMap moderate member)
  change (Condition.ofRecord condition.toRecord).mapError Failure.inContent = _
  rw [read]
  rfl

theorem effects_restored {effects : List Effect} (suited : ∀ effect ∈ effects, effect.Suited)
    (moderate : Moderate (effects.flatMap Effect.integers)) :
    Effect.listOfAuthored (Effect.listToRecord effects) = .ok effects := by
  apply list_restored
  intro effect member
  have read := Effect.ofRecord_toRecord (suited effect member)
    (moderate_of_flatMap moderate member)
  change (Effect.ofRecord effect.toRecord).mapError Failure.inContent = _
  rw [read]
  rfl

theorem Choice.Settled.ofRecord_toRecord {choice : Choice} (settled : choice.Settled)
    (moderate : Moderate choice.integers) : Choice.ofRecord choice.toRecord = .ok choice := by
  obtain ⟨ofConditions, ofEffects⟩ := moderate_append.mp moderate
  have conditions := conditions_restored settled.conditions ofConditions
  have effects := effects_restored settled.effects ofEffects
  have id : choice.toRecord.required "Choice" "id" = .ok choice.id :=
    required_of_names rfl settled.named
  have fields : choice.toRecord.fields = .ok ⟨_⟩ := rfl
  simp [Choice.ofRecord, id, fields, Table.getD, Table.getOrNull, Table.find?, Key.same_text,
    conditions, effects, settled.routed, bind, Except.bind, pure, Except.pure]

theorem branch_restored {branch : Branch} (suited : branch.condition.Suited)
    (moderate : Moderate branch.integers) :
    Branch.ofRecord branch.toRecord = .ok branch := by
  have read : Condition.ofAuthored branch.condition.toRecord = .ok branch.condition := by
    change (Condition.ofRecord branch.condition.toRecord).mapError Failure.inContent = _
    rw [Condition.ofRecord_toRecord suited moderate]
    rfl
  have condition : branch.toRecord.member "condition" = .ok branch.condition.toRecord := rfl
  have next : branch.toRecord.member "next" = .ok branch.next := rfl
  simp [Branch.ofRecord, condition, next, read, bind, Except.bind, pure, Except.pure]

theorem Node.Settled.ofRecord_toRecord {node : Node} (settled : node.Settled)
    (moderate : Moderate node.integers) : Node.ofRecord node.toRecord = .ok node := by
  obtain ⟨ofOptions, ofBranches⟩ := moderate_append.mp moderate
  obtain ⟨ofChoices, ofEffects⟩ := moderate_append.mp ofOptions
  have branches := mapM_written fun branch member =>
    branch_restored (settled.branches branch member) (moderate_of_flatMap ofBranches member)
  have choices := mapM_written fun choice member =>
    (settled.choices choice member).ofRecord_toRecord (moderate_of_flatMap ofChoices member)
  have effects := effects_restored settled.effects ofEffects
  have id : node.toRecord.required "Dialogue node" "id" = .ok node.id :=
    required_of_names rfl settled.named
  have fields : node.toRecord.fields = .ok ⟨_⟩ := rfl
  simp [Node.ofRecord, id, fields, Table.getD, Table.getOrNull, Table.find?, Key.same_text,
    Value.items, branches, choices, effects, bind, Except.bind, pure, Except.pure]

theorem Dialogue.Settled.ofRecord_toRecord {dialogue : Dialogue} (settled : dialogue.Settled)
    (moderate : Moderate dialogue.integers) :
    Dialogue.ofRecord dialogue.toRecord = .ok dialogue := by
  obtain ⟨ofNodes, ofConditions⟩ := moderate_append.mp moderate
  have nodes := mapM_written fun node member =>
    (settled.nodes node member).ofRecord_toRecord (moderate_of_flatMap ofNodes member)
  have conditions := conditions_restored settled.conditions ofConditions
  have id : dialogue.toRecord.required "Dialogue" "id" = .ok dialogue.id :=
    required_of_names rfl settled.named
  have fields : dialogue.toRecord.fields = .ok ⟨_⟩ := rfl
  simp [Dialogue.ofRecord, id, fields, Table.getD, Table.getOrNull, Table.find?, Key.same_text,
    Value.items, nodes, conditions, settled.starts, bind, Except.bind, pure, Except.pure]

theorem required_names (kind name : String) (data : Value) :
    Returns Value.Names (data.required kind name) := by
  unfold Value.required
  cases data with
  | record fields =>
    simp only
    split
    · simp
    · simp
    · simp
    · next value absent empty _ => simpa [Value.Names] using ⟨absent, empty⟩
  | _ => simp

theorem returns_mapError {α : Type} {P : α → Prop} {result : Except Failure α}
    (change : Failure → Failure) (returns : Returns P result) :
    Returns P (result.mapError change) := by
  intro a read
  cases result with
  | ok b => exact returns a read
  | error failure => cases read

theorem condition_ofAuthored_suited (data : Value) :
    Returns Condition.Suited (Condition.ofAuthored data) := by
  unfold Condition.ofAuthored
  split
  · exact Condition.compile_suited _ _
  · exact returns_mapError _ (Condition.ofRecord_suited _)

theorem effect_ofAuthored_suited (data : Value) :
    Returns Effect.Suited (Effect.ofAuthored data) := by
  unfold Effect.ofAuthored
  split
  · exact Effect.compile_suited _ _
  · exact returns_mapError _ (Effect.ofRecord_suited _)

theorem conditions_suited (data : Value) :
    Returns (fun conditions => ∀ condition ∈ conditions, condition.Suited)
      (Condition.listOfAuthored data) := by
  simp only [Condition.listOfAuthored, returns_ite, returns_bind, returns_pure]
  exact ⟨fun _ items _ => returns_mapM condition_ofAuthored_suited items, fun _ => by simp⟩

theorem effects_suited (data : Value) :
    Returns (fun effects => ∀ effect ∈ effects, effect.Suited) (Effect.listOfAuthored data) := by
  simp only [Effect.listOfAuthored, returns_ite, returns_bind, returns_pure]
  exact ⟨fun _ items _ => returns_mapM effect_ofAuthored_suited items, fun _ => by simp⟩

theorem choice_ofRecord_settled (data : Value) : Returns Choice.Settled (Choice.ofRecord data) := by
  simp only [Choice.ofRecord, returns_bind, returns_pure]
  intro id named fields _ conditions readConditions effects readEffects
  exact {
    named := required_names _ _ _ id named
    routed := orElse_orElse _ _
    conditions := conditions_suited _ conditions readConditions
    effects := effects_suited _ effects readEffects }

theorem branch_ofRecord_suited (data : Value) :
    Returns (fun branch => branch.condition.Suited) (Branch.ofRecord data) := by
  simp only [Branch.ofRecord, returns_bind, returns_pure]
  exact fun _ _ condition read _ _ => condition_ofAuthored_suited _ condition read

theorem node_ofRecord_settled (data : Value) : Returns Node.Settled (Node.ofRecord data) := by
  simp only [Node.ofRecord, returns_bind, returns_pure]
  intro fields _ _ _ branches readBranches id named _ _ choices readChoices effects readEffects
  exact {
    named := required_names _ _ _ id named
    choices := returns_mapM choice_ofRecord_settled _ choices readChoices
    effects := effects_suited _ effects readEffects
    branches := returns_mapM branch_ofRecord_suited _ branches readBranches }

theorem dialogue_ofRecord_settled (data : Value) :
    Returns Dialogue.Settled (Dialogue.ofRecord data) := by
  simp only [Dialogue.ofRecord, returns_bind, returns_pure]
  intro fields _ _ _ nodes readNodes id named conditions readConditions
  exact {
    named := required_names _ _ _ id named
    starts := orElse_orElse _ _
    nodes := returns_mapM node_ofRecord_settled _ nodes readNodes
    conditions := conditions_suited _ conditions readConditions }

namespace Script

theorem condition_suited (token : Token) : Returns Condition.Suited token.condition := by
  simp only [Token.condition, returns_ite, returns_fault, implies_true, true_and]
  exact fun _ => Condition.compile_suited _ _

theorem effect_suited (token : Token) : Returns Effect.Suited token.effect :=
  Effect.compile_suited _ _

theorem fault_eq_ok {α : Type} {token : Token} {fault : ScriptFault} {a : α} :
    token.fault fault = .ok a ↔ False := by
  simp [Token.fault]

theorem leaveFor_suited (location : String) : ∀ effect ∈ leaveFor location, effect.Suited := by
  simp [leaveFor, Effect.Suited, Arguments.Suit, Effect.kind, EffectKind.parameters,
    Effect.arguments, ParameterType.Suits]

theorem forall_mem_append {α : Type} {P : α → Prop} {front back : List α}
    (first : ∀ a ∈ front, P a) (second : ∀ a ∈ back, P a) : ∀ a ∈ front ++ back, P a := by
  intro a member
  rcases List.mem_append.mp member with member | member
  · exact first a member
  · exact second a member

theorem text_routes (next : String) : (Value.text next).orElse "" = .text next := by
  by_cases empty : next = ""
  · subst empty
    rfl
  · have present : (Value.text next).isPresent := by simp [Value.isPresent, empty]
    simp [Value.orElse, present]

structure ChoiceDraft.Suited (draft : ChoiceDraft) : Prop where
  conditions : ∀ condition ∈ draft.conditions, condition.Suited
  effects : ∀ effect ∈ draft.effects, effect.Suited

theorem choiceDraft_read_suited (draft : ChoiceDraft) (token : Token) (suited : draft.Suited) :
    Returns ChoiceDraft.Suited (draft.read token) := by
  obtain ⟨conditions, effects⟩ := suited
  unfold ChoiceDraft.read
  split
  · simp only [returns_bind, returns_pure]
    intro condition read
    have added : ∀ other ∈ [condition], other.Suited := by
      simpa using condition_suited token condition read
    exact ⟨forall_mem_append conditions added, effects⟩
  · split
    · simp only [returns_ite, returns_bind, returns_pure, fault_eq_ok, false_implies, implies_true,
        true_and]
      intro _ target _
      cases target with
      | node id => exact ⟨conditions, by simpa using effects⟩
      | location id => exact ⟨conditions, forall_mem_append effects (leaveFor_suited id)⟩
    · split
      · simpa using ⟨conditions, effects⟩
      · simp only [returns_bind, returns_pure]
        intro effect read
        have added : ∀ other ∈ [effect], other.Suited := by
          simpa using effect_suited token effect read
        exact ⟨conditions, forall_mem_append effects added⟩

theorem readChoice_settled (node : String) (opener : Token) (body : List Token) (closed : Bool) :
    Returns Choice.Settled (readChoice node opener body closed) := by
  simp only [readChoice, returns_ite, returns_bind, returns_pure, fault_eq_ok, false_implies,
    implies_true, true_and]
  intro _ draft drafted _
  have start : ChoiceDraft.Suited ⟨[], [], none⟩ := ⟨by simp, by simp⟩
  have suited := returns_foldlM choiceDraft_read_suited body _ start draft drafted
  exact {
    named := ⟨by simp, by simp [choiceId]⟩
    routed := by rcases draft with ⟨_, _, _ | id | location⟩ <;> exact text_routes _
    conditions := suited.conditions
    effects := suited.effects }

theorem ifDraft_read_suited (draft : IfDraft) (token : Token)
    (suited : ∀ effect ∈ draft.effects, effect.Suited) :
    Returns (fun draft => ∀ effect ∈ draft.effects, effect.Suited) (draft.read token) := by
  unfold IfDraft.read
  split
  · simp only [returns_ite, returns_bind, fault_eq_ok, false_implies, implies_true, true_and]
    intro _ target _
    cases target with
    | node id => simpa using suited
    | location id => simp
  · simp only [returns_bind, returns_pure]
    intro effect read
    have added : ∀ other ∈ [effect], other.Suited := by
      simpa using effect_suited token effect read
    exact forall_mem_append suited added

theorem readIf_suited (opener : Token) (body : List Token) (closed : Bool) :
    Returns (fun found => (∀ branch ∈ found.1.toList, branch.condition.Suited) ∧
      ∀ effect ∈ found.2, effect.Suited) (readIf opener body closed) := by
  simp only [readIf, returns_ite, returns_bind, returns_pure, fault_eq_ok, false_implies,
    implies_true, true_and]
  intro condition read draft drafted _
  have suited := condition_suited opener condition read
  have effects := returns_foldlM ifDraft_read_suited body _ (by simp) draft drafted
  cases draft.target with
  | none => exact ⟨by simp, effects⟩
  | some id => exact ⟨by simpa using suited, effects⟩

theorem addEffects_settled {draft : NodeDraft} {effects : List Effect}
    (settled : draft.node.Settled) (suited : ∀ effect ∈ effects, effect.Suited) :
    (draft.addEffects effects).node.Settled :=
  ⟨settled.named, settled.choices, forall_mem_append settled.effects suited, settled.branches⟩

theorem routeTo_settled {draft : NodeDraft} (settled : draft.node.Settled) (target : Target) :
    (draft.routeTo target).node.Settled := by
  obtain ⟨named, choices, effects, branches⟩ := settled
  cases target with
  | location location =>
    exact ⟨named, choices, forall_mem_append effects (leaveFor_suited location), branches⟩
  | node next => exact ⟨named, choices, effects, branches⟩

theorem readLine_settled {id : String} {draft : NodeDraft} (settled : draft.node.Settled)
    (token : Token) : Returns (fun draft => draft.node.Settled) (draft.readLine id token) := by
  have ⟨named, choices, effects, branches⟩ := settled
  unfold NodeDraft.readLine
  split
  · simp only [NodeDraft.readSpeaker, returns_ite, returns_bind, returns_pure, fault_eq_ok,
      false_implies, implies_true, true_and]
    exact fun _ => ⟨named, choices, effects, branches⟩
  · simp only [NodeDraft.readGoto, returns_ite, returns_bind, returns_pure, fault_eq_ok,
      false_implies, implies_true, true_and]
    refine ⟨fun _ _ _ => ⟨named, choices, effects, branches⟩, fun _ => ?_⟩
    refine ⟨fun _ _ _ => ⟨named, choices, effects, branches⟩, fun _ => ?_⟩
    refine ⟨fun _ _ target _ => routeTo_settled settled target, fun _ effect read => ?_⟩
    apply addEffects_settled settled
    simpa using effect_suited token effect read

theorem read_settled {id : String} (draft : NodeDraft) (item : Item)
    (settled : draft.node.Settled) :
    Returns (fun draft => draft.node.Settled) (draft.read id item) := by
  have ⟨named, choices, effects, branches⟩ := settled
  cases item with
  | line token => exact readLine_settled settled token
  | block opener body closed =>
    simp only [NodeDraft.read, NodeDraft.addChoice, returns_ite, returns_bind, returns_pure,
      fault_eq_ok, false_implies, implies_true, true_and]
    constructor
    · intro _ choice read _
      have added : ∀ other ∈ [choice], other.Settled := by
        simpa using readChoice_settled id opener body closed choice read
      exact ⟨named, forall_mem_append choices added, effects, branches⟩
    · intro _ found read
      have ⟨ofBranch, ofOthers⟩ := readIf_suited opener body closed found read
      exact ⟨named, choices, forall_mem_append effects ofOthers,
        forall_mem_append branches ofBranch⟩

theorem readNode_settled (part : Section) : Returns Node.Settled (readNode part) := by
  simp only [readNode, returns_bind, returns_pure]
  intro id read draft drafted
  have named : (Value.text id).Names :=
    ⟨by simp, by simpa using argument_nonempty part.opener id read⟩
  have empty : (NodeDraft.empty id).node.Settled :=
    ⟨named, by simp [NodeDraft.empty], by simp [NodeDraft.empty], by simp [NodeDraft.empty]⟩
  exact returns_foldlM (P := fun draft => draft.node.Settled) read_settled _ _ empty draft drafted

theorem header_read_suited (header : Header) (token : Token)
    (suited : ∀ condition ∈ header.conditions, condition.Suited) :
    Returns (fun header => ∀ condition ∈ header.conditions, condition.Suited)
      (header.read token) := by
  unfold Header.read
  split
  · simp only [returns_ite, returns_bind, returns_pure, fault_eq_ok, false_implies, implies_true,
      true_and]
    exact fun _ _ _ => suited
  · split
    · simp only [returns_bind, returns_pure]
      intro condition read
      have added : ∀ other ∈ [condition], other.Suited := by
        simpa using condition_suited token condition read
      exact forall_mem_append suited added
    · exact returns_fault _ _

theorem compile_settled {id : String} (named : id ≠ "") (source : String) :
    Returns Dialogue.Settled (compile (.text id) source) := by
  simp only [compile, readTokens, returns_bind]
  intro header read nodes readNodes
  have conditions := returns_foldlM header_read_suited _ ⟨none, []⟩ (by simp) header read
  have settled := returns_foldlM (addNode_each readNode_settled) _ [] (by simp) nodes readNodes
  cases nodes with
  | nil => simp
  | cons first rest =>
    rw [returns_pure]
    exact {
      named := ⟨by simp, by simpa using named⟩
      starts := by simp [Value.orElse, Dialogue.defaultStart]
      nodes := settled
      conditions }

end Script

/-- Whether a dialogue has been read from a record, or from a script under a nonempty id. -/
def Dialogue.Read (dialogue : Dialogue) : Prop :=
  (∃ data, ofRecord data = .ok dialogue) ∨
    ∃ id source, id ≠ "" ∧ Script.compile (.text id) source = .ok dialogue

theorem Dialogue.Read.settled {dialogue : Dialogue} (read : dialogue.Read) : dialogue.Settled := by
  rcases read with ⟨data, read⟩ | ⟨id, source, named, read⟩
  · exact dialogue_ofRecord_settled data dialogue read
  · exact Script.compile_settled named source dialogue read

/-- A dialogue that has been read is read back from its record as it was, kinds of values and order
included, if no integer in its conditions and effects exceeds `2 ^ 1023` in magnitude. -/
theorem dialogue_restored {dialogue : Dialogue} (read : dialogue.Read)
    (moderate : ∀ n ∈ dialogue.integers, n.natAbs ≤ 2 ^ 1023) :
    Dialogue.ofRecord dialogue.toRecord = .ok dialogue :=
  read.settled.ofRecord_toRecord moderate

open Value in
theorem dialogue_restored_gate : ∃ dialogue,
    Dialogue.ofRecord (object [("id", text "gate"), ("nodes", list [object [("id", text "ask"),
      ("effects", list ["ADD variable gold 2.50", object [("type", text "roll"),
        ("variable", text "luck"), ("minimum", int 1), ("maximum", float 6)]])]])]) =
      .ok dialogue ∧
    Dialogue.ofRecord dialogue.toRecord = .ok dialogue := by
  obtain ⟨dialogue, read, integers⟩ : ∃ dialogue,
      Dialogue.ofRecord (object [("id", text "gate"), ("nodes", list [object [("id", text "ask"),
        ("effects", list ["ADD variable gold 2.50", object [("type", text "roll"),
          ("variable", text "luck"), ("minimum", int 1), ("maximum", float 6)]])]])]) =
        .ok dialogue ∧ dialogue.integers = [1, 6] := by
    refine ⟨_, rfl, ?_⟩
    decide +kernel
  refine ⟨dialogue, read, dialogue_restored (.inl ⟨_, read⟩) ?_⟩
  rw [integers]
  decide +kernel

end Fabula
