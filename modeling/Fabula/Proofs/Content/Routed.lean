import Fabula.Proofs.Content.Named
/-!
# Where choices lead

The target of a choice counts as present or is the empty text. No node has the empty id, so a choice
whose target does not count as present leads to no node.
-/

namespace Fabula

def Choice.Routed (choice : Choice) : Prop :=
  choice.next.isPresent ∨ choice.next = .text ""

def Node.Routed (node : Node) : Prop :=
  ∀ choice ∈ node.choices, choice.Routed

def Registry.Routed (registry : Registry) : Prop :=
  ∀ dialogue ∈ registry.dialogues.values, ∀ node ∈ dialogue.nodes, node.Routed

theorem choice_ofRecord_routed (data : Value) : Returns Choice.Routed (Choice.ofRecord data) := by
  simp only [Choice.ofRecord, returns_bind, returns_pure]
  intro _ _ fields _ _ _ _ _
  unfold Choice.Routed Value.orElse
  split
  · next present => exact .inl present
  · exact .inr rfl

theorem node_ofRecord_routed (data : Value) : Returns Node.Routed (Node.ofRecord data) := by
  simp only [Node.ofRecord, returns_bind, returns_pure]
  intro _ _ _ _ _ _ _ _ _ _ choices read _ _
  exact returns_mapM choice_ofRecord_routed _ choices read

namespace Script

theorem text_routed (next : String) : (Value.text next).isPresent ∨ Value.text next = .text "" := by
  by_cases empty : next = ""
  · exact .inr (by rw [empty])
  · exact .inl (by simp [Value.isPresent, empty])

theorem readChoice_routed (node : String) (opener : Token) (body : List Token) (closed : Bool) :
    Returns Choice.Routed (readChoice node opener body closed) := by
  simp only [readChoice, returns_bind, returns_ite, returns_pure]
  refine ⟨fun _ _ _ draft _ => ⟨fun _ _ _ => ?_, fun _ => ?_⟩,
    fun _ draft _ => ⟨fun _ _ _ => ?_, fun _ => ?_⟩⟩
  all_goals
    obtain ⟨_, _, target⟩ := draft
    unfold Choice.Routed
    rcases target with _ | ⟨id⟩ | ⟨location⟩ <;> exact text_routed _

theorem readLine_choices {id : String} {draft : NodeDraft} (token : Token) :
    Returns (fun next => next.node.choices = draft.node.choices) (draft.readLine id token) := by
  have routed (target : Target) : (draft.routeTo target).node.choices = draft.node.choices := by
    cases target <;> rfl
  unfold NodeDraft.readLine NodeDraft.readSpeaker NodeDraft.readGoto
  split
  · simp
  · simp [NodeDraft.addEffects, routed]

theorem read_routed {id : String} {draft : NodeDraft} (routed : draft.node.Routed) (item : Item) :
    Returns (fun next => next.node.Routed) (draft.read id item) := by
  cases item with
  | line token =>
    intro next read
    unfold Node.Routed
    rw [readLine_choices token next read]
    exact routed
  | block opener body closed =>
    have adds (choice : Choice) (read : readChoice id opener body closed = .ok choice) :
        ∀ other ∈ draft.node.choices ++ [choice], other.Routed := by
      intro other member
      rcases List.mem_append.mp member with member | member
      · exact routed other member
      · rw [List.mem_singleton.mp member]
        exact readChoice_routed id opener body closed choice read
    simp only [NodeDraft.read, NodeDraft.addChoice, NodeDraft.addEffects, returns_ite,
      returns_bind, returns_pure]
    refine ⟨fun _ choice read => ⟨fun _ _ _ => adds choice read, fun _ => adds choice read⟩, ?_⟩
    exact fun _ _ _ => routed

theorem readNode_routed (part : Section) : Returns Node.Routed (readNode part) := by
  simp only [readNode, returns_bind, returns_pure]
  intro id _ draft drafted
  have empty : (NodeDraft.empty id).node.Routed := by simp [NodeDraft.empty, Node.Routed]
  exact returns_foldlM (P := fun draft => draft.node.Routed)
    (fun draft item routed => read_routed routed item) _ (.empty id) empty draft drafted

end Script

theorem registry_ofRecord_routed (content : Value) :
    Returns Registry.Routed (Registry.ofRecord content) :=
  registry_ofRecord_each node_ofRecord_routed Script.readNode_routed content

theorem findNode?_of_routed {dialogue : Dialogue} {choice : Choice} (named : dialogue.Named)
    (routed : choice.Routed) :
    (if choice.next.isPresent then dialogue.findNode? choice.next else none) =
      dialogue.findNode? choice.next := by
  rcases routed with present | empty
  · simp [present]
  · have nowhere : dialogue.findNode? choice.next = none := by
      refine List.find?_eq_none.mpr fun node listed same => named node listed ?_
      rw [empty] at same
      exact (same_empty_iff _).mp same
    simp [nowhere]

end Fabula
