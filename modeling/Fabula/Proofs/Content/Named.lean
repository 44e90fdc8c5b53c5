import Fabula.Proofs.FailsOnly
/-!
# Nodes are named

An empty node id marks a dialogue that still has to be entered, so no node may have it. No reader
of content lets it through: records must have an id, and the one argument of a `NODE` line is a
word. `Returns` says of a result what it holds, and has the same kind of rules as `FailsOnly`.
-/

namespace Fabula
variable {α β : Type} {P : α → Prop}

def Returns (P : α → Prop) (result : Except Failure α) : Prop :=
  ∀ a, result = .ok a → P a

@[simp] theorem returns_pure (a : α) : Returns P (pure a) ↔ P a := by
  simp [Returns, pure, Except.pure]

@[simp] theorem returns_ok (a : α) : Returns P (.ok a) ↔ P a :=
  returns_pure a

@[simp] theorem returns_error (failure : Failure) : Returns P (.error failure) := by
  intro a returned
  cases returned

@[simp] theorem returns_throw (failure : Failure) : Returns P (throw failure) :=
  returns_error failure

@[simp] theorem returns_bind {P : β → Prop} (first : Except Failure α)
    (next : α → Except Failure β) :
    Returns P (first >>= next) ↔ ∀ a, first = .ok a → Returns P (next a) := by
  cases first <;> simp [Returns, bind, Except.bind]

@[simp] theorem returns_map {P : β → Prop} (f : α → β) (result : Except Failure α) :
    Returns P (f <$> result) ↔ ∀ a, result = .ok a → P (f a) := by
  cases result <;> simp [Returns, Functor.map, Except.map]

@[simp] theorem returns_ite (c : Prop) [Decidable c] (a b : Except Failure α) :
    Returns P (if c then a else b) ↔ (c → Returns P a) ∧ (¬c → Returns P b) := by
  by_cases holds : c <;> simp [holds]

theorem returns_foldlM {P : β → Prop} {step : β → α → Except Failure β}
    (each : ∀ b a, P b → Returns P (step b a)) (items : List α) (start : β) (holds : P start) :
    Returns P (items.foldlM step start) := by
  induction items generalizing start with
  | nil => simpa using holds
  | cons item rest ih =>
    simp only [List.foldlM_cons, returns_bind]
    intro next stepped
    exact ih next (each start item holds next stepped)

theorem returns_mapM {P : β → Prop} {f : α → Except Failure β} (each : ∀ a, Returns P (f a))
    (items : List α) : Returns (fun results => ∀ result ∈ results, P result) (items.mapM f) := by
  induction items with
  | nil => simp
  | cons item rest ih =>
    simp only [List.mapM_cons, returns_bind, returns_pure]
    intro result read results readRest
    simp only [List.mem_cons, forall_eq_or_imp]
    exact ⟨each item result read, ih results readRest⟩

namespace Table

theorem mem_insertEntry {key : Key} {value : α} {entries : List (Key × α)} {entry : Key × α}
    (member : entry ∈ insertEntry key value entries) : entry.2 = value ∨ entry ∈ entries := by
  induction entries with
  | nil =>
    simp only [insertEntry, List.mem_singleton] at member
    exact .inl (by rw [member])
  | cons first rest ih =>
    simp only [insertEntry] at member
    split at member
    · rcases List.mem_cons.mp member with rfl | member
      · exact .inl rfl
      · exact .inr (List.mem_cons_of_mem _ member)
    · rcases List.mem_cons.mp member with rfl | member
      · exact .inr List.mem_cons_self
      · exact (ih member).imp id (List.mem_cons_of_mem _)

theorem mem_values_insert {table : Table α} {key : Key} {value found : α}
    (member : found ∈ (table.insert key value).values) : found = value ∨ found ∈ table.values := by
  obtain ⟨entry, stored, rfl⟩ := List.mem_map.mp member
  exact (mem_insertEntry stored).imp id fun member => List.mem_map_of_mem member

theorem mem_of_find? {table : Table α} {key : Key} {found : α}
    (known : table.find? key = some found) : found ∈ table.values := by
  obtain ⟨entry, first, rfl⟩ := Option.map_eq_some_iff.mp known
  exact List.mem_map_of_mem (List.mem_of_find?_eq_some first)

theorem mem_of_lookup {table : Table α} {value : Value} {found : α}
    (known : table.lookup value = .ok (some found)) : found ∈ table.values := by
  unfold lookup at known
  cases read : value.key with
  | error failure => simp [read, bind, Except.bind] at known
  | ok key =>
    simp only [read, bind, Except.bind, pure, Except.pure, Except.ok.injEq] at known
    exact mem_of_find? known

end Table

theorem same_empty_iff (value : Value) : value.same "" = true ↔ value = .text "" := by
  cases value <;> simp [Value.same, Value.alike, Value.isNaN, Value.arithmetic?]

def Dialogue.Named (dialogue : Dialogue) : Prop :=
  ∀ node ∈ dialogue.nodes, node.id ≠ .text ""

def Registry.Named (registry : Registry) : Prop :=
  ∀ dialogue ∈ registry.dialogues.values, dialogue.Named

theorem dialogue_ofRecord_each {P : Node → Prop} (records : ∀ data, Returns P (Node.ofRecord data))
    (data : Value) : Returns (fun dialogue => ∀ node ∈ dialogue.nodes, P node)
      (Dialogue.ofRecord data) := by
  simp only [Dialogue.ofRecord, returns_bind, returns_pure]
  intro _ _ _ _ nodes read _ _ _ _
  exact returns_mapM records _ nodes read

theorem required_named (kind name : String) (data : Value) :
    Returns (· ≠ .text "") (data.required kind name) := by
  unfold Value.required
  cases data with
  | record fields =>
    simp only
    split
    · simp
    · simp
    · simp
    · next value _ unlike _ => simpa using unlike
  | _ => simp

theorem node_ofRecord_named (data : Value) :
    Returns (fun node => node.id ≠ .text "") (Node.ofRecord data) := by
  simp only [Node.ofRecord, returns_bind, returns_pure]
  intro _ _ _ _ _ _ id read _ _ _ _ _ _
  exact required_named _ _ _ id read

namespace Text

theorem pushChar_nonempty (c : Char) (found : List Char × List (List Char))
    (nonempty : ∀ word ∈ found.2, word ≠ []) : ∀ word ∈ (pushChar c found).2, word ≠ [] := by
  obtain ⟨first, words⟩ := found
  simp only [pushChar]
  split
  · split
    · exact nonempty
    · next full =>
      intro word member
      rcases List.mem_cons.mp member with rfl | member
      · simpa using full
      · exact nonempty word member
  · exact nonempty

theorem word_nonempty (text : List Char) : ∀ word ∈ words text, word ≠ [] := by
  have below : ∀ word ∈ (text.foldr pushChar ([], [])).2, word ≠ [] := by
    induction text with
    | nil => simp
    | cons c rest ih => exact pushChar_nonempty c _ ih
  unfold words
  generalize text.foldr pushChar ([], []) = found at below
  obtain ⟨first, words⟩ := found
  simp only
  split
  · exact below
  · next full =>
    intro word member
    rcases List.mem_cons.mp member with rfl | member
    · simpa using full
    · exact below word member

theorem pushChar_solid (c : Char) (found : List Char × List (List Char))
    (solid : ∀ word ∈ found.1 :: found.2, ∀ d ∈ word, isBlank d = false) :
    ∀ word ∈ (pushChar c found).1 :: (pushChar c found).2, ∀ d ∈ word, isBlank d = false := by
  obtain ⟨first, words⟩ := found
  simp only [List.forall_mem_cons] at solid
  simp only [pushChar]
  split
  · split
    · simpa using solid.2
    · simpa using solid
  · next given =>
    simp only [List.forall_mem_cons]
    exact ⟨⟨by simpa using given, solid.1⟩, solid.2⟩

theorem word_solid (text : List Char) :
    ∀ word ∈ words text, ∀ c ∈ word, isBlank c = false := by
  have below : ∀ word ∈ (text.foldr pushChar ([], [])).1 :: (text.foldr pushChar ([], [])).2,
      ∀ c ∈ word, isBlank c = false := by
    induction text with
    | nil => simp
    | cons c rest ih => exact pushChar_solid c _ ih
  unfold words
  generalize text.foldr pushChar ([], []) = found at below
  obtain ⟨first, words⟩ := found
  simp only
  split
  · exact (List.forall_mem_cons.mp below).2
  · exact below

end Text

namespace Script

@[simp] theorem returns_fault (token : Token) (fault : ScriptFault) :
    Returns P (token.fault fault : Except Failure α) :=
  returns_error _

theorem argument_nonempty (token : Token) : Returns (· ≠ "") token.argument := by
  unfold Token.argument
  split
  · next keyword argument found =>
    have listed : argument ∈ token.words := by simp [found]
    obtain ⟨word, member, rfl⟩ := List.mem_map.mp listed
    simpa using Text.word_nonempty token.line word member
  · simp

def NodeDraft.Of (id : String) (draft : NodeDraft) : Prop :=
  draft.node.id = .text id

theorem readSpeaker_of {id : String} {draft : NodeDraft} (of : draft.Of id) (token : Token)
    (name text : List Char) :
    Returns (NodeDraft.Of id) (draft.readSpeaker id token name text) := by
  simp only [NodeDraft.Of] at of
  simp [NodeDraft.readSpeaker, NodeDraft.Of, of]

theorem readGoto_of {id : String} {draft : NodeDraft} (of : draft.Of id) (token : Token) :
    Returns (NodeDraft.Of id) (draft.readGoto id token) := by
  have routed (target : Target) : (draft.routeTo target).Of id := by
    cases target <;> exact of
  unfold NodeDraft.readGoto
  simp only [returns_bind, returns_ite, returns_pure]
  exact ⟨fun _ _ _ target _ => routed target, fun _ target _ => routed target⟩

theorem readLine_of {id : String} {draft : NodeDraft} (of : draft.Of id) (token : Token) :
    Returns (NodeDraft.Of id) (draft.readLine id token) := by
  unfold NodeDraft.readLine
  split
  · exact readSpeaker_of of token _ _
  · have same : draft.node.id = .text id := of
    simp [NodeDraft.addEffects, NodeDraft.Of, same]
    exact fun _ _ _ => readGoto_of of token

theorem read_of {id : String} {draft : NodeDraft} (of : draft.Of id) (item : Item) :
    Returns (NodeDraft.Of id) (draft.read id item) := by
  have same : draft.node.id = .text id := of
  cases item with
  | line token => exact readLine_of of token
  | block opener body closed =>
    simp [NodeDraft.read, NodeDraft.addChoice, NodeDraft.addEffects, NodeDraft.Of, same]

theorem readNode_named (part : Section) :
    Returns (fun node => node.id ≠ .text "") (readNode part) := by
  simp only [readNode, returns_bind, returns_pure]
  intro id read draft drafted
  have of : draft.Of id :=
    returns_foldlM (fun draft item of => read_of of item) _ (.empty id) rfl draft drafted
  rw [of]
  simpa using argument_nonempty part.opener id read

theorem addNode_each {P : Node → Prop} (parts : ∀ part, Returns P (readNode part))
    (nodes : List Node) (part : Section) (each : ∀ node ∈ nodes, P node) :
    Returns (fun nodes => ∀ node ∈ nodes, P node) (addNode nodes part) := by
  have adds (node : Node) (read : readNode part = .ok node) :
      ∀ other ∈ nodes ++ [node], P other := by
    intro other member
    rcases List.mem_append.mp member with member | member
    · exact each other member
    · rw [List.mem_singleton.mp member]
      exact parts part node read
  simp only [addNode, returns_bind, returns_ite, returns_pure]
  exact fun node read => ⟨fun _ _ _ => adds node read, fun _ => adds node read⟩

theorem compile_each {P : Node → Prop} (parts : ∀ part, Returns P (readNode part)) (id : Value)
    (source : String) : Returns (fun dialogue => ∀ node ∈ dialogue.nodes, P node)
      (compile id source) := by
  simp only [compile, readTokens, returns_bind]
  intro _ _ nodes read
  have each := returns_foldlM (addNode_each parts) _ [] (by simp) nodes read
  cases nodes with
  | nil => simp
  | cons first rest => simpa using each

end Script

theorem readDialogue_each {P : Node → Prop} (records : ∀ data, Returns P (Node.ofRecord data))
    (parts : ∀ part, Returns P (Script.readNode part)) (key : Option Key) (entry : Value) :
    Returns (fun dialogue => ∀ node ∈ dialogue.nodes, P node)
      (Registry.readDialogue key entry) := by
  unfold Registry.readDialogue
  split
  · simp
  · exact Script.compile_each parts _ _
  · simp
  · exact dialogue_ofRecord_each records _
  · simp
  · exact dialogue_ofRecord_each records _

theorem registry_ofRecord_each {P : Node → Prop} (records : ∀ data, Returns P (Node.ofRecord data))
    (parts : ∀ part, Returns P (Script.readNode part)) (content : Value) :
    Returns (fun registry => ∀ dialogue ∈ registry.dialogues.values, ∀ node ∈ dialogue.nodes,
      P node) (Registry.ofRecord content) := by
  simp only [Registry.ofRecord, returns_bind, returns_pure]
  intro _ _ _ _ dialogues read _ _ _ _ _ _ _ _ _ _ _ _ _ _ _ _ _ _
  refine returns_foldlM
    (P := fun table => ∀ dialogue ∈ table.values, ∀ node ∈ dialogue.nodes, P node)
    ?_ _ ∅ (by simp [Table.values, EmptyCollection.emptyCollection]) dialogues read
  rintro table ⟨key, entry⟩ each
  simp only [Registry.store, returns_bind, returns_pure]
  intro dialogue readDialogue _ _ found member
  rcases Table.mem_values_insert member with rfl | member
  · exact readDialogue_each records parts key entry found readDialogue
  · exact each found member

theorem registry_ofRecord_named (content : Value) :
    Returns Registry.Named (Registry.ofRecord content) :=
  registry_ofRecord_each node_ofRecord_named Script.readNode_named content

end Fabula
