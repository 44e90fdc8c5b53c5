import Fabula.Proofs.Script.Block
/-!
# Scripts are read by the grammar

A source compiles to a dialogue exactly if its tokens are a script of that dialogue. A section is
read item by item and a script section by section. Main statements:

* `NodeDraft.read_eq_ok`: what one item adds to a node;
* `readNode_eq_ok`: which sections are nodes;
* `compile_eq_ok`: what a source compiles to.
-/

namespace Fabula.Script
variable {α β τ : Type} {token : Token}

open Token (guarded_eq_ok argument_eq_ok freeText_eq_ok target_eq_ok speaker?_eq_some silent_iff)

@[simp] def NodeDraft.add (draft : NodeDraft) (clause : Clause) : NodeDraft where
  node := {
    id := draft.node.id
    speaker := (clause.speech?.map (·.1)).getD draft.node.speaker
    text := (clause.speech?.map (Value.text ·.2)).getD draft.node.text
    voice := (clause.voice?.map Value.text).getD draft.node.voice
    portrait := (clause.portrait?.map Value.text).getD draft.node.portrait
    choices := draft.node.choices ++ clause.choice?.toList
    effects := draft.node.effects ++ clause.effects
    branches := draft.node.branches ++ clause.branch?.toList
    next := (clause.next?.map Value.text).getD draft.node.next }
  spoken := draft.spoken || clause.speech?.isSome
  routed := draft.routed || clause.target?.isSome

def NodeDraft.Admits (draft : NodeDraft) (clause : Clause) : Prop :=
  (clause.speech?.isSome → draft.spoken = false) ∧
    (clause.target?.isSome → draft.routed = false) ∧
    ∀ choice, clause.choice? = some choice →
      ∀ other ∈ draft.node.choices, other.id.same choice.id = false

theorem NodeDraft.readLine_eq_ok (plain : token.opensBlock = false) (id : String)
    (draft next : NodeDraft) : draft.readLine id token = .ok next ↔
      ∃ clause, token.InSection clause ∧ draft.Admits clause ∧ draft.add clause = next := by
  constructor
  · intro reads
    unfold NodeDraft.readLine at reads
    split at reads
    · next name text speaks =>
      obtain ⟨free, reads⟩ := guarded_eq_ok.mp reads
      cases reads
      refine ⟨_, .speech (speaker?_eq_some.mp speaks), ⟨fun _ => free, nofun, nofun⟩, ?_⟩
      simp [speakerOf, spokenText]
    · next silent =>
      have silent := silent_iff.mpr silent
      split at reads
      · next voice =>
        obtain ⟨file, argument, reads⟩ := bind_eq_ok.mp reads
        obtain ⟨given, rfl⟩ := freeText_eq_ok.mp argument
        cases reads
        exact ⟨_, .voice silent (eq_of_beq voice) given, ⟨nofun, nofun, nofun⟩, by simp⟩
      · next notVoice =>
        split at reads
        · next portrait =>
          obtain ⟨file, argument, reads⟩ := bind_eq_ok.mp reads
          obtain ⟨given, rfl⟩ := freeText_eq_ok.mp argument
          cases reads
          exact ⟨_, .portrait silent (eq_of_beq portrait) given, ⟨nofun, nofun, nofun⟩, by simp⟩
        · next notPortrait =>
          split at reads
          · next goto =>
            obtain ⟨free, reads⟩ := guarded_eq_ok.mp reads
            obtain ⟨target, routes, reads⟩ := bind_eq_ok.mp reads
            cases reads
            have routes := (target_eq_ok (eq_of_beq goto)).mp routes
            refine ⟨_, .goto silent routes, ⟨nofun, fun _ => free, nofun⟩, ?_⟩
            cases target <;> simp [NodeDraft.routeTo, NodeDraft.addEffects]
          · next notGoto =>
            obtain ⟨effect, compiles, reads⟩ := bind_eq_ok.mp reads
            cases reads
            -- A line that is silent and begins with one of these keywords would open a block.
            have noBlock : ¬ (token.keyword = "CHOICE" ∨ token.keyword = "IF") := fun keyword =>
              Bool.eq_false_iff.mp plain (opensBlock_iff.mpr ⟨silent, keyword⟩)
            have other : token.keyword ∉ ["VOICE", "PORTRAIT", "CHOICE", "IF", "GOTO"] := by
              simp_all
            refine ⟨_, .effect silent other compiles, ⟨nofun, nofun, nofun⟩, ?_⟩
            simp [NodeDraft.addEffects]
  · rintro ⟨clause, line, admits, rfl⟩
    cases line with
    | speech speaks =>
      have speaker := speaker?_eq_some.mpr speaks
      have first := admits.1 rfl
      simp [NodeDraft.readLine, speaker, NodeDraft.readSpeaker, first]
      rfl
    | voice silent keyword given =>
      have speaker := silent_iff.mp silent
      have reads := freeText_eq_ok.mpr ⟨given, rfl⟩
      simp [NodeDraft.readLine, speaker, keyword, reads]
    | portrait silent keyword given =>
      have speaker := silent_iff.mp silent
      have reads := freeText_eq_ok.mpr ⟨given, rfl⟩
      simp [NodeDraft.readLine, speaker, keyword, reads]
    | @goto target silent routes =>
      have speaker := silent_iff.mp silent
      have first := admits.2.1 rfl
      have reads := (target_eq_ok routes.keyword).mpr routes
      cases target <;> simp [NodeDraft.readLine, speaker, routes.keyword, NodeDraft.readGoto, first,
        reads, NodeDraft.routeTo, NodeDraft.addEffects]
    | effect silent other affects =>
      have speaker := silent_iff.mp silent
      have effect : token.effect = .ok _ := affects
      simp only [List.mem_cons, List.not_mem_nil, or_false, not_or] at other
      simp [NodeDraft.readLine, speaker, other, effect, NodeDraft.addEffects]

def Item.Formed : Item → Prop
  | .line token => token.opensBlock = false
  | .block opener _ _ => opener.opensBlock = true

theorem items_formed (tokens : List Token) : ∀ item ∈ items tokens, item.Formed := by
  induction tokens using items.induct with
  | case1 => simp [items]
  | case2 token rest opens after =>
    rename_i ih
    rw [items, if_pos opens]
    intro item listed
    rcases List.mem_cons.mp listed with rfl | listed
    · exact opens
    · exact ih item listed
  | case3 token rest plain ih =>
    rw [items, if_neg plain]
    intro item listed
    rcases List.mem_cons.mp listed with rfl | listed
    · exact Bool.eq_false_iff.mpr plain
    · exact ih item listed

theorem NodeDraft.addChoice_eq_ok {draft next : NodeDraft} {id : String} {opener : Token}
    {choice : Choice} : draft.addChoice id opener choice = .ok next ↔
      draft.Admits (.choice choice) ∧ draft.add (.choice choice) = next := by
  have apart : (draft.node.choices.any fun other => other.id.same choice.id) = false ↔
      draft.Admits (.choice choice) := by
    rw [List.any_eq_false]
    constructor
    · intro apart
      refine ⟨nofun, nofun, ?_⟩
      rintro _ ⟨⟩ other listed
      simpa using apart other listed
    · intro admits other listed
      simpa using admits.2.2 choice rfl other listed
  unfold NodeDraft.addChoice
  rw [guarded_eq_ok, apart, pure_eq_ok]
  simp

theorem NodeDraft.read_eq_ok {item : Item} (formed : item.Formed) (id : String)
    (draft next : NodeDraft) : draft.read id item = .ok next ↔
      ∃ clause, item.Meaning id clause ∧ draft.Admits clause ∧ draft.add clause = next := by
  cases item with
  | line token =>
    rw [NodeDraft.read, NodeDraft.readLine_eq_ok formed]
    constructor
    · rintro ⟨clause, line, made⟩
      exact ⟨clause, .line line, made⟩
    · rintro ⟨clause, ⟨line⟩, made⟩
      exact ⟨clause, line, made⟩
  | block opener body closed =>
    obtain ⟨silent, keyword⟩ := opensBlock_iff.mp formed
    rcases keyword with isChoice | isBranch
    · simp only [NodeDraft.read, isChoice, beq_self_eq_true, if_true, bind_eq_ok,
        readChoice_eq_ok silent isChoice, NodeDraft.addChoice_eq_ok]
      constructor
      · rintro ⟨choice, ⟨rfl, block⟩, made⟩
        exact ⟨_, .choice block, made⟩
      · rintro ⟨clause, means, made⟩
        cases means with
        | choice block => exact ⟨_, ⟨rfl, block⟩, made⟩
        | branch block =>
          obtain ⟨_, isBranch, _, _, _⟩ := block
          exact absurd (isChoice.symm.trans isBranch) (by decide)
    · have other : (opener.keyword == "CHOICE") = false := by simp [isBranch]
      simp only [NodeDraft.read, other, Bool.false_eq_true, if_false, bind_eq_ok, pure_eq_ok,
        readIf_eq_ok silent isBranch]
      constructor
      · rintro ⟨_, ⟨rfl, clause, block, rfl⟩, rfl⟩
        have admits : draft.Admits clause := by
          obtain ⟨_, _, _, _, _⟩ := block
          exact ⟨nofun, nofun, nofun⟩
        refine ⟨_, .branch block, admits, ?_⟩
        obtain ⟨_, _, _, _, _⟩ := block
        simp [NodeDraft.addEffects]
      · rintro ⟨clause, means, _, rfl⟩
        cases means with
        | choice block =>
          obtain ⟨_, isChoice, _, _, _⟩ := block
          exact absurd (isBranch.symm.trans isChoice) (by decide)
        | branch block =>
          refine ⟨_, ⟨rfl, _, block, rfl⟩, ?_⟩
          obtain ⟨_, _, _, _, _⟩ := block
          simp [NodeDraft.addEffects]

def Together (clauses : List Clause) : Prop :=
  Once Clause.speech? clauses ∧ Once Clause.target? clauses ∧
    (clauses.filterMap Clause.choice?).Pairwise fun one other => one.id ≠ other.id

def nodeDraftOf (id : String) (clauses : List Clause) : NodeDraft where
  node := nodeOf id clauses
  spoken := clauses.any fun clause => clause.speech?.isSome
  routed := clauses.any fun clause => clause.target?.isSome

theorem getD_or (f : α → β) (a b : Option α) (default : β) :
    ((a.or b).map f).getD default = (a.map f).getD ((b.map f).getD default) := by
  cases a <;> rfl

theorem nodeDraftOf_concat (id : String) (clauses : List Clause) (clause : Clause) :
    (nodeDraftOf id clauses).add clause = nodeDraftOf id (clauses ++ [clause]) := by
  simp only [nodeDraftOf, nodeOf, NodeDraft.add, last?_concat, filterMap_concat,
    List.flatMap_append, List.flatMap_singleton, getD_or, List.any_append, List.any_cons,
    List.any_nil, Bool.or_false]

theorem admitted_iff (id : String) (clauses : List Clause) :
    Admitted NodeDraft.Admits NodeDraft.add (nodeDraftOf id []) clauses ↔
      Once Clause.speech? clauses ∧ Once Clause.target? clauses ∧
        (clauses.filterMap Clause.choice?).Pairwise fun one other =>
          one.id.same other.id = false := by
  have spoken : Admitted (fun draft clause => clause.speech?.isSome → draft.spoken = false)
      NodeDraft.add (nodeDraftOf id []) clauses ↔ Once Clause.speech? clauses :=
    admitted_once NodeDraft.spoken (fun _ _ => rfl) rfl clauses
  have routed : Admitted (fun draft clause => clause.target?.isSome → draft.routed = false)
      NodeDraft.add (nodeDraftOf id []) clauses ↔ Once Clause.target? clauses :=
    admitted_once NodeDraft.routed (fun _ _ => rfl) rfl clauses
  have apart : Admitted (fun draft clause => ∀ choice, clause.choice? = some choice →
      ∀ other ∈ draft.node.choices, other.id.same choice.id = false)
      NodeDraft.add (nodeDraftOf id []) clauses ↔ (clauses.filterMap Clause.choice?).Pairwise
        fun one other => one.id.same other.id = false :=
    admitted_apart (fun draft : NodeDraft => draft.node.choices) (fun _ _ => rfl) rfl clauses
  rw [← spoken, ← routed, ← apart, ← admitted_and, ← admitted_and]
  rfl

theorem pairwise_same {entries : List τ} {id : τ → Value}
    (texts : ∀ entry ∈ entries, ∃ name, id entry = .text name) :
    (entries.Pairwise fun one other => (id one).same (id other) = false) ↔
      entries.Pairwise fun one other => id one ≠ id other := by
  refine List.Pairwise.iff_of_mem fun {one other} listed otherListed => ?_
  obtain ⟨name, first⟩ := texts one listed
  obtain ⟨otherName, second⟩ := texts other otherListed
  simp [first, second]

theorem text_of_choice {id : String} {item : Item} {clause : Clause} {choice : Choice}
    (means : item.Meaning id clause) (offers : clause.choice? = some choice) :
    ∃ name, choice.id = .text name := by
  cases means with
  | line line => cases line <;> cases offers
  | choice block =>
    obtain ⟨_, _, _, _, _⟩ := block
    cases offers
    exact ⟨_, rfl⟩
  | branch block =>
    obtain ⟨_, _, _, _, _⟩ := block
    cases offers

theorem text_of_means {id : String} {items : List Item} {clauses : List Clause}
    (means : List.Forall₂ (Item.Meaning id) items clauses) :
    ∀ choice ∈ clauses.filterMap Clause.choice?, ∃ name, choice.id = .text name := by
  intro choice listed
  obtain ⟨clause, member, offers⟩ := List.mem_filterMap.mp listed
  obtain ⟨item, _, meansClause⟩ := exists_of_mem means member
  exact text_of_choice meansClause offers

theorem formed_eq_ok {id : String} {list : List Item} (formed : ∀ item ∈ list, item.Formed)
    {draft : NodeDraft} : list.foldlM (NodeDraft.read id) (.empty id) = .ok draft ↔ ∃ clauses,
      List.Forall₂ (Item.Meaning id) list clauses ∧ Together clauses ∧
        nodeDraftOf id clauses = draft := by
  have step (item : Item) (listed : item ∈ list) := NodeDraft.read_eq_ok (formed item listed) id
  refine (foldlM_eq_made (nodeDraftOf id) (nodeDraftOf_concat id) step draft).trans ⟨?_, ?_⟩
  · rintro ⟨clauses, means, admitted, made⟩
    obtain ⟨spoken, routed, apart⟩ := (admitted_iff id clauses).mp admitted
    have distinct := (pairwise_same (text_of_means means)).mp apart
    exact ⟨clauses, means, ⟨spoken, routed, distinct⟩, made⟩
  · rintro ⟨clauses, means, ⟨spoken, routed, distinct⟩, made⟩
    have apart := (pairwise_same (text_of_means means)).mpr distinct
    exact ⟨clauses, means, (admitted_iff id clauses).mpr ⟨spoken, routed, apart⟩, made⟩

theorem items_eq_ok {id : String} {tokens : List Token} {draft : NodeDraft} :
    (items tokens).foldlM (NodeDraft.read id) (.empty id) = .ok draft ↔ ∃ clauses,
      Items id tokens clauses ∧ Once Clause.speech? clauses ∧ Once Clause.target? clauses ∧
        ((clauses.filterMap Clause.choice?).Pairwise fun one other => one.id ≠ other.id) ∧
        nodeDraftOf id clauses = draft := by
  simp only [formed_eq_ok (items_formed tokens), ← items_iff, Together, and_assoc]

theorem readNode_eq_ok {part : Section} {node : Node} (opens : part.opener.keyword = "NODE") :
    readNode part = .ok node ↔ IsNode part node := by
  unfold readNode
  simp only [bind_eq_ok, pure_eq_ok, argument_eq_ok, items_eq_ok]
  constructor
  · rintro ⟨id, opener, _, ⟨clauses, items, spoken, routed, distinct, rfl⟩, rfl⟩
    exact .intro ⟨opens, opener⟩ items spoken routed distinct
  · intro isNode
    obtain ⟨opener, items, spoken, routed, distinct⟩ := isNode
    exact ⟨_, opener.arguments, _, ⟨_, items, spoken, routed, distinct, rfl⟩, rfl⟩

theorem addNode_eq_ok {part : Section} (opens : part.opener.keyword = "NODE")
    (nodes next : List Node) : addNode nodes part = .ok next ↔
      ∃ node, IsNode part node ∧ (∀ entry, some node = some entry →
        ∀ other ∈ nodes, other.id.same entry.id = false) ∧ nodes ++ [node] = next := by
  unfold addNode
  simp only [bind_eq_ok, guarded_eq_ok, pure_eq_ok, readNode_eq_ok opens, List.any_eq_false,
    Bool.not_eq_true, Option.some.injEq, forall_eq']

theorem text_of_isNode {part : Section} {node : Node} (isNode : IsNode part node) :
    ∃ name, node.id = .text name := by
  obtain ⟨_, _, _, _, _⟩ := isNode
  exact ⟨_, rfl⟩

theorem nodes_eq_ok {parts : List Section} (openers : ∀ part ∈ parts, part.opener.keyword = "NODE")
    (nodes : List Node) : parts.foldlM addNode [] = .ok nodes ↔
      List.Forall₂ IsNode parts nodes ∧ nodes.Pairwise fun one other => one.id ≠ other.id := by
  have apart (nodes : List Node) : Admitted
      (fun nodes node => ∀ entry, some node = some entry →
        ∀ other ∈ nodes, other.id.same entry.id = false)
      (fun nodes node => nodes ++ [node]) [] nodes ↔
        (nodes.filterMap some).Pairwise fun one other => one.id.same other.id = false :=
    admitted_apart (fun nodes => nodes) (fun _ _ => rfl) rfl nodes
  have run := foldlM_eq_made (fun nodes : List Node => nodes) (fun _ _ => rfl)
    (fun part listed => addNode_eq_ok (openers part listed)) nodes
  simp only [apart, List.filterMap_some] at run
  rw [run]
  have texts {nodes : List Node} (sections : List.Forall₂ IsNode parts nodes) :
      ∀ node ∈ nodes, ∃ name, node.id = .text name := by
    intro node listed
    obtain ⟨part, _, isNode⟩ := exists_of_mem sections listed
    exact text_of_isNode isNode
  constructor
  · rintro ⟨_, sections, distinct, rfl⟩
    exact ⟨sections, (pairwise_same (texts sections)).mp distinct⟩
  · rintro ⟨sections, distinct⟩
    exact ⟨nodes, sections, (pairwise_same (texts sections)).mpr distinct, rfl⟩

theorem readTokens_eq_ok {id : Value} {tokens : List Token} {dialogue : Dialogue} :
    readTokens id tokens = .ok dialogue ↔ IsScript id tokens dialogue := by
  unfold readTokens
  constructor
  · intro reads
    have layout := sections_layout tokens
    obtain ⟨header, readsHeader, reads⟩ := bind_eq_ok.mp reads
    obtain ⟨clauses, lines, triggered, rfl⟩ := header_eq_ok.mp readsHeader
    obtain ⟨nodes, readsNodes, reads⟩ := bind_eq_ok.mp reads
    obtain ⟨sections, distinct⟩ := (nodes_eq_ok layout.openers nodes).mp readsNodes
    cases nodes with
    | nil => cases reads
    | cons first others =>
      cases reads
      exact .intro layout lines triggered sections (List.cons_ne_nil _ _) distinct
  · intro isScript
    cases isScript with
    | @intro header parts clauses nodes layout lines triggered sections given distinct =>
      have readsHeader := header_eq_ok.mpr ⟨clauses, lines, triggered, rfl⟩
      have readsNodes := (nodes_eq_ok layout.openers nodes).mpr ⟨sections, distinct⟩
      rw [sections_of_layout layout]
      refine bind_eq_ok.mpr ⟨_, readsHeader, bind_eq_ok.mpr ⟨_, readsNodes, ?_⟩⟩
      cases nodes with
      | nil => exact absurd rfl given
      | cons first others => rfl

theorem isScript_unique {id : Value} {tokens : List Token} {dialogue other : Dialogue}
    (script : IsScript id tokens dialogue) (otherScript : IsScript id tokens other) :
    dialogue = other := by
  have reads := readTokens_eq_ok.mpr script
  rw [readTokens_eq_ok.mpr otherScript] at reads
  exact (Except.ok.inj reads).symm

/-- A source compiles to a dialogue exactly if its tokens are a script of it. -/
theorem compile_eq_ok (id : Value) (source : String) (dialogue : Dialogue) :
    compile id source = .ok dialogue ↔ IsScript id (tokenize source.toList) dialogue :=
  readTokens_eq_ok

end Fabula.Script
