import Fabula.Proofs.Dialogue.Record
import Fabula.Proofs.Script.Reading
/-!
# Compiled dialogues are coherent

A session finds nodes and choices by the first one that has their id, follows targets as they come
and computes with numbers without a check. It can do so with every dialogue that is compiled from a
script: ids tell nodes and choices apart, targets are words, and the fields of conditions and
effects are of the types that are declared for them. A clause is sound if it adds nothing else to a
dialogue, and there is one lemma for each place where a clause can stand. Main statement:

* `compile_coherent`: what a script compiles to is coherent.
-/

namespace Fabula

def ParameterType.Admits : ParameterType → Value → Prop
  | .text, value => ∃ s, value = .text s
  | .number, value => ∃ n : Number, value = .number n ∧ n.Finite
  | .whole, value => ∃ n : Int, value = .int n
  | .scalar, value => (∃ s, value = .text s) ∨ ∃ n : Number, value = .number n ∧ n.Finite
  | .truth, value => ∃ b, value = .bool b

theorem admits_toValue {type : ParameterType} {argument : type.Carrier}
    (suits : type.Suits argument) : type.Admits (type.toValue argument) := by
  cases type with
  | text | whole | truth => exact ⟨argument, rfl⟩
  | number => exact ⟨argument, rfl, suits⟩
  | scalar => exact suits

def Parameter.Admits (parameter : Parameter) (field : String × Value) : Prop :=
  field.1 = parameter.name ∧ parameter.type.Admits field.2

theorem Arguments.admitted {parameters : List Parameter} {arguments : Arguments parameters}
    (suit : Suit parameters arguments) :
    List.Forall₂ Parameter.Admits parameters (toFields parameters arguments) := by
  induction parameters with
  | nil => exact .nil
  | cons parameter parameters ih =>
    obtain ⟨argument, arguments⟩ := arguments
    exact .cons ⟨rfl, admits_toValue suit.1⟩ (ih suit.2)

def Condition.Fits (condition : Condition) : Prop :=
  List.Forall₂ Parameter.Admits condition.kind.parameters
    (Arguments.toFields condition.kind.parameters condition.arguments)

def Effect.Fits (effect : Effect) : Prop :=
  List.Forall₂ Parameter.Admits effect.kind.parameters
    (Arguments.toFields effect.kind.parameters effect.arguments)

theorem Condition.Suited.fits {condition : Condition} (suited : condition.Suited) :
    condition.Fits :=
  Arguments.admitted suited

theorem Effect.Suited.fits {effect : Effect} (suited : effect.Suited) : effect.Fits :=
  Arguments.admitted suited

def Value.IsWord (value : Value) : Prop :=
  ∃ word : String, value = .text word ∧ word ≠ "" ∧ ∀ c ∈ word.toList, Text.isBlank c = false

structure Branch.Coherent (branch : Branch) : Prop where
  next : branch.next.IsWord
  condition : branch.condition.Fits

structure Choice.Coherent (node : String) (choice : Choice) : Prop where
  id : ∃ suffix : String, choice.id = .text (node ++ "_choice_" ++ suffix)
  next : choice.next = .text "" ∨ choice.next.IsWord
  conditions : ∀ condition ∈ choice.conditions, condition.Fits
  effects : ∀ effect ∈ choice.effects, effect.Fits

structure Node.Coherent (node : Node) : Prop where
  id : node.id.IsWord
  next : node.next = .null ∨ node.next.IsWord
  distinct : node.choices.Pairwise fun one other => one.id ≠ other.id
  found : ∀ choice ∈ node.choices, node.findChoice? choice.id = some choice
  choices : ∀ choice ∈ node.choices, ∃ name, node.id = .text name ∧ choice.Coherent name
  branches : ∀ branch ∈ node.branches, branch.Coherent
  effects : ∀ effect ∈ node.effects, effect.Fits

structure Dialogue.Coherent (dialogue : Dialogue) : Prop where
  start : ∃ first others, dialogue.nodes = first :: others ∧ dialogue.startNode = first.id
  distinct : dialogue.nodes.Pairwise fun one other => one.id ≠ other.id
  found : ∀ node ∈ dialogue.nodes, dialogue.findNode? node.id = some node
  nodes : ∀ node ∈ dialogue.nodes, node.Coherent
  conditions : ∀ condition ∈ dialogue.conditions, condition.Fits

theorem find?_of_apart {α : Type} {id : α → Value} {entries : List α}
    (texts : ∀ entry ∈ entries, ∃ name, id entry = .text name)
    (apart : entries.Pairwise fun one other => id one ≠ id other) {entry : α}
    (listed : entry ∈ entries) :
    entries.find? (fun other => (id other).same (id entry)) = some entry := by
  induction entries with
  | nil => cases listed
  | cons first rest ih =>
    obtain ⟨name, named⟩ := texts first List.mem_cons_self
    obtain ⟨differs, apart⟩ := List.pairwise_cons.mp apart
    rcases List.mem_cons.mp listed with rfl | listed
    · simp [named]
    · obtain ⟨other, otherNamed⟩ := texts entry (List.mem_cons_of_mem _ listed)
      have unlike : (id first).same (id entry) = false := by
        have differ := differs entry listed
        simpa [named, otherNamed] using differ
      rw [List.find?_cons_of_neg (by simp [unlike])]
      exact ih (fun other member => texts other (List.mem_cons_of_mem _ member)) apart listed

namespace Script
open Clause (last?)

structure Clause.Sound (node : String) (clause : Clause) : Prop where
  next : ∀ id, clause.next? = some id → (Value.text id).IsWord
  choice : ∀ choice, clause.choice? = some choice → choice.Coherent node
  branch : ∀ branch, clause.branch? = some branch → branch.Coherent
  condition : ∀ condition, clause.condition? = some condition → condition.Fits
  effects : ∀ effect ∈ clause.effects, effect.Fits

variable {token opener : Token} {body : List Token} {clause : Clause} {clauses : List Clause}
  {node : String}

theorem Clause.sound_condition {condition : Condition} (fits : condition.Fits) :
    (Clause.condition condition).Sound node where
  next := nofun
  choice := nofun
  branch := nofun
  condition := by
    rintro _ ⟨⟩
    exact fits
  effects := by simp

theorem Clause.sound_effect {effect : Effect} (fits : effect.Fits) :
    (Clause.effect effect).Sound node where
  next := nofun
  choice := nofun
  branch := nofun
  condition := nofun
  effects := by simpa using fits

theorem Clause.sound_speech (speaker : Value) (text : String) :
    (Clause.speech speaker text).Sound node :=
  ⟨nofun, nofun, nofun, nofun, by simp⟩

namespace Token

theorem Phrase.isWord {keyword : String} {arguments : List String}
    (phrase : token.Phrase keyword arguments) :
    ∀ argument ∈ arguments, (Value.text argument).IsWord := by
  intro argument listed
  rw [← phrase.arguments] at listed
  obtain ⟨word, member, rfl⟩ := List.mem_map.mp (List.mem_of_mem_tail listed)
  refine ⟨_, rfl, ?_, ?_⟩
  · simpa using Text.word_nonempty token.line word member
  · simpa using Text.word_solid token.line word member

theorem GotoLine.sound {target : Target} (routes : token.GotoLine target) :
    (Clause.goto target).Sound node where
  next id found := by
    cases routes with
    | node phrase =>
      cases found
      exact phrase.isWord _ List.mem_cons_self
    | location phrase => cases found
  choice := nofun
  branch := nofun
  condition := nofun
  effects := by
    cases target with
    | node id => simp
    | location id => exact fun effect listed => (leaveFor_suited id effect listed).fits

theorem RequireLine.fits {condition : Condition} (requires : token.RequireLine condition) :
    condition.Fits :=
  (Condition.compile_suited _ _ condition requires.2).fits

theorem EffectLine.fits {effect : Effect} (affects : token.EffectLine effect) : effect.Fits :=
  (Effect.compile_suited _ _ effect affects).fits

theorem InHeader.sound (line : token.InHeader clause) : clause.Sound node := by
  cases line with
  | trigger phrase => exact ⟨nofun, nofun, nofun, nofun, by simp⟩
  | require requires => exact Clause.sound_condition requires.fits

theorem InSection.sound (line : token.InSection clause) : clause.Sound node := by
  cases line with
  | speech speaks => exact Clause.sound_speech _ _
  | voice | portrait => exact ⟨nofun, nofun, nofun, nofun, by simp⟩
  | goto silent routes => exact routes.sound
  | effect silent other affects => exact Clause.sound_effect affects.fits

theorem InChoice.sound (line : token.InChoice clause) : clause.Sound node := by
  cases line with
  | require requires => exact Clause.sound_condition requires.fits
  | goto routes => exact routes.sound
  | speech other speaks => exact Clause.sound_speech _ _
  | effect other silent affects => exact Clause.sound_effect affects.fits

theorem InBranch.sound (line : token.InBranch clause) : clause.Sound node := by
  cases line with
  | goto phrase => exact (GotoLine.node phrase).sound
  | effect other affects => exact Clause.sound_effect affects.fits

end Token

theorem sound_of_lines {reads : Token → Clause → Prop}
    (line : ∀ token clause, reads token clause → clause.Sound node)
    (lines : List.Forall₂ reads body clauses) : ∀ clause ∈ clauses, clause.Sound node := by
  intro clause listed
  obtain ⟨token, _, means⟩ := exists_of_mem lines listed
  exact line token clause means

section
variable (sound : ∀ clause ∈ clauses, clause.Sound node)
include sound

theorem last_isWord {id : String} (last : last? Clause.next? clauses = some id) :
    (Value.text id).IsWord := by
  obtain ⟨clause, listed, next⟩ := List.mem_filterMap.mp (List.mem_of_getLast? last)
  exact (sound clause listed).next id next

theorem conditions_fit :
    ∀ condition ∈ clauses.filterMap Clause.condition?, condition.Fits := by
  intro condition listed
  obtain ⟨clause, member, found⟩ := List.mem_filterMap.mp listed
  exact (sound clause member).condition condition found

theorem effects_fit : ∀ effect ∈ clauses.flatMap Clause.effects, effect.Fits := by
  intro effect listed
  obtain ⟨clause, member, found⟩ := List.mem_flatMap.mp listed
  exact (sound clause member).effects effect found

end

theorem IsChoice.coherent {choice : Choice} (block : IsChoice node opener body choice) :
    choice.Coherent node := by
  cases block with | @intro clauses _ _ _ lines _ =>
  have sound : ∀ clause ∈ clauses, clause.Sound node :=
    sound_of_lines (fun _ _ line => line.sound) lines
  refine ⟨⟨_, rfl⟩, ?_, conditions_fit sound, effects_fit sound⟩
  cases last : last? Clause.next? clauses with
  | none => exact .inl (by simp [choiceOf, last])
  | some id => exact .inr (by simpa [choiceOf, last] using last_isWord sound last)

theorem IsBranch.sound (block : IsBranch opener body clause) : clause.Sound node := by
  cases block with | @intro condition clauses _ _ compiles lines _ =>
  have sound : ∀ clause ∈ clauses, clause.Sound node :=
    sound_of_lines (fun _ _ line => line.sound) lines
  have fits := (Condition.compile_suited _ _ condition compiles).fits
  refine ⟨nofun, nofun, ?_, nofun, effects_fit sound⟩
  intro branch found
  cases last : last? Clause.next? clauses with
  | none => simp [last] at found
  | some id =>
    simp only [last, Clause.branch?, Option.some.injEq] at found
    subst found
    exact ⟨last_isWord sound last, fits⟩

theorem Item.Meaning.sound {item : Item} (means : item.Meaning node clause) :
    clause.Sound node := by
  cases means with
  | line line => exact line.sound
  | choice block =>
    refine ⟨nofun, ?_, nofun, nofun, by simp⟩
    rintro _ ⟨⟩
    exact block.coherent
  | branch block => exact block.sound

theorem IsNode.coherent {part : Section} {node : Node} (isNode : IsNode part node) :
    node.Coherent := by
  cases isNode with | @intro name clauses opener items _ _ distinct =>
  have means := items_iff.mp items
  have sound : ∀ clause ∈ clauses, clause.Sound name := by
    intro clause listed
    obtain ⟨item, _, ofItem⟩ := exists_of_mem means listed
    exact ofItem.sound
  exact {
    id := opener.isWord name List.mem_cons_self
    next := by
      cases last : last? Clause.next? clauses with
      | none => exact .inl (by simp [nodeOf, last])
      | some id => exact .inr (by simpa [nodeOf, last] using last_isWord sound last)
    distinct
    found := fun choice listed => find?_of_apart (text_of_means means) distinct listed
    choices := by
      intro choice listed
      obtain ⟨clause, member, offers⟩ := List.mem_filterMap.mp listed
      exact ⟨name, rfl, (sound clause member).choice choice offers⟩
    branches := by
      intro branch listed
      obtain ⟨clause, member, leads⟩ := List.mem_filterMap.mp listed
      exact (sound clause member).branch branch leads
    effects := effects_fit sound }

theorem IsScript.coherent {id : Value} {tokens : List Token} {dialogue : Dialogue}
    (script : IsScript id tokens dialogue) : dialogue.Coherent := by
  cases script with | @intro _ _ clauses nodes _ lines _ sections given distinct =>
  have coherent : ∀ node ∈ nodes, node.Coherent := by
    intro node listed
    obtain ⟨part, _, isNode⟩ := exists_of_mem sections listed
    exact isNode.coherent
  have texts : ∀ node ∈ nodes, ∃ name, node.id = .text name := by
    intro node listed
    obtain ⟨name, named, _⟩ := (coherent node listed).id
    exact ⟨name, named⟩
  have sound : ∀ clause ∈ clauses, clause.Sound "" :=
    sound_of_lines (fun _ _ line => line.sound) lines
  exact {
    start := by
      obtain ⟨first, others, rfl⟩ := List.exists_cons_of_ne_nil given
      exact ⟨first, others, rfl, rfl⟩
    distinct
    found := fun node listed => find?_of_apart texts distinct listed
    nodes := coherent
    conditions := conditions_fit sound }

/-- Whatever a source compiles to is coherent: it starts at its first node, ids find what has them,
ids and targets are words, and so are the targets of all branches, the id of a choice starts with
that of its node, and numbers are integers and finite floats. -/
theorem compile_coherent {id : Value} {source : String} {dialogue : Dialogue}
    (compiled : compile id source = .ok dialogue) : dialogue.Coherent :=
  (readTokens_eq_ok.mp compiled).coherent

def gateScript : String :=
  "NODE ask\nCHOICE Go on\nREQUIRE roll 1 2e1 10.5\nGOTO pass\nEND\n" ++
    "IF hasFlag open\nGOTO pass\nEND\nNODE pass\n"

theorem compile_coherent_gate : ∃ dialogue, compile "gate" gateScript = .ok dialogue ∧
    dialogue.nodes.map (fun node => (node.choices.length, node.branches.length)) =
      [(1, 1), (0, 0)] ∧ dialogue.Coherent := by
  have compiles : ((compile "gate" gateScript).toOption.map fun dialogue =>
      dialogue.nodes.map fun node => (node.choices.length, node.branches.length)) =
        some [(1, 1), (0, 0)] := by
    decide +kernel
  cases compiled : compile "gate" gateScript with
  | error failure => simp [compiled, Except.toOption] at compiles
  | ok dialogue =>
    rw [compiled] at compiles
    exact ⟨dialogue, rfl, Option.some.inj compiles, compile_coherent compiled⟩

end Script
end Fabula
