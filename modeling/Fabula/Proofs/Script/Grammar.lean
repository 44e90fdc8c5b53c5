import Fabula.Script.Dialogue
import Mathlib.Data.List.Forall2
/-!
# The grammar of scripts

Which tokens are a script, and which dialogue they mean. The grammar does not say how a script is
read: it relates lines to clauses, blocks and sections to lists of clauses, and a list of clauses to
what it means. The forms of lines differ between the header, the sections and the two kinds of
blocks.
-/

namespace Fabula.Script

@[simp] def Target.node? : Target → Option String
  | .node id => some id
  | .location _ => none

inductive Clause where
  | trigger (location : String)
  | condition (condition : Condition)
  | speech (speaker : Value) (text : String)
  | voice (file : String)
  | portrait (file : String)
  | goto (target : Target)
  | effect (effect : Effect)
  | choice (choice : Choice)
  | branch (condition : Condition) (target : Option String) (effects : List Effect)

namespace Clause

@[simp] def trigger? : Clause → Option String
  | .trigger location => some location
  | _ => none

@[simp] def condition? : Clause → Option Condition
  | .condition required => some required
  | _ => none

@[simp] def speech? : Clause → Option (Value × String)
  | .speech speaker text => some (speaker, text)
  | _ => none

@[simp] def voice? : Clause → Option String
  | .voice file => some file
  | _ => none

@[simp] def portrait? : Clause → Option String
  | .portrait file => some file
  | _ => none

@[simp] def target? : Clause → Option Target
  | .goto target => some target
  | _ => none

@[simp] def choice? : Clause → Option Choice
  | .choice offered => some offered
  | _ => none

@[simp] def next? (clause : Clause) : Option String :=
  clause.target?.bind Target.node?

@[simp] def branch? : Clause → Option Branch
  | .branch required (some id) _ => some ⟨required, .text id⟩
  | _ => none

@[simp] def effects : Clause → List Effect
  | .goto (.location id) => leaveFor id
  | .effect single => [single]
  | .branch _ _ effects => effects
  | _ => []

def last? {α : Type} (kind? : Clause → Option α) (clauses : List Clause) : Option α :=
  (clauses.filterMap kind?).getLast?

end Clause

open Clause (last?)

def speakerOf (name : List Char) : Value :=
  if name = narrator then .null else .text (String.ofList (Text.lower name))

def spokenText (text : List Char) : String :=
  String.ofList (authoredText text)

def choiceOf (node : String) (text : List Char) (clauses : List Clause) : Choice where
  id := choiceId node (authoredText text)
  text := spokenText text
  next := (last? Clause.next? clauses).getD ""
  conditions := clauses.filterMap Clause.condition?
  effects := clauses.flatMap Clause.effects

def nodeOf (id : String) (clauses : List Clause) : Node where
  id := id
  speaker := ((last? Clause.speech? clauses).map (·.1)).getD .null
  text := ((last? Clause.speech? clauses).map (·.2)).getD ""
  voice := ((last? Clause.voice? clauses).map Value.text).getD .null
  portrait := ((last? Clause.portrait? clauses).map Value.text).getD .null
  choices := clauses.filterMap Clause.choice?
  effects := clauses.flatMap Clause.effects
  branches := clauses.filterMap Clause.branch?
  next := ((last? Clause.next? clauses).map Value.text).getD .null

def dialogueOf (id : Value) (header : List Clause) (nodes : List Node) : Dialogue where
  id
  startNode := (nodes.head?.map Node.id).getD .null
  nodes
  triggerLocation := ((last? Clause.trigger? header).map Value.text).getD .null
  conditions := header.filterMap Clause.condition?

def Once {α : Type} (kind? : Clause → Option α) (clauses : List Clause) : Prop :=
  (clauses.filterMap kind?).length ≤ 1

namespace Token

structure Phrase (token : Token) (keyword : String) (arguments : List String) : Prop where
  keyword : token.keyword = keyword
  arguments : token.words.tail = arguments

/-- Whether a line is a name without blanks and colons, a colon and a text. -/
structure SpeakerLine (token : Token) (name text : List Char) : Prop where
  line : token.line = name ++ ':' :: text
  given : name ≠ []
  name : ∀ c ∈ name, Text.isBlank c = false ∧ c ≠ ':'

def Silent (token : Token) : Prop :=
  ∀ name text, ¬ token.SpeakerLine name text

def RequireLine (token : Token) (condition : Condition) : Prop :=
  token.keyword = "REQUIRE" ∧
    Condition.compile (some (.int token.number)) token.rest = .ok condition

inductive GotoLine (token : Token) : Target → Prop
  | node {id : String} (phrase : token.Phrase "GOTO" [id]) : GotoLine token (.node id)
  | location {id : String} (phrase : token.Phrase "GOTO" ["location", id]) :
      GotoLine token (.location id)

def EffectLine (token : Token) (effect : Effect) : Prop :=
  Effect.compile (some (.int token.number)) token.line = .ok effect

inductive InHeader (token : Token) : Clause → Prop
  | trigger {location : String} (phrase : token.Phrase "TRIGGER" [location]) :
      InHeader token (.trigger location)
  | require {condition : Condition} (requires : token.RequireLine condition) :
      InHeader token (.condition condition)

/-- The lines of a section. That a line speaks is seen before its keyword is, and what has no other
form is an effect. -/
inductive InSection (token : Token) : Clause → Prop
  | speech {name text : List Char} (speaks : token.SpeakerLine name text) :
      InSection token (.speech (speakerOf name) (spokenText text))
  | voice (silent : token.Silent) (keyword : token.keyword = "VOICE") (given : token.rest ≠ []) :
      InSection token (.voice (String.ofList token.rest))
  | portrait (silent : token.Silent) (keyword : token.keyword = "PORTRAIT")
      (given : token.rest ≠ []) : InSection token (.portrait (String.ofList token.rest))
  | goto {target : Target} (silent : token.Silent) (routes : token.GotoLine target) :
      InSection token (.goto target)
  | effect {effect : Effect} (silent : token.Silent)
      (other : token.keyword ∉ ["VOICE", "PORTRAIT", "CHOICE", "IF", "GOTO"])
      (affects : token.EffectLine effect) : InSection token (.effect effect)

/-- The lines of a `CHOICE` block. What they speak means nothing to the choice. -/
inductive InChoice (token : Token) : Clause → Prop
  | require {condition : Condition} (requires : token.RequireLine condition) :
      InChoice token (.condition condition)
  | goto {target : Target} (routes : token.GotoLine target) : InChoice token (.goto target)
  | speech {name text : List Char} (other : token.keyword ∉ ["REQUIRE", "GOTO"])
      (speaks : token.SpeakerLine name text) :
      InChoice token (.speech (speakerOf name) (spokenText text))
  | effect {effect : Effect} (other : token.keyword ∉ ["REQUIRE", "GOTO"]) (silent : token.Silent)
      (affects : token.EffectLine effect) : InChoice token (.effect effect)

/-- The lines of an `IF` block. They go to no location. -/
inductive InBranch (token : Token) : Clause → Prop
  | goto {id : String} (phrase : token.Phrase "GOTO" [id]) : InBranch token (.goto (.node id))
  | effect {effect : Effect} (other : token.keyword ≠ "GOTO") (affects : token.EffectLine effect) :
      InBranch token (.effect effect)

end Token

/-- Whether a block that an opener begins has a body and ends with a line: the first bare `END` with
the indentation of the opener. -/
structure Enclosure (opener : Token) (body : List Token) (closer : Token) : Prop where
  closer : closer.line = "END".toList ∧ closer.indent = opener.indent
  body : ∀ token ∈ body, ¬ (token.line = "END".toList ∧ token.indent = opener.indent)

inductive IsChoice (node : String) (opener : Token) (body : List Token) : Choice → Prop
  | intro {clauses : List Clause} (silent : opener.Silent) (keyword : opener.keyword = "CHOICE")
      (given : opener.rest ≠ []) (lines : List.Forall₂ Token.InChoice body clauses)
      (routed : Once Clause.target? clauses) :
      IsChoice node opener body (choiceOf node opener.rest clauses)

inductive IsBranch (opener : Token) (body : List Token) : Clause → Prop
  | intro {condition : Condition} {clauses : List Clause} (silent : opener.Silent)
      (keyword : opener.keyword = "IF")
      (compiles : Condition.compile (some (.int opener.number)) opener.rest = .ok condition)
      (lines : List.Forall₂ Token.InBranch body clauses) (routed : Once Clause.target? clauses) :
      IsBranch opener body
        (.branch condition (last? Clause.next? clauses) (clauses.flatMap Clause.effects))

inductive Items (node : String) : List Token → List Clause → Prop
  | nil : Items node [] []
  | line {token : Token} {rest : List Token} {clause : Clause} {clauses : List Clause}
      (line : token.InSection clause) (below : Items node rest clauses) :
      Items node (token :: rest) (clause :: clauses)
  | choice {opener closer : Token} {body rest : List Token} {choice : Choice}
      {clauses : List Clause} (encloses : Enclosure opener body closer)
      (block : IsChoice node opener body choice) (below : Items node rest clauses) :
      Items node (opener :: (body ++ closer :: rest)) (.choice choice :: clauses)
  | branch {opener closer : Token} {body rest : List Token} {clause : Clause}
      {clauses : List Clause} (encloses : Enclosure opener body closer)
      (block : IsBranch opener body clause) (below : Items node rest clauses) :
      Items node (opener :: (body ++ closer :: rest)) (clause :: clauses)

inductive IsNode (part : Section) : Node → Prop
  | intro {id : String} {clauses : List Clause} (opener : part.opener.Phrase "NODE" [id])
      (items : Items id part.tokens clauses) (spoken : Once Clause.speech? clauses)
      (routed : Once Clause.target? clauses)
      (choices : (clauses.filterMap Clause.choice?).Pairwise fun one other => one.id ≠ other.id) :
      IsNode part (nodeOf id clauses)

/-- Whether tokens are a header and sections below it. Only the openers of sections are `NODE`
lines. -/
structure Layout (tokens header : List Token) (parts : List Section) : Prop where
  tokens : tokens = header ++ parts.flatMap fun part => part.opener :: part.tokens
  header : ∀ token ∈ header, token.keyword ≠ "NODE"
  openers : ∀ part ∈ parts, part.opener.keyword = "NODE"
  inside : ∀ part ∈ parts, ∀ token ∈ part.tokens, token.keyword ≠ "NODE"

/-- Whether tokens are a script of a dialogue with an id. No two of its nodes have one id. -/
inductive IsScript (id : Value) (tokens : List Token) : Dialogue → Prop
  | intro {header : List Token} {parts : List Section} {clauses : List Clause} {nodes : List Node}
      (layout : Layout tokens header parts)
      (lines : List.Forall₂ Token.InHeader header clauses)
      (triggered : Once Clause.trigger? clauses) (sections : List.Forall₂ IsNode parts nodes)
      (given : nodes ≠ []) (distinct : nodes.Pairwise fun one other => one.id ≠ other.id) :
      IsScript id tokens (dialogueOf id clauses nodes)

end Fabula.Script
