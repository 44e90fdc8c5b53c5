import Fabula.Dialogue.Basic
import Fabula.Script.Expression
import Fabula.Script.Section
/-!
# Reading dialogue scripts

The header of a script names the location that triggers the dialogue and the conditions that it
requires. Every section is a node. Sections, items and lines are read in order, and the first fault
is the one that is reported.
-/

namespace Fabula.Script

/-- Whether a character stays as it is in a choice id before it is put into lower case: ASCII
letters and digits, and the four other characters that agree with an ASCII letter when case is
ignored. -/
def isChoiceIdChar (c : Char) : Bool :=
  c.isAlphanum || c == 'İ' || c == 'ı' || c == 'ſ' || c == Char.ofNat 0x212a

def choiceIdLength : Nat := 30

def choiceIdSuffix (text : List Char) : List Char :=
  let kept := text.filter fun c => c != '@' && c != '"'
  (Text.lower (kept.map fun c => if isChoiceIdChar c then c else '_')).take choiceIdLength

def choiceId (node : String) (text : List Char) : String :=
  node ++ "_choice_" ++ String.ofList (choiceIdSuffix text)

def Token.fault {α : Type} (token : Token) (fault : ScriptFault) : Except Failure α :=
  .error (.script fault (some (.int token.number)))

def Token.argument (token : Token) : Except Failure String :=
  match token.words with
  | [_, argument] => .ok argument
  | _ => token.fault (.notOneArgument token.keyword)

def Token.freeText (token : Token) : Except Failure String :=
  if token.rest.isEmpty then token.fault (.noText token.keyword)
  else .ok (String.ofList token.rest)

def Token.condition (token : Token) : Except Failure Condition :=
  if token.rest.isEmpty then token.fault (.noConditionAfter token.keyword)
  else Condition.compile (some (.int token.number)) token.rest

def Token.effect (token : Token) : Except Failure Effect :=
  Effect.compile (some (.int token.number)) token.line

inductive Target where
  | node (id : String)
  | location (id : String)
deriving DecidableEq, Repr

def Token.target (token : Token) : Except Failure Target :=
  match token.words with
  | [_, "location", id] => .ok (.location id)
  | [_, id] => .ok (.node id)
  | _ => token.fault .gotoTarget

def leaveFor (location : String) : List Effect :=
  [.goToLocation location, .endDialogue]

structure ChoiceDraft where
  conditions : List Condition
  effects : List Effect
  target : Option Target

def ChoiceDraft.read (draft : ChoiceDraft) (token : Token) : Except Failure ChoiceDraft := do
  if token.keyword == "REQUIRE" then
    return { draft with conditions := draft.conditions ++ [← token.condition] }
  else if token.keyword == "GOTO" then
    if draft.target.isSome then token.fault .secondChoiceGoto
    let target ← token.target
    let leaving := match target with
      | .location id => leaveFor id
      | .node _ => []
    return { draft with effects := draft.effects ++ leaving, target := some target }
  else if token.speaker?.isSome then return draft
  else return { draft with effects := draft.effects ++ [← token.effect] }

def readChoice (node : String) (opener : Token) (body : List Token) (closed : Bool) :
    Except Failure Choice := do
  if opener.rest.isEmpty then opener.fault .choiceWithoutText
  let text := authoredText opener.rest
  let draft ← body.foldlM ChoiceDraft.read ⟨[], [], none⟩
  if !closed then opener.fault (.unclosedBlock "CHOICE")
  let next := match draft.target with
    | some (.node id) => id
    | _ => ""
  return {
    id := choiceId node text
    text := String.ofList text
    next
    conditions := draft.conditions
    effects := draft.effects }

structure IfDraft where
  effects : List Effect
  target : Option String

def IfDraft.read (draft : IfDraft) (token : Token) : Except Failure IfDraft := do
  if token.keyword == "GOTO" then
    if draft.target.isSome then token.fault .secondIfGoto
    match ← token.target with
    | .location _ => token.fault .locationInIf
    | .node id => return { draft with target := some id }
  else return { draft with effects := draft.effects ++ [← token.effect] }

def readIf (opener : Token) (body : List Token) (closed : Bool) :
    Except Failure (Option Branch × List Effect) := do
  let condition ← opener.condition
  let draft ← body.foldlM IfDraft.read ⟨[], none⟩
  if !closed then opener.fault (.unclosedBlock "IF")
  return (draft.target.map fun id => ⟨condition, .text id⟩, draft.effects)

def narrator : List Char :=
  "NARRATOR".toList

structure NodeDraft where
  node : Node
  spoken : Bool
  routed : Bool

def NodeDraft.empty (id : String) : NodeDraft where
  node := {
    id := id
    speaker := .null
    text := ""
    voice := .null
    portrait := .null
    choices := []
    effects := []
    branches := []
    next := .null }
  spoken := false
  routed := false

def NodeDraft.addEffects (draft : NodeDraft) (effects : List Effect) : NodeDraft :=
  { draft with node := { draft.node with effects := draft.node.effects ++ effects } }

def NodeDraft.readSpeaker (draft : NodeDraft) (id : String) (token : Token)
    (name text : List Char) : Except Failure NodeDraft := do
  if draft.spoken then token.fault (.secondSpeaker id)
  let speaker : Value :=
    if name == narrator then .null else String.ofList (Text.lower name)
  let text := String.ofList (authoredText text)
  return { draft with node := { draft.node with speaker, text }, spoken := true }

def NodeDraft.routeTo (draft : NodeDraft) : Target → NodeDraft
  | .location location => { draft.addEffects (leaveFor location) with routed := true }
  | .node next => { draft with node := { draft.node with next := next }, routed := true }

def NodeDraft.readGoto (draft : NodeDraft) (id : String) (token : Token) :
    Except Failure NodeDraft := do
  if draft.routed then token.fault (.secondGoto id)
  return draft.routeTo (← token.target)

def NodeDraft.readLine (draft : NodeDraft) (id : String) (token : Token) :
    Except Failure NodeDraft := do
  match token.speaker? with
  | some (name, text) => draft.readSpeaker id token name text
  | none =>
    if token.keyword == "VOICE" then
      return { draft with node := { draft.node with voice := ← token.freeText } }
    else if token.keyword == "PORTRAIT" then
      return { draft with node := { draft.node with portrait := ← token.freeText } }
    else if token.keyword == "GOTO" then draft.readGoto id token
    else return draft.addEffects [← token.effect]

def NodeDraft.addChoice (draft : NodeDraft) (id : String) (opener : Token) (choice : Choice) :
    Except Failure NodeDraft := do
  if draft.node.choices.any fun other => other.id.same choice.id then
    opener.fault (.repeatedChoice choice.id.display id)
  return { draft with node := { draft.node with choices := draft.node.choices ++ [choice] } }

def NodeDraft.read (id : String) (draft : NodeDraft) : Item → Except Failure NodeDraft
  | .line token => draft.readLine id token
  | .block opener body closed => do
    if opener.keyword == "CHOICE" then
      draft.addChoice id opener (← readChoice id opener body closed)
    else
      let (branch, effects) ← readIf opener body closed
      let branches := draft.node.branches ++ branch.toList
      return { draft with node := { draft.node with branches } }.addEffects effects

def readNode (part : Section) : Except Failure Node := do
  let id ← part.opener.argument
  let draft ← (items part.tokens).foldlM (NodeDraft.read id) (.empty id)
  return draft.node

def addNode (nodes : List Node) (part : Section) : Except Failure (List Node) := do
  let node ← readNode part
  if nodes.any fun other => other.id.same node.id then
    part.opener.fault (.repeatedNode node.id.display)
  return nodes ++ [node]

structure Header where
  trigger : Option String
  conditions : List Condition

def Header.read (header : Header) (token : Token) : Except Failure Header := do
  if token.keyword == "TRIGGER" then
    if header.trigger.isSome then token.fault .secondTrigger
    return { header with trigger := some (← token.argument) }
  else if token.keyword == "REQUIRE" then
    return { header with conditions := header.conditions ++ [← token.condition] }
  else token.fault (.unexpectedLine token.number (String.ofList token.line))

def readTokens (id : Value) (tokens : List Token) : Except Failure Dialogue := do
  let (above, parts) := sections tokens
  let header ← above.foldlM Header.read ⟨none, []⟩
  let nodes ← parts.foldlM addNode []
  match nodes with
  | [] => throw (.script (.noNode id.display) none)
  | first :: _ =>
    return {
      id
      startNode := first.id
      nodes
      triggerLocation := (header.trigger.map Value.text).getD .null
      conditions := header.conditions }

def compile (id : Value) (source : String) : Except Failure Dialogue :=
  readTokens id (tokenize source.toList)

end Fabula.Script
