import Fabula.Condition
import Fabula.Effect
/-!
# Dialogues

A dialogue is a graph of nodes. A node shows a line and offers choices; a node without choices
moves on by itself, to the target of the first branch whose condition passes, else to its default
target. Ids and texts are authored values and are not checked.
-/

namespace Fabula

structure Choice where
  id : Value
  text : Value
  next : Value
  conditions : List Condition
  effects : List Effect
deriving Repr

structure Branch where
  condition : Condition
  next : Value
deriving Repr

structure Node where
  id : Value
  speaker : Value
  text : Value
  voice : Value
  portrait : Value
  choices : List Choice
  effects : List Effect
  branches : List Branch
  next : Value
deriving Repr

structure Dialogue where
  id : Value
  startNode : Value
  nodes : List Node
  triggerLocation : Value
  conditions : List Condition
deriving Repr

def Node.findChoice? (node : Node) (id : Value) : Option Choice :=
  node.choices.find? fun choice => choice.id.same id

def Dialogue.findNode? (dialogue : Dialogue) (id : Value) : Option Node :=
  dialogue.nodes.find? fun node => node.id.same id

def Dialogue.start? (dialogue : Dialogue) : Option Node :=
  dialogue.findNode? dialogue.startNode

def Condition.listToRecord (conditions : List Condition) : Value :=
  .list (conditions.map Condition.toRecord)

def Effect.listToRecord (effects : List Effect) : Value :=
  .list (effects.map Effect.toRecord)

def Choice.toRecord (choice : Choice) : Value :=
  .object [("id", choice.id), ("text", choice.text), ("next", choice.next),
    ("conditions", Condition.listToRecord choice.conditions),
    ("effects", Effect.listToRecord choice.effects)]

def Branch.toRecord (branch : Branch) : Value :=
  .object [("condition", branch.condition.toRecord), ("next", branch.next)]

def Node.toRecord (node : Node) : Value :=
  .object [("id", node.id), ("speaker", node.speaker), ("text", node.text),
    ("voice", node.voice), ("portrait", node.portrait),
    ("choices", .list (node.choices.map Choice.toRecord)),
    ("effects", Effect.listToRecord node.effects),
    ("conditional_next", .list (node.branches.map Branch.toRecord)), ("next", node.next)]

def Dialogue.toRecord (dialogue : Dialogue) : Value :=
  .object [("id", dialogue.id), ("start_node", dialogue.startNode),
    ("nodes", .list (dialogue.nodes.map Node.toRecord)),
    ("trigger_location", dialogue.triggerLocation),
    ("conditions", Condition.listToRecord dialogue.conditions)]

end Fabula
