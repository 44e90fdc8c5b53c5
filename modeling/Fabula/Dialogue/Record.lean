import Fabula.Content.Field
import Fabula.Dialogue.Basic
/-!
# Dialogues from records

A compiled dialogue can be authored as a record. The branches of a node are read before the rest of
it, and the nodes of a dialogue before its id.
-/

namespace Fabula

def Choice.ofRecord (data : Value) : Except Failure Choice := do
  let id ← data.required "Choice" "id"
  let fields ← data.fields
  return {
    id
    text := fields.getD "text" ""
    next := (fields.getOrNull "next").orElse ""
    conditions := ← Condition.listOfAuthored (fields.getOrNull "conditions")
    effects := ← Effect.listOfAuthored (fields.getOrNull "effects") }

def Branch.ofRecord (data : Value) : Except Failure Branch := do
  let condition ← Condition.ofAuthored (← data.member "condition")
  return { condition, next := ← data.member "next" }

def Node.ofRecord (data : Value) : Except Failure Node := do
  let fields ← data.fields
  let branches ← (← (fields.getD "conditional_next" (.list [])).items).mapM Branch.ofRecord
  let id ← data.required "Dialogue node" "id"
  let choices ← (← (fields.getD "choices" (.list [])).items).mapM Choice.ofRecord
  let effects ← Effect.listOfAuthored (fields.getOrNull "effects")
  return {
    id
    speaker := fields.getOrNull "speaker"
    text := fields.getD "text" ""
    voice := fields.getOrNull "voice"
    portrait := fields.getOrNull "portrait"
    choices
    effects
    branches
    next := fields.getOrNull "next" }

def Dialogue.defaultStart : List Node → Value
  | [] => ""
  | first :: _ => first.id

def Dialogue.ofRecord (data : Value) : Except Failure Dialogue := do
  let fields ← data.fields
  let nodes ← (← (fields.getD "nodes" (.list [])).items).mapM Node.ofRecord
  let id ← data.required "Dialogue" "id"
  let conditions ← Condition.listOfAuthored (fields.getOrNull "conditions")
  return {
    id
    startNode := (fields.getOrNull "start_node").orElse (defaultStart nodes)
    nodes
    triggerLocation := fields.getOrNull "trigger_location"
    conditions }

end Fabula
