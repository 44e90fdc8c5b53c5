import Fabula.Script.Expression
/-!
# Fields of content records

Content is authored as records. Most fields have a default; some are required. Conditions and
effects are listed as expressions or as records.
-/

namespace Fabula

def Text.occursIn (part : List Char) : List Char → Bool
  | [] => part.isEmpty
  | c :: rest => part.isPrefixOf (c :: rest) || occursIn part rest

/-- A field that a record of a kind must have. Texts and lists are no records, and the question
whether they have the field is one of containment. The record is written into the message. -/
def Value.required (kind name : String) (data : Value) : Except Failure Value :=
  let missing := do throw (.content (.missing kind name (← data.writable)))
  match data with
  | .record fields =>
    match (Table.mk fields).find? name with
    | none | some .null | some (.text "") => missing
    | some value => .ok value
  | .text s => if Text.occursIn name.toList s.toList then .error .wrongKind else missing
  | .list items => if memberOf (.text name) items then .error .wrongKind else missing
  | _ => .error .wrongKind

def Failure.inContent : Failure → Failure
  | .unsuitable (.rule fault) => .content (.rule fault)
  | failure => failure

def Condition.ofAuthored : Value → Except Failure Condition
  | .text s => compile none s.toList
  | data => (ofRecord data).mapError Failure.inContent

def Effect.ofAuthored : Value → Except Failure Effect
  | .text s => compile none s.toList
  | data => (ofRecord data).mapError Failure.inContent

def Condition.listOfAuthored (data : Value) : Except Failure (List Condition) := do
  if data.isPresent then (← data.items).mapM ofAuthored else return []

def Effect.listOfAuthored (data : Value) : Except Failure (List Effect) := do
  if data.isPresent then (← data.items).mapM ofAuthored else return []

end Fabula
