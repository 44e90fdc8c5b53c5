import Fabula.Failure
/-!
# Reading values

The parts of untyped data that records are read from: fields with and without defaults, the items
of anything that can be listed, and tables given as records or as lists of pairs. Beside them stand
the other questions to a value that can fail: its text and arithmetic with it.
-/

namespace Fabula.Value

def fields : Value → Except Failure (Table Value)
  | .record fields => .ok ⟨fields⟩
  | _ => .error .noParts

def member (value : Value) (name : String) : Except Failure Value :=
  match value with
  | .record fields =>
    match (Table.mk fields).find? name with
    | some found => .ok found
    | none => .error (.missingKey name)
  | _ => .error .wrongKind

def ofChar (c : Char) : Value :=
  .text (String.singleton c)

/-- The items of a value: those of a list, the characters of a text, the keys of a record. -/
def items : Value → Except Failure (List Value)
  | .list items => .ok items
  | .text s => .ok (s.toList.map ofChar)
  | .record fields => .ok (fields.map fun field => ofKey field.1)
  | _ => .error .wrongKind

def key (value : Value) : Except Failure Key :=
  match value.key? with
  | some key => .ok key
  | none => .error .wrongKind

def pair (index : Nat) (value : Value) : Except Failure (Key × Value) := do
  match ← value.items with
  | [label, content] => return (← label.key, content)
  | others => throw (.unsuitable (.pairLength index others.length))

def table (value : Value) : Except Failure (Table Value) :=
  match value with
  | .record fields => .ok ⟨fields⟩
  | _ => do
    let pairs ← (← value.items).zipIdx.mapM fun (item, index) => item.pair index
    return .ofList pairs

def writable (value : Value) : Except Failure Value :=
  if value.isWritable then .ok value else .error (.unsuitable .unwritable)

def write (value : Value) : Except Failure String :=
  display <$> value.writable

def writeQuoted (value : Value) : Except Failure String :=
  quoted <$> value.writable

def operands (a b : Value) : Except Failure (Number × Number) :=
  match a.arithmetic?, b.arithmetic? with
  | some a, some b => .ok (a, b)
  | _, _ => .error .wrongKind

def sum (a b : Value) : Except Failure Number := do
  let (a, b) ← a.operands b
  return ← a.add b

def difference (a b : Value) : Except Failure Number := do
  let (a, b) ← a.operands b
  return ← a.sub b

end Fabula.Value

namespace Fabula

def Table.getD (table : Table Value) (name : String) (default : Value) : Value :=
  (table.find? name).getD default

def Table.getOrNull (table : Table Value) (name : String) : Value :=
  table.getD name .null

def Table.lookup {α : Type} (table : Table α) (value : Value) : Except Failure (Option α) := do
  return table.find? (← value.key)

end Fabula
