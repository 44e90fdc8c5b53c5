import Fabula.Json.Reader
import Fabula.Json.Writer
import Fabula.State.Basic
/-!
# Saves

A save is a state with a format version and a timestamp. Saves are read from records and from JSON;
whatever keeps the state inside from being read is reported as a fault of the save.
-/

namespace Fabula

structure Save where
  version : Value
  state : GameState
  timestamp : Value
deriving Repr

namespace Save

def kindName : Value → String
  | .null => "NoneType"
  | .bool _ => "bool"
  | .number (.int _) => "int"
  | .number (.float _) => "float"
  | .text _ => "str"
  | .list _ => "list"
  | .record _ => "dict"

def faultOf : Failure → Failure
  | .missingKey key => .save (.malformed (.missingKey key))
  | .wrongKind => .save (.malformed .wrongKind)
  | .unsuitable _ => .save (.malformed .unsuitable)
  | failure => failure

def ofRecord (now : String) (data : Value) : Except Failure Save := do
  let .record fields := data | throw (.save (.notARecord (kindName data)))
  let fields := Table.mk fields
  let .record state := fields.getOrNull "state" | throw (.save .noState)
  let version ← (fields.getD "version" "").write
  return {
    version
    state := ← (GameState.ofRecord (.record state)).mapError faultOf
    timestamp := (fields.getOrNull "timestamp").orElse now }

def toRecord (save : Save) : Value :=
  .object [("version", save.version), ("timestamp", save.timestamp),
    ("state", save.state.toRecord)]

/-- The save that a JSON text holds. A numeral with too many digits is not reported as a fault of
the save. -/
def ofJson (now text : String) : Except Failure Save :=
  match Json.read text with
  | .ok data => ofRecord now data
  | .error .malformed => .error (.save .notJson)
  | .error (.number fault) => .error (.ofNumber fault)

def toJson (indent : Value) (save : Save) : Except Failure String := do
  return Json.write ⟨← Json.indentOf indent, false⟩ (← save.toRecord.writable)

end Save
end Fabula
