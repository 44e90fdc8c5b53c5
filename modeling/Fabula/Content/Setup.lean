import Fabula.Content.Field
import Fabula.State.Clock
/-!
# Starting conditions

Where, when and with what a new session starts.
-/

namespace Fabula

structure Setup where
  location : Value
  time : Clock
  flags : Table Value
  bindings : Table Value
  inventory : List Value
deriving Repr

namespace Setup

def ofRecord (data : Value) : Except Failure Setup := do
  let location ← data.required "Game config" "start_location"
  let fields ← data.fields
  return {
    location
    time := ← Clock.ofRecord (fields.getD "start_time" (.record []))
    flags := ← (fields.getD "start_flags" (.record [])).table
    bindings := ← (fields.getD "start_variables" (.record [])).table
    inventory := ← (fields.getD "start_inventory" (.list [])).items }

def toRecord (setup : Setup) : Value :=
  .object [("start_location", setup.location), ("start_time", setup.time.toRecord),
    ("start_flags", .ofTable setup.flags), ("start_variables", .ofTable setup.bindings),
    ("start_inventory", .list setup.inventory)]

end Setup
end Fabula
