import Fabula.Value.Reading
/-!
# The clock

Time is a day and an hour of the day. Both are unchecked values, because they are authored or come
from a save; advancing the clock computes with them as numbers.
-/

namespace Fabula

structure Clock where
  day : Value
  hour : Value
deriving Repr

namespace Clock

def hoursPerDay : Nat := 24

def start : Clock := ⟨.int 1, .int 0⟩

/-- The clock after some hours. Whole hours stay whole numbers, and days are always whole. -/
def advance (clock : Clock) (hours : Value) : Except Failure Clock := do
  let total ← clock.hour.sum hours
  let (days, hour) := total.divMod hoursPerDay
  let day ← clock.day.sum (.number days)
  return ⟨.int (← day.truncate), .number hour.collapse⟩

def same (a b : Clock) : Bool :=
  a.day.alike b.day && a.hour.alike b.hour

def text (clock : Clock) : Except Failure String := do
  return "Day " ++ (← clock.day.write) ++ ", " ++ (← clock.hour.write) ++ ":00"

def ofRecord (data : Value) : Except Failure Clock := do
  let fields ← data.fields
  return ⟨fields.getD "day" start.day, fields.getD "hour" start.hour⟩

def toRecord (clock : Clock) : Value :=
  .object [("day", clock.day), ("hour", clock.hour)]

end Clock
end Fabula
