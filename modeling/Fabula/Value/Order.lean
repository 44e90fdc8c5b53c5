import Fabula.Value.Reading
/-!
# The order of values

Texts are ordered by their characters, numbers and truth values as numbers, and lists by the first
items in which they differ. Values of different kinds have no order.
-/

namespace Fabula.Value

mutual

def after : Value → Value → Except Failure Bool
  | .text a, .text b => .ok (decide (b < a))
  | .list as, .list bs => afterItems as bs
  | a, b => do
    let (a, b) ← a.operands b
    return b.lt a
termination_by structural value => value

def afterItems : List Value → List Value → Except Failure Bool
  | [], _ => .ok false
  | _ :: _, [] => .ok true
  | a :: as, b :: bs => if a.alike b then afterItems as bs else after a b
termination_by structural values => values

end

def sorted (values : List Value) : Except Failure (List Value) :=
  let texts := values.filterMap text?
  let numbers := values.filter fun value => value.arithmetic?.isSome
  if texts.length == values.length then
    .ok ((texts.mergeSort fun a b => decide (a ≤ b)).map text)
  else if numbers.length == values.length then
    .ok (numbers.mergeSort fun a b =>
      (a.arithmetic?.getD default).le (b.arithmetic?.getD default))
  else if values.length ≤ 1 then .ok values
  else .error .wrongKind

end Fabula.Value
