import Fabula.Table
/-!
# Values

Content and saved states are authored as untyped data: absent values, truth values, numbers, texts,
lists and records. A record keeps its fields in order.
-/

namespace Fabula

inductive Value where
  | null
  | bool (b : Bool)
  | number (n : Number)
  | text (s : String)
  | list (items : List Value)
  | record (fields : List (Key × Value))
deriving Repr

namespace Value

instance : Inhabited Value := ⟨.null⟩

instance : Coe String Value := ⟨.text⟩

def int (n : Int) : Value :=
  .number (.int n)

def float (x : Float) : Value :=
  .number (.float x)

def object (fields : List (String × Value)) : Value :=
  .record (fields.map fun field => (.text field.1, field.2))

def ofTable (table : Table Value) : Value :=
  .record table.entries

def ofKey : Key → Value
  | .null => .null
  | .bool b => .bool b
  | .number n => .number n
  | .text s => .text s

def key? : Value → Option Key
  | .null => some .null
  | .bool b => some (.bool b)
  | .number n => some (.number n)
  | .text s => some (.text s)
  | .list _ => none
  | .record _ => none

@[simp] theorem key?_ofKey (key : Key) : (ofKey key).key? = some key := by
  cases key <;> rfl

def number? : Value → Option Number
  | .number n => some n
  | _ => none

/-- The number that a value counts as in arithmetic, where truth values are zero and one. -/
def arithmetic? : Value → Option Number
  | .number n => some n
  | .bool b => some (.int (if b then 1 else 0))
  | _ => none

def int? : Value → Option Int
  | .number (.int n) => some n
  | _ => none

def text? : Value → Option String
  | .text s => some s
  | _ => none

/-- Whether a value counts as present: everything but absence, `false`, zero and emptiness. -/
def isPresent : Value → Bool
  | .null => false
  | .bool b => b
  | .number n => !n.same (.int 0)
  | .text s => s != ""
  | .list items => !items.isEmpty
  | .record fields => !fields.isEmpty

def orElse (value other : Value) : Value :=
  if value.isPresent then value else other

mutual

/-- Whether two values are the same as items of a list: equal, or both no number. Numbers are
compared exactly and truth values count as zero and one; the order of a record's fields does not
matter. -/
def alike : Value → Value → Bool
  | .null, .null => true
  | .text a, .text b => a == b
  | .list as, .list bs => alikeItems as bs
  | .record as, .record bs => alikeFields as bs
  | .bool a, b => (arithmetic? b).any fun b => Number.alike (.int (if a then 1 else 0)) b
  | .number a, b => (arithmetic? b).any fun b => a.alike b
  | _, _ => false
termination_by structural value => value

def alikeItems : List Value → List Value → Bool
  | [], [] => true
  | a :: as, b :: bs => alike a b && alikeItems as bs
  | _, _ => false
termination_by structural values => values

/-- Whether every field has a counterpart among others, with none of those left. -/
def alikeFields : List (Key × Value) → List (Key × Value) → Bool
  | [], bs => bs.isEmpty
  | a :: as, bs => alikeField a bs && alikeFields as (bs.eraseP fun b => b.1.same a.1)
termination_by structural fields => fields

def alikeField : Key × Value → List (Key × Value) → Bool
  | (key, a), bs =>
    match (Table.mk bs).find? key with
    | some b => alike a b
    | none => false
termination_by structural field => field

end

def isNaN : Value → Bool
  | .number n => n.value == .nan
  | _ => false

/-- Whether two values are equal. What is no number equals nothing, but lists and records that hold
it are equal all the same. -/
def same (a b : Value) : Bool :=
  alike a b && !isNaN a

def memberOf (value : Value) (items : List Value) : Bool :=
  items.any fun item => item.alike value

@[simp] theorem alike_text (a b : String) : alike (.text a) (.text b) = (a == b) := by
  simp [alike]

@[simp] theorem same_text (a b : String) : same (.text a) (.text b) = (a == b) := by
  simp [same, isNaN]

end Value
end Fabula
