import Fabula.Number.Basic
/-!
# Keys

A table is keyed by scalars. Two keys name the same entry if they are the same text, both absent,
or equal as numbers, where the truth values count as zero and one.
-/

namespace Fabula

inductive Key where
  | null
  | bool (b : Bool)
  | number (n : Number)
  | text (s : String)
deriving DecidableEq, Repr

namespace Key

instance : Inhabited Key := ⟨.null⟩

instance : Coe String Key := ⟨.text⟩

inductive Place where
  | null
  | number (value : Binary64.Extended)
  | text (s : String)
deriving DecidableEq, Repr

/-- The place of a key; keys with one place name one entry. -/
def place : Key → Place
  | .null => .null
  | .bool b => .number (.finite (if b then 1 else 0))
  | .number n => .number n.value
  | .text s => .text s

def same (a b : Key) : Bool :=
  a.place == b.place

@[simp] theorem same_iff {a b : Key} : a.same b ↔ a.place = b.place := by
  simp [same]

theorem same_text {a b : String} : (Key.text a).same (.text b) = (a == b) := by
  simp [same, place, BEq.beq]

end Key
end Fabula
