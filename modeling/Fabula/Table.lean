import Fabula.Key
/-!
# Tables

A table keeps its entries in the order in which their keys were first stored. Storing under a key
that is already there replaces the value and keeps the place. Main statements:

* `find?_insert_self`: what is stored is found;
* `find?_insert_of_ne`: other keys are not affected;
* `keys_insert_of_mem`: storing under a known key keeps the keys and their order.
-/

namespace Fabula

structure Table (α : Type) where
  entries : List (Key × α)
deriving DecidableEq, Repr

namespace Table
variable {α β : Type}

instance : Inhabited (Table α) := ⟨⟨[]⟩⟩

instance : EmptyCollection (Table α) := ⟨⟨[]⟩⟩

def size (table : Table α) : Nat :=
  table.entries.length

def keys (table : Table α) : List Key :=
  table.entries.map (·.1)

def values (table : Table α) : List α :=
  table.entries.map (·.2)

def find? (table : Table α) (key : Key) : Option α :=
  (table.entries.find? fun entry => entry.1.same key).map (·.2)

def contains (table : Table α) (key : Key) : Bool :=
  (table.find? key).isSome

def insertEntry (key : Key) (value : α) : List (Key × α) → List (Key × α)
  | [] => [(key, value)]
  | (other, old) :: rest =>
    if other.same key then (other, value) :: rest else (other, old) :: insertEntry key value rest

def insert (table : Table α) (key : Key) (value : α) : Table α :=
  ⟨insertEntry key value table.entries⟩

def ofList (entries : List (Key × α)) : Table α :=
  entries.foldl (fun table entry => table.insert entry.1 entry.2) ∅

def map (f : α → β) (table : Table α) : Table β :=
  ⟨table.entries.map fun entry => (entry.1, f entry.2)⟩

def mapM {ε : Type} (f : α → Except ε β) (table : Table α) : Except ε (Table β) := do
  return ⟨← table.entries.mapM fun entry => do return (entry.1, ← f entry.2)⟩

theorem find?_insertEntry_self (key : Key) (value : α) (entries : List (Key × α)) :
    ((insertEntry key value entries).find? fun entry => entry.1.same key).map (·.2) =
      some value := by
  induction entries with
  | nil => simp [insertEntry, Key.same]
  | cons entry rest ih =>
    obtain ⟨other, old⟩ := entry
    by_cases h : other.same key
    · simp [insertEntry, h]
    · simpa [insertEntry, h] using ih

@[simp] theorem find?_insert_self (table : Table α) (key : Key) (value : α) :
    (table.insert key value).find? key = some value :=
  find?_insertEntry_self key value table.entries

theorem find?_insertEntry_of_ne {key other : Key} (value : α) (entries : List (Key × α))
    (h : ¬ key.same other) :
    ((insertEntry key value entries).find? fun entry => entry.1.same other) =
      entries.find? fun entry => entry.1.same other := by
  induction entries with
  | nil => simp [insertEntry, h]
  | cons entry rest ih =>
    obtain ⟨label, old⟩ := entry
    by_cases hl : label.same key
    · have hn : ¬ label.same other := by
        rw [Key.same_iff] at *
        exact fun e => h (hl ▸ e)
      simp [insertEntry, hl, hn]
    · by_cases ho : label.same other <;> simp_all [insertEntry]

theorem find?_insert_of_ne (table : Table α) {key other : Key} (value : α)
    (h : ¬ key.same other) : (table.insert key value).find? other = table.find? other := by
  simp only [find?, insert]
  rw [find?_insertEntry_of_ne value table.entries h]

theorem map_insertEntry_of_mem (key : Key) (value : α) (entries : List (Key × α))
    (h : entries.any fun entry => entry.1.same key) :
    (insertEntry key value entries).map (·.1) = entries.map (·.1) := by
  induction entries with
  | nil => simp at h
  | cons entry rest ih =>
    obtain ⟨label, old⟩ := entry
    by_cases hl : label.same key
    · simp [insertEntry, hl]
    · simp only [List.any_cons, Bool.or_eq_true] at h
      simp [insertEntry, hl, ih (h.resolve_left hl)]

theorem keys_insert_of_mem (table : Table α) (key : Key) (value : α)
    (h : table.contains key) : (table.insert key value).keys = table.keys := by
  refine map_insertEntry_of_mem key value table.entries ?_
  simp only [contains, find?, Option.isSome_map, List.find?_isSome] at h
  obtain ⟨entry, member, found⟩ := h
  exact List.any_eq_true.mpr ⟨entry, member, found⟩

@[simp] theorem keys_map (f : α → β) (table : Table α) : (table.map f).keys = table.keys := by
  simp [keys, map]

end Table
end Fabula
