import Fabula.Table
/-!
# Filling tables

What a table has after one entry has been stored, and after many have been stored one after the
other. Main statements:

* `find?_insert`, `contains_insert`: what is found after one entry has been stored;
* `keys_ofList`: the keys keep the order in which they came first;
* `find?_ofList`: what was stored last under a key is what is found.
-/

namespace Fabula.Table
variable {α : Type}

theorem find?_insert (table : Table α) (key other : Key) (value : α) :
    (table.insert key value).find? other =
      if key.same other then some value else table.find? other := by
  split
  · next same =>
    have alike : (fun entry : Key × α => entry.1.same other) = fun entry => entry.1.same key := by
      funext entry
      rw [Key.same, Key.same, Key.same_iff.mp same]
    rw [← find?_insert_self table key value, find?, find?, alike]
  · next other => exact find?_insert_of_ne table value other

theorem contains_insert (table : Table α) (key other : Key) (value : α) :
    (table.insert key value).contains other = (key.same other || table.contains other) := by
  rw [contains, find?_insert]
  split
  · next same => simp [same]
  · next other => simp [other, contains]

theorem contains_iff {table : Table α} {key : Key} :
    table.contains key ↔ key.place ∈ table.entries.map (·.1.place) := by
  simp only [contains, find?, Option.isSome_map, List.find?_isSome, Key.same_iff, List.mem_map]

theorem insertEntry_of_new (key : Key) (value : α) (entries : List (Key × α))
    (new : key.place ∉ entries.map (·.1.place)) :
    insertEntry key value entries = entries ++ [(key, value)] := by
  induction entries with
  | nil => rfl
  | cons first rest ih =>
    obtain ⟨label, old⟩ := first
    simp only [List.map_cons, List.mem_cons, not_or] at new
    have other : ¬ label.same key := fun same => new.1 (Key.same_iff.mp same).symm
    simp [insertEntry, other, ih new.2]

theorem keys_insert_of_new {table : Table α} {key : Key} (value : α) (new : ¬ table.contains key) :
    (table.insert key value).keys = table.keys ++ [key] := by
  rw [contains_iff] at new
  simp [keys, insert, insertEntry_of_new key value table.entries new]

theorem insert_of_find? {table : Table α} {key : Key} {value : α}
    (stored : table.find? key = some value) : table.insert key value = table := by
  obtain ⟨entries⟩ := table
  suffices same : insertEntry key value entries = entries by rw [insert, same]
  simp only [find?] at stored
  induction entries with
  | nil => simp at stored
  | cons entry rest ih =>
    obtain ⟨label, old⟩ := entry
    by_cases same : label.same key
    · simp only [List.find?_cons, same, Option.map_some, Option.some.injEq] at stored
      simp [insertEntry, same, stored]
    · simp only [List.find?_cons, same] at stored
      simp [insertEntry, same, ih stored]

theorem insert_insert (table : Table α) (key : Key) (first last : α) :
    (table.insert key first).insert key last = table.insert key last := by
  obtain ⟨entries⟩ := table
  suffices same : insertEntry key last (insertEntry key first entries) =
      insertEntry key last entries by simp only [insert, same]
  induction entries with
  | nil => simp [insertEntry, Key.same]
  | cons entry rest ih =>
    obtain ⟨label, old⟩ := entry
    by_cases same : label.same key <;> simp [insertEntry, same, ih]

theorem keys_foldl_insert (stored : List (Key × α)) (table : Table α) :
    (stored.foldl (fun table entry => table.insert entry.1 entry.2) table).keys = table.keys ++
      ((stored.map (·.1)).filter fun key => !table.contains key).eraseDupsBy Key.same := by
  induction stored generalizing table with
  | nil => simp
  | cons entry rest ih =>
    obtain ⟨key, value⟩ := entry
    have later (other : Key) : (!(table.insert key value).contains other) =
        (!other.same key && !table.contains other) := by
      rw [contains_insert, Bool.not_or, Key.same, Key.same, BEq.comm]
    simp only [List.foldl_cons, ih, later, List.map_cons]
    by_cases known : table.contains key
    · -- A key that names a known entry is known itself.
      have same (other : Key) : (!other.same key && !table.contains other) =
          !table.contains other := by
        cases alike : other.same key with
        | false => rfl
        | true =>
          rw [contains_iff] at known
          have stored : table.contains other := by
            rw [contains_iff, Key.same_iff.mp alike]
            exact known
          rw [stored]
          rfl
      simp only [keys_insert_of_mem table key value known, same, List.filter_cons, known,
        Bool.not_true, Bool.false_eq_true, if_false]
    · simp only [keys_insert_of_new value known, List.filter_cons, known, Bool.not_false, if_true,
        List.eraseDupsBy_cons, List.filter_filter, List.append_assoc, List.singleton_append]
      simp only [Bool.decide_eq_false]

theorem keys_ofList (stored : List (Key × α)) :
    (ofList stored).keys = (stored.map (·.1)).eraseDupsBy Key.same := by
  have all : ((stored.map (·.1)).filter fun key => !(∅ : Table α).contains key) =
      stored.map (·.1) :=
    List.filter_eq_self.mpr fun _ _ => rfl
  rw [ofList, keys_foldl_insert, all]
  rfl

theorem find?_foldl_insert (stored : List (Key × α)) (table : Table α) (key : Key) :
    (stored.foldl (fun table entry => table.insert entry.1 entry.2) table).find? key =
      ((Table.mk stored.reverse).find? key).or (table.find? key) := by
  induction stored generalizing table with
  | nil => rfl
  | cons entry rest ih =>
    rw [List.foldl_cons, ih, find?_insert]
    simp only [find?, List.reverse_cons, List.find?_append, List.find?_singleton]
    cases (rest.reverse.find? fun entry => entry.1.same key) with
    | some found => rfl
    | none => by_cases same : entry.1.same key <;> simp [same]

theorem find?_ofList (stored : List (Key × α)) (key : Key) :
    (ofList stored).find? key = (Table.mk stored.reverse).find? key := by
  rw [ofList, find?_foldl_insert]
  exact Option.or_none

end Fabula.Table
