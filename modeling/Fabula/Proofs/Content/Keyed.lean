import Fabula.Proofs.Content.Named
import Fabula.Proofs.Table
/-!
# Content is stored under its own ids

Every collection of a registry stores its entries under their own ids, and no two of its keys name
one entry. So whatever a table of dialogues holds is found under its own id. Main statements:

* `Table.Keyed.insert`: storing under the own id keeps a table so;
* `registry_ofRecord_keyed`: every dialogue of a registry is found under its own id.
-/

namespace Fabula
variable {α : Type} {id : α → Value}

namespace Table

structure Keyed (id : α → Value) (table : Table α) : Prop where
  distinct : (table.entries.map (·.1.place)).Nodup
  own : ∀ entry ∈ table.entries, ∃ key, (id entry.2).key = .ok key ∧ key.place = entry.1.place

theorem Keyed.empty : Keyed id (∅ : Table α) :=
  ⟨List.nodup_nil, fun entry member => by cases member⟩

theorem place_of_mem_insertEntry {key : Key} {value : α} {entries : List (Key × α)}
    {entry : Key × α} (member : entry ∈ insertEntry key value entries) :
    entry.2 = value ∧ entry.1.place = key.place ∨ entry ∈ entries := by
  induction entries with
  | nil =>
    cases List.mem_singleton.mp member
    exact .inl ⟨rfl, rfl⟩
  | cons first rest ih =>
    simp only [insertEntry] at member
    split at member
    · next same =>
      rcases List.mem_cons.mp member with rfl | member
      · exact .inl ⟨rfl, Key.same_iff.mp same⟩
      · exact .inr (List.mem_cons_of_mem _ member)
    · rcases List.mem_cons.mp member with rfl | member
      · exact .inr List.mem_cons_self
      · exact (ih member).imp id (List.mem_cons_of_mem _)

theorem find?_of_distinct {key : Key} {entry : Key × α} {entries : List (Key × α)}
    (distinct : (entries.map (·.1.place)).Nodup) (member : entry ∈ entries)
    (same : key.place = entry.1.place) :
    (entries.find? fun other => other.1.same key) = some entry := by
  induction entries with
  | nil => cases member
  | cons first rest ih =>
    obtain ⟨new, distinct⟩ := List.nodup_cons.mp distinct
    rcases List.mem_cons.mp member with rfl | member
    · exact List.find?_cons_of_pos (Key.same_iff.mpr same.symm)
    · have other : ¬ first.1.same key := by
        intro found
        refine new (List.mem_map.mpr ⟨entry, member, ?_⟩)
        rw [← same, ← Key.same_iff.mp found]
      rw [List.find?_cons, Bool.eq_false_iff.mpr other]
      exact ih distinct member

namespace Keyed

theorem insert {table : Table α} (keyed : Keyed id table) {key : Key} {value : α}
    (own : (id value).key = .ok key) : Keyed id (table.insert key value) where
  distinct := by
    by_cases known : key.place ∈ table.entries.map (·.1.place)
    · have some : table.entries.any fun entry => entry.1.same key := by
        obtain ⟨entry, member, same⟩ := List.mem_map.mp known
        exact List.any_eq_true.mpr ⟨entry, member, Key.same_iff.mpr same⟩
      have keys := map_insertEntry_of_mem key value table.entries some
      have places := congrArg (List.map Key.place) keys
      simp only [List.map_map] at places
      exact places ▸ keyed.distinct
    · rw [Table.insert, insertEntry_of_new key value table.entries known, List.map_append]
      refine List.nodup_append.mpr ⟨keyed.distinct, List.pairwise_singleton _ _, ?_⟩
      intro place listed other new same
      rw [List.mem_singleton.mp new] at same
      rw [same] at listed
      exact known listed
  own entry member := by
    rcases place_of_mem_insertEntry member with ⟨same, place⟩ | member
    · exact ⟨key, by rw [same, own], place.symm⟩
    · exact keyed.own entry member

theorem lookup {table : Table α} (keyed : Keyed id table) {value : α}
    (member : value ∈ table.values) : table.lookup (id value) = .ok (some value) := by
  obtain ⟨entry, stored, rfl⟩ := List.mem_map.mp member
  obtain ⟨key, read, same⟩ := keyed.own entry stored
  have found := find?_of_distinct keyed.distinct stored same
  simp [Table.lookup, read, find?, found, bind, Except.bind, pure, Except.pure]

end Keyed

end Table

def Registry.Keyed (registry : Registry) : Prop :=
  registry.dialogues.Keyed Dialogue.id

theorem registry_ofRecord_keyed (content : Value) :
    Returns Registry.Keyed (Registry.ofRecord content) := by
  simp only [Registry.ofRecord, returns_bind, returns_pure]
  intro _ _ _ _ dialogues read _ _ _ _ _ _ _ _ _ _ _ _ _ _ _ _ _ _
  refine returns_foldlM (P := Table.Keyed Dialogue.id) ?_ _ ∅ .empty dialogues read
  rintro table ⟨key, entry⟩ keyed
  simp only [Registry.store, returns_bind, returns_pure]
  intro dialogue _ key own
  exact keyed.insert own

end Fabula
