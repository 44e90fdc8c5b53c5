import Fabula.Failure
import Mathlib.Data.List.Forall2
/-!
# Reading in order

A reader goes through items in order and adds what each of them means to a draft, if the draft
admits it. What one step does, a run does item by item. Main statements:

* `foldlM_eq_ok`, `foldlM_eq_made`: what a run of a reader reads and makes;
* `admitted_once`, `admitted_apart`: what is admitted at most once, and what must differ from all
  that was there before.
-/

namespace Fabula.Script
variable {α β ι κ σ τ : Type}

theorem bind_eq_ok {first : Except Failure α} {next : α → Except Failure β}
    {b : β} : (first >>= next) = .ok b ↔ ∃ a, first = .ok a ∧ next a = .ok b := by
  cases first with
  | ok a => simp [bind, Except.bind]
  | error failure => simp [bind, Except.bind]

theorem pure_eq_ok {a b : α} :
    (pure a : Except Failure α) = .ok b ↔ a = b := by
  simp [pure, Except.pure]

def Admitted (admits : σ → κ → Prop) (add : σ → κ → σ) : σ → List κ → Prop
  | _, [] => True
  | draft, clause :: rest => admits draft clause ∧ Admitted admits add (add draft clause) rest

section Drafts
variable {admits others : σ → κ → Prop} {add : σ → κ → σ}

theorem foldlM_eq_ok {read : σ → ι → Except Failure σ} {means : ι → κ → Prop} {items : List ι}
    (step : ∀ item ∈ items, ∀ draft next, read draft item = .ok next ↔
      ∃ clause, means item clause ∧ admits draft clause ∧ add draft clause = next)
    (draft last : σ) : items.foldlM read draft = .ok last ↔ ∃ clauses,
      List.Forall₂ means items clauses ∧ Admitted admits add draft clauses ∧
        clauses.foldl add draft = last := by
  induction items generalizing draft with
  | nil => simp [Admitted, pure_eq_ok]
  | cons item rest ih =>
    have first := step item List.mem_cons_self
    have below := ih fun other listed => step other (List.mem_cons_of_mem _ listed)
    rw [List.foldlM_cons, bind_eq_ok]
    constructor
    · rintro ⟨next, reads, readsRest⟩
      obtain ⟨clause, meant, admitted, rfl⟩ := (first draft next).mp reads
      obtain ⟨clauses, meantRest, admittedRest, added⟩ := (below _).mp readsRest
      exact ⟨clause :: clauses, .cons meant meantRest, ⟨admitted, admittedRest⟩, added⟩
    · rintro ⟨_, meant, admitted, added⟩
      cases meant with
      | @cons _ clause _ clauses meant meantRest =>
        refine ⟨add draft clause, (first draft _).mpr ⟨clause, meant, admitted.1, rfl⟩, ?_⟩
        exact (below _).mpr ⟨clauses, meantRest, admitted.2, added⟩

theorem admitted_and (draft : σ) (clauses : List κ) :
    Admitted (fun draft clause => admits draft clause ∧ others draft clause) add draft clauses ↔
      Admitted admits add draft clauses ∧ Admitted others add draft clauses := by
  induction clauses generalizing draft with
  | nil => simp [Admitted]
  | cons clause rest ih => simp only [Admitted, ih, and_and_and_comm]

theorem admitted_once {mark? : κ → Option τ} (marked : σ → Bool)
    (tracks : ∀ draft clause, marked (add draft clause) = (marked draft || (mark? clause).isSome))
    {draft : σ} (unmarked : marked draft = false) (clauses : List κ) :
    Admitted (fun draft clause => (mark? clause).isSome → marked draft = false) add draft clauses ↔
      (clauses.filterMap mark?).length ≤ 1 := by
  -- Over all drafts, a mark that is set already counts as one.
  have counts (draft : σ) : Admitted (fun draft clause => (mark? clause).isSome →
      marked draft = false) add draft clauses ↔
        (clauses.filterMap mark?).length + (marked draft).toNat ≤ 1 := by
    induction clauses generalizing draft with
    | nil => cases marked draft <;> simp [Admitted]
    | cons clause rest ih =>
      simp only [Admitted, ih, tracks]
      cases mark : mark? clause <;> cases before : marked draft <;> simp [mark]
  simpa [unmarked] using counts draft

theorem admitted_apart {pick? : κ → Option τ} (listed : σ → List τ) {apart : τ → τ → Prop}
    (tracks : ∀ draft clause, listed (add draft clause) = listed draft ++ (pick? clause).toList)
    {draft : σ} (empty : listed draft = []) (clauses : List κ) :
    Admitted (fun draft clause => ∀ entry, pick? clause = some entry →
      ∀ other ∈ listed draft, apart other entry) add draft clauses ↔
        (clauses.filterMap pick?).Pairwise apart := by
  have pairs (draft : σ) : (listed draft).Pairwise apart ∧ Admitted (fun draft clause =>
      ∀ entry, pick? clause = some entry → ∀ other ∈ listed draft, apart other entry) add draft
        clauses ↔ (listed draft ++ clauses.filterMap pick?).Pairwise apart := by
    induction clauses generalizing draft with
    | nil => simp [Admitted]
    | cons clause rest ih =>
      have below := ih (add draft clause)
      rw [tracks] at below
      cases entry : pick? clause with
      | none =>
        simp only [entry, Option.toList_none, List.append_nil] at below
        simpa [Admitted, entry] using below
      | some value =>
        simp only [entry, Option.toList_some, List.append_assoc, List.singleton_append] at below
        simp only [Admitted, entry, List.filterMap_cons, ← below, List.pairwise_append]
        simp [and_assoc]
  simpa [empty] using pairs draft

theorem foldlM_eq_made {read : σ → ι → Except Failure σ} {means : ι → κ → Prop} {items : List ι}
    (made : List κ → σ)
    (extend : ∀ clauses clause, add (made clauses) clause = made (clauses ++ [clause]))
    (step : ∀ item ∈ items, ∀ draft next, read draft item = .ok next ↔
      ∃ clause, means item clause ∧ admits draft clause ∧ add draft clause = next)
    (last : σ) : items.foldlM read (made []) = .ok last ↔ ∃ clauses,
      List.Forall₂ means items clauses ∧ Admitted admits add (made []) clauses ∧
        made clauses = last := by
  have adds (before clauses : List κ) :
      clauses.foldl add (made before) = made (before ++ clauses) := by
    induction clauses generalizing before with
    | nil => simp
    | cons clause rest ih =>
      rw [List.foldl_cons, extend, ih, List.append_assoc, List.singleton_append]
  simp only [foldlM_eq_ok step, adds, List.nil_append]

theorem foldlM_eq_once {read : σ → ι → Except Failure σ} {means : ι → κ → Prop} {items : List ι}
    (made : List κ → σ) (mark? : κ → Option τ) (marked : σ → Bool)
    (extend : ∀ clauses clause, add (made clauses) clause = made (clauses ++ [clause]))
    (tracks : ∀ draft clause, marked (add draft clause) = (marked draft || (mark? clause).isSome))
    (unmarked : marked (made []) = false)
    (step : ∀ item draft next, read draft item = .ok next ↔ ∃ clause, means item clause ∧
      ((mark? clause).isSome → marked draft = false) ∧ add draft clause = next)
    (last : σ) : items.foldlM read (made []) = .ok last ↔ ∃ clauses,
      List.Forall₂ means items clauses ∧ (clauses.filterMap mark?).length ≤ 1 ∧
        made clauses = last := by
  have run := foldlM_eq_made made extend (fun item (_ : item ∈ items) => step item) last
  simpa only [admitted_once marked tracks unmarked] using run

end Drafts

theorem filterMap_concat (f : α → Option β) (items : List α) (item : α) :
    (items ++ [item]).filterMap f = items.filterMap f ++ (f item).toList := by
  cases found : f item <;> simp [found]

theorem exists_of_mem {relates : α → β → Prop} {items : List α} {others : List β}
    (related : List.Forall₂ relates items others) {other : β} (listed : other ∈ others) :
    ∃ item ∈ items, relates item other := by
  induction related with
  | nil => cases listed
  | cons first _ ih =>
    rcases List.mem_cons.mp listed with rfl | listed
    · exact ⟨_, List.mem_cons_self, first⟩
    · obtain ⟨item, member, relates⟩ := ih listed
      exact ⟨item, List.mem_cons_of_mem _ member, relates⟩

end Fabula.Script
