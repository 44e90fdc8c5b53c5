import Fabula.Proofs.Content.Named
import Fabula.Proofs.Outcome
/-!
# Sound computations

A computation that keeps something is sound if it keeps an invariant of it, returned or failed, if
it fails for nothing but reasons of a kind, and if what it returns has a property. The rules follow
the ways in which computations are put together, so the lemma of a function follows from those of
the functions that it calls.
-/

namespace Fabula
variable {σ α β : Type} {I : σ → Prop} {P : Failure → Prop} {Q R : α → Prop}

structure Sound (I : σ → Prop) (P : Failure → Prop) (R : α → Prop)
    (computation : EStateM Failure σ α) : Prop where
  keeps : ∀ start, I start → I (outcome computation start).2
  fails : ∀ start, I start → FailsOnly P (outcome computation start).1
  returns : ∀ start, I start → Returns R (outcome computation start).1

namespace Sound

theorem lift {result : Except Failure α} (fails : FailsOnly P result)
    (returns : Returns R result) : Sound I P R (liftM result : EStateM Failure σ α) where
  keeps start holds := by rwa [outcome_lift]
  fails start _ := by rwa [outcome_lift]
  returns start _ := by rwa [outcome_lift]

theorem pure {a : α} (holds : R a) : Sound I P R (pure a) :=
  show Sound I P R (liftM (Except.ok a : Except Failure α)) from
    .lift (failsOnly_ok a) ((returns_ok a).mpr holds)

theorem bind {first : EStateM Failure σ α} {next : α → EStateM Failure σ β} {R : β → Prop}
    (sound : Sound I P Q first) (rest : ∀ a, Q a → Sound I P R (next a)) :
    Sound I P R (first >>= next) := by
  have step (start : σ) (holds : I start) : I (outcome (first >>= next) start).2 ∧
      FailsOnly P (outcome (first >>= next) start).1 ∧
      Returns R (outcome (first >>= next) start).1 := by
    have kept := sound.keeps start holds
    cases answer : (outcome first start).1 with
    | error failure =>
      have reason : P failure := sound.fails start holds failure answer
      rw [outcome_bind_of_error answer]
      exact ⟨kept, (failsOnly_error failure).mpr reason, returns_error failure⟩
    | ok a =>
      have late := rest a (sound.returns start holds a answer)
      rw [outcome_bind_of_ok answer]
      exact ⟨late.keeps _ kept, late.fails _ kept, late.returns _ kept⟩
  exact ⟨fun start holds => (step start holds).1, fun start holds => (step start holds).2.1,
    fun start holds => (step start holds).2.2⟩

theorem imp {computation : EStateM Failure σ α} (sound : Sound I P Q computation)
    (implies : ∀ a, Q a → R a) : Sound I P R computation where
  keeps := sound.keeps
  fails := sound.fails
  returns start holds a answer := implies a (sound.returns start holds a answer)

theorem get {I : σ → Prop} : Sound I P I (MonadState.get : EStateM Failure σ σ) where
  keeps _ holds := holds
  fails _ _ := failsOnly_ok _
  returns start holds := (returns_ok start).mpr holds

theorem modify {change : σ → σ} (keeps : ∀ start, I start → I (change start)) :
    Sound I P (fun _ => True) (modify change : EStateM Failure σ Unit) where
  keeps := keeps
  fails _ _ := failsOnly_ok _
  returns _ _ _ _ := trivial

theorem findM? {items : List α} {check : α → EStateM Failure σ Bool}
    (each : ∀ item ∈ items, Sound I P (fun _ => True) (check item)) :
    Sound I P (fun found => ∀ item, found = some item → item ∈ items)
      (items.findM? check) := by
  induction items with
  | nil => exact .pure fun item found => by cases found
  | cons item rest ih =>
    refine .bind (each item List.mem_cons_self) fun found _ => ?_
    cases found with
    | true =>
      refine .pure fun other same => ?_
      cases same
      exact List.mem_cons_self
    | false =>
      have others := ih fun other member => each other (List.mem_cons_of_mem _ member)
      exact others.imp fun _ listed other found => List.mem_cons_of_mem _ (listed other found)

end Sound
end Fabula
