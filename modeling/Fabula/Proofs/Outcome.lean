import Fabula.Proofs.FailsOnly
/-!
# Outcomes

A computation that keeps something keeps it also when it fails. Its outcome is what it answers
together with what it leaves behind.
-/

namespace Fabula
variable {σ α β : Type}

def outcome (computation : EStateM Failure σ α) (start : σ) : Except Failure α × σ :=
  match computation start with
  | .ok a last => (.ok a, last)
  | .error failure last => (.error failure, last)

theorem outcome_of_ok {computation : EStateM Failure σ α} {start last : σ} {a : α}
    (returns : computation start = .ok a last) : outcome computation start = (.ok a, last) := by
  simp [outcome, returns]

theorem outcome_of_error {computation : EStateM Failure σ α} {start last : σ} {failure : Failure}
    (fails : computation start = .error failure last) :
    outcome computation start = (.error failure, last) := by
  simp [outcome, fails]

theorem outcome_eq_ok {computation : EStateM Failure σ α} {start last : σ} {a : α} :
    outcome computation start = (.ok a, last) ↔ computation start = .ok a last := by
  cases run : computation start <;> simp [outcome, run]

theorem ok_of_outcome {computation : EStateM Failure σ α} {start : σ}
    (returns : (outcome computation start).1.isOk) :
    ∃ a, computation start = .ok a (outcome computation start).2 := by
  cases run : computation start with
  | ok a last => exact ⟨a, by rw [outcome_of_ok run]⟩
  | error failure last => simp [outcome_of_error run, Except.isOk, Except.toBool] at returns

theorem error_of_outcome {computation : EStateM Failure σ α} {start : σ}
    (fails : (outcome computation start).1.isOk = false) :
    ∃ failure, computation start = .error failure (outcome computation start).2 := by
  cases run : computation start with
  | ok a last => simp [outcome_of_ok run, Except.isOk, Except.toBool] at fails
  | error failure last => exact ⟨failure, by rw [outcome_of_error run]⟩

theorem outcome_lift (result : Except Failure α) (start : σ) :
    outcome (liftM result) start = (result, start) := by
  cases result <;> rfl

section
variable {first : EStateM Failure σ α} {next : α → EStateM Failure σ β} {start : σ}

theorem outcome_bind_of_ok {a : α} (answer : (outcome first start).1 = .ok a) :
    outcome (first >>= next) start = outcome (next a) (outcome first start).2 := by
  simp only [outcome, bind, EStateM.bind] at answer ⊢
  cases returned : first start <;> simp_all

theorem outcome_bind_of_error {failure : Failure}
    (answer : (outcome first start).1 = .error failure) :
    outcome (first >>= next) start = (.error failure, (outcome first start).2) := by
  simp only [outcome, bind, EStateM.bind] at answer ⊢
  cases returned : first start <;> simp_all

theorem outcome_bind : outcome (first >>= next) start =
    match (outcome first start).1 with
    | .ok a => outcome (next a) (outcome first start).2
    | .error failure => (.error failure, (outcome first start).2) := by
  cases answer : (outcome first start).1 with
  | ok a => exact outcome_bind_of_ok answer
  | error failure => exact outcome_bind_of_error answer

theorem outcome_bind_lift (result : Except Failure β) :
    (outcome (first >>= fun _ => liftM result) start).2 = (outcome first start).2 := by
  rw [outcome_bind]
  cases (outcome first start).1 with
  | ok a => simp only [outcome_lift]
  | error failure => rfl

end

end Fabula
