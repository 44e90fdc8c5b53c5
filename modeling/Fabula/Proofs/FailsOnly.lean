import Fabula.Console
/-!
# Why computations fail

Everything that a session computes reads untyped values, so nearly everything can fail. It fails
because a value is unsuitable, of the wrong kind or too large, and for no other reason: scripts,
content, saves and phases are not at stake once a session runs. `FailsOnly` says so of one result.
Its rules for sequences and choices are simplification lemmas, so that the lemma of a function
follows from those of the functions that it calls. A run over a list fails at the first item that
fails.
-/

namespace Fabula
variable {α β : Type} {P : Failure → Prop}

def Failure.OfValue : Failure → Prop
  | .unsuitable _ | .noParts | .wrongKind | .tooLarge => True
  | .script .. | .content _ | .save _ | .missingKey _ | .transition .. => False

def Failure.IsTransition : Failure → Prop
  | .transition .. => True
  | _ => False

theorem Failure.OfValue.not_isTransition {failure : Failure} (ofValue : failure.OfValue) :
    ¬ failure.IsTransition := by
  cases failure <;> simp_all [OfValue, IsTransition]

def FailsOnly (P : Failure → Prop) (result : Except Failure α) : Prop :=
  ∀ failure, result = .error failure → P failure

theorem FailsOnly.imp {P Q : Failure → Prop} {result : Except Failure α}
    (fails : FailsOnly P result) (implies : ∀ failure, P failure → Q failure) :
    FailsOnly Q result :=
  fun failure failed => implies failure (fails failure failed)

@[simp] theorem failsOnly_pure (a : α) : FailsOnly P (pure a) := by
  intro failure failed
  cases failed

@[simp] theorem failsOnly_ok (a : α) : FailsOnly P (.ok a) :=
  failsOnly_pure a

@[simp] theorem failsOnly_error (failure : Failure) :
    FailsOnly P (.error failure : Except Failure α) ↔ P failure := by
  simp [FailsOnly]

@[simp] theorem failsOnly_throw (failure : Failure) :
    FailsOnly P (throw failure : Except Failure α) ↔ P failure :=
  failsOnly_error failure

@[simp] theorem failsOnly_bind (first : Except Failure α) (next : α → Except Failure β) :
    FailsOnly P (first >>= next) ↔
      FailsOnly P first ∧ ∀ a, first = .ok a → FailsOnly P (next a) := by
  cases first <;> simp [FailsOnly, bind, Except.bind]

@[simp] theorem failsOnly_map (f : α → β) (result : Except Failure α) :
    FailsOnly P (f <$> result) ↔ FailsOnly P result := by
  cases result <;> simp [FailsOnly, Functor.map, Except.map]

@[simp] theorem failsOnly_ite (c : Prop) [Decidable c] (a b : Except Failure α) :
    FailsOnly P (if c then a else b) ↔ (c → FailsOnly P a) ∧ (¬c → FailsOnly P b) := by
  by_cases holds : c <;> simp [holds]

theorem failsOnly_mapM_mem {f : α → Except Failure β} {items : List α}
    (each : ∀ a ∈ items, FailsOnly P (f a)) : FailsOnly P (items.mapM f) := by
  induction items with
  | nil => simp
  | cons item rest ih =>
    have first := each item List.mem_cons_self
    have others := ih fun a member => each a (List.mem_cons_of_mem _ member)
    simp [first, others]

theorem failsOnly_mapM {f : α → Except Failure β} (each : ∀ a, FailsOnly P (f a))
    (items : List α) : FailsOnly P (items.mapM f) :=
  failsOnly_mapM_mem fun a _ => each a

theorem failsOnly_foldlM_mem {f : β → α → Except Failure β} {items : List α}
    (each : ∀ a ∈ items, ∀ b, FailsOnly P (f b a)) (start : β) :
    FailsOnly P (items.foldlM f start) := by
  induction items generalizing start with
  | nil => simp
  | cons item rest ih =>
    have first := each item List.mem_cons_self
    have others := ih fun a member => each a (List.mem_cons_of_mem _ member)
    simp [first, others]

@[simp] theorem failsOnly_number (result : Except Number.Fault α) :
    FailsOnly Failure.OfValue (liftM result) := by
  cases result with
  | ok a => exact failsOnly_ok a
  | error fault => cases fault <;> exact (failsOnly_error _).2 trivial

theorem error_of_bind_iff {first : Except Failure α} {next : α → Except Failure β}
    {failure : Failure} : (first >>= next) = .error failure ↔
      first = .error failure ∨ ∃ a, first = .ok a ∧ next a = .error failure := by
  cases first <;> simp [bind, Except.bind]

theorem mapM_eq_error_iff {f : α → Except Failure β} {items : List α} {failure : Failure} :
    items.mapM f = .error failure ↔ ∃ before item after, items = before ++ item :: after ∧
      (∀ other ∈ before, ∃ b, f other = .ok b) ∧ f item = .error failure := by
  induction items with
  | nil => simp [pure, Except.pure]
  | cons item rest ih =>
    rw [List.mapM_cons, error_of_bind_iff]
    constructor
    · rintro (fails | ⟨b, reads, fails⟩)
      · exact ⟨[], item, rest, rfl, by simp, fails⟩
      · rw [error_of_bind_iff] at fails
        obtain fails | ⟨_, _, fails⟩ := fails
        · obtain ⟨before, other, after, rfl, earlier, fails⟩ := ih.mp fails
          refine ⟨item :: before, other, after, rfl, ?_, fails⟩
          rintro first (_ | ⟨_, listed⟩)
          · exact ⟨b, reads⟩
          · exact earlier first listed
        · cases fails
    · rintro ⟨before, other, after, split, earlier, fails⟩
      cases before with
      | nil =>
        cases split
        exact .inl fails
      | cons first before =>
        cases split
        obtain ⟨b, reads⟩ := earlier item List.mem_cons_self
        refine .inr ⟨b, reads, error_of_bind_iff.mpr (.inl ?_)⟩
        exact ih.mpr ⟨before, other, after, rfl,
          fun other listed => earlier other (List.mem_cons_of_mem _ listed), fails⟩

theorem tableMapM_eq_error_iff {f : α → Except Failure β} {table : Table α} {failure : Failure} :
    table.mapM f = .error failure ↔ ∃ before key a after,
      table.entries = before ++ (key, a) :: after ∧
        (∀ entry ∈ before, ∃ b, f entry.2 = .ok b) ∧ f a = .error failure := by
  have reads (entry : Key × α) : (∃ b, (do return (entry.1, ← f entry.2)) = Except.ok b) ↔
      ∃ b, f entry.2 = .ok b := by
    cases f entry.2 <;> simp [bind, Except.bind, pure, Except.pure]
  have fails (entry : Key × α) : (do return (entry.1, ← f entry.2)) = Except.error failure ↔
      f entry.2 = .error failure := by
    cases f entry.2 <;> simp [bind, Except.bind, pure, Except.pure]
  rw [Table.mapM, error_of_bind_iff, mapM_eq_error_iff, or_iff_left]
  · simp only [reads, fails, Prod.exists]
  · rintro ⟨_, _, fails⟩
    cases fails

theorem foldlM_eq_error_iff {f : β → α → Except Failure β} {items : List α} {start : β}
    {failure : Failure} : items.foldlM f start = .error failure ↔
      ∃ before item after b, items = before ++ item :: after ∧
        before.foldlM f start = .ok b ∧ f b item = .error failure := by
  induction items generalizing start with
  | nil => simp [pure, Except.pure]
  | cons item rest ih =>
    rw [List.foldlM_cons, error_of_bind_iff]
    simp only [ih]
    constructor
    · rintro (fails | ⟨next, reads, before, other, after, b, rfl, readsRest, fails⟩)
      · exact ⟨[], item, rest, start, rfl, rfl, fails⟩
      · refine ⟨item :: before, other, after, b, rfl, ?_, fails⟩
        simpa [reads, bind, Except.bind] using readsRest
    · rintro ⟨before, other, after, b, split, reads, fails⟩
      cases before with
      | nil =>
        cases split
        cases reads
        exact .inl fails
      | cons first before =>
        cases split
        cases step : f start item with
        | error failed => simp [step, bind, Except.bind] at reads
        | ok next =>
          refine .inr ⟨next, rfl, before, other, after, b, rfl, ?_, fails⟩
          simpa [step, bind, Except.bind] using reads

@[simp] theorem fields_failsOnly (value : Value) : FailsOnly Failure.OfValue value.fields := by
  cases value <;> simp [Value.fields, Failure.OfValue]

@[simp] theorem items_failsOnly (value : Value) : FailsOnly Failure.OfValue value.items := by
  cases value <;> simp [Value.items, Failure.OfValue]

@[simp] theorem key_failsOnly (value : Value) : FailsOnly Failure.OfValue value.key := by
  unfold Value.key
  split <;> simp [Failure.OfValue]

@[simp] theorem lookup_failsOnly (table : Table α) (value : Value) :
    FailsOnly Failure.OfValue (table.lookup value) := by
  simp [Table.lookup]

@[simp] theorem writable_failsOnly (value : Value) :
    FailsOnly Failure.OfValue value.writable := by
  simp [Value.writable, Failure.OfValue]

@[simp] theorem write_failsOnly (value : Value) : FailsOnly Failure.OfValue value.write := by
  simp [Value.write]

@[simp] theorem operands_failsOnly (a b : Value) : FailsOnly Failure.OfValue (a.operands b) := by
  unfold Value.operands
  split <;> simp [Failure.OfValue]

@[simp] theorem sum_failsOnly (a b : Value) : FailsOnly Failure.OfValue (a.sum b) := by
  simp [Value.sum]

@[simp] theorem difference_failsOnly (a b : Value) :
    FailsOnly Failure.OfValue (a.difference b) := by
  simp [Value.difference]

@[simp] theorem addNumber_failsOnly (table : Table Value) (name : String) (value : Number) :
    FailsOnly Failure.OfValue (table.addNumber name value) := by
  unfold Table.addNumber
  split <;> simp

@[simp] theorem sorted_failsOnly (values : List Value) :
    FailsOnly Failure.OfValue (Value.sorted values) := by
  simp [Value.sorted, Failure.OfValue]

@[simp] theorem clockText_failsOnly (clock : Clock) : FailsOnly Failure.OfValue clock.text := by
  simp [Clock.text]

@[simp] theorem advance_failsOnly (clock : Clock) (hours : Value) :
    FailsOnly Failure.OfValue (clock.advance hours) := by
  simp [Clock.advance]

@[simp] theorem hoursBetween_failsOnly (before after : Clock) :
    FailsOnly Failure.OfValue (Play.hoursBetween before after) := by
  simp [Play.hoursBetween]

@[simp] theorem updateCharacter_failsOnly (state : GameState) (id : String)
    (change : CharacterState → Except Failure CharacterState)
    (each : ∀ character, FailsOnly Failure.OfValue (change character)) :
    FailsOnly Failure.OfValue (state.updateCharacter id change) := by
  unfold GameState.updateCharacter
  split <;> simp [each]

@[simp] theorem carryItem_failsOnly (state : GameState) (item : Value) :
    FailsOnly Failure.OfValue (state.carryItem item) := by
  simp [GameState.carryItem]

@[simp] theorem addItem_failsOnly (state : GameState) (item : Value) :
    FailsOnly Failure.OfValue (state.addItem item) := by
  simp [GameState.addItem]

@[simp] theorem findStart_failsOnly (game : Game) (id : Value) :
    FailsOnly Failure.OfValue (Play.findStart game id) := by
  simp only [Play.findStart, failsOnly_bind, lookup_failsOnly, true_and]
  intro found _
  cases found <;> simp

@[simp] theorem currentNode_failsOnly (registry : Registry) (cursor : Option Cursor) :
    FailsOnly Failure.OfValue (View.currentNode? registry cursor) := by
  cases cursor with
  | none => simp [View.currentNode?]
  | some cursor =>
    simp only [View.currentNode?, failsOnly_bind, lookup_failsOnly, true_and]
    intro found _
    cases found <;> simp

@[simp] theorem travelHours_failsOnly (travelMap : TravelMap) (origin destination : Marker) :
    FailsOnly Failure.OfValue (Play.travelHours travelMap origin destination) := by
  simp [Play.travelHours]

@[simp] theorem report_failsOnly (session : Session) :
    FailsOnly Failure.OfValue session.report := by
  simp [Session.report, Session.setFlags]

end Fabula
