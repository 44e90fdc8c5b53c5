import Fabula.Proofs.Sound
/-!
# Values of the right kind

Reading untyped values fails for many reasons. Of a value of the right kind it fails for one only:
a number is out of range. An integer is too large to meet a float or to be written, an infinity has
no whole part, or a float that is no number has none.
-/

namespace Fabula
variable {α : Type} {P : Failure → Prop}

inductive Excess where
  | tooLarge
  | notANumber
  | tooManyDigits
deriving DecidableEq

def Failure.excess? : Failure → Option Excess
  | .tooLarge => some .tooLarge
  | .unsuitable .notANumber => some .notANumber
  | .unsuitable .unwritable => some .tooManyDigits
  | _ => none

def Failure.OutOfRange (failure : Failure) : Prop :=
  failure.excess?.isSome

namespace Value

def IsText (value : Value) : Prop :=
  ∃ s, value = .text s

def IsLabel (value : Value) : Prop :=
  value = .null ∨ value.IsText

def IsNumber (value : Value) : Prop :=
  ∃ n, value = .number n

theorem IsText.label {value : Value} (isText : value.IsText) : value.IsLabel :=
  .inr isText

theorem IsLabel.text {value : Value} (isLabel : value.IsLabel) (present : value.isPresent) :
    value.IsText := by
  rcases isLabel with rfl | isText
  · cases present
  · exact isText

theorem IsText.key_failsOnly {value : Value} (isText : value.IsText) : FailsOnly P value.key := by
  obtain ⟨s, rfl⟩ := isText
  exact failsOnly_ok _

theorem IsText.lookup_failsOnly {value : Value} (isText : value.IsText) (table : Table α) :
    FailsOnly P (table.lookup value) := by
  simp [Table.lookup, isText.key_failsOnly]

theorem writable_outOfRange (value : Value) : FailsOnly Failure.OutOfRange value.writable := by
  simp [writable, Failure.OutOfRange, Failure.excess?]

theorem write_outOfRange (value : Value) : FailsOnly Failure.OutOfRange value.write := by
  simp [write, writable_outOfRange]

end Value

namespace Number

def Ranged (result : Except Fault α) : Prop :=
  ∀ count, result ≠ .error (.tooManyDigits count)

theorem toFloat_ranged (n : Number) : Ranged n.toFloat := by
  intro count
  cases n with
  | int n =>
    simp only [toFloat]
    split <;> simp
  | float x => simp [toFloat]

theorem combine_ranged (onInts : Int → Int → Int) (onFloats : Float → Float → Float)
    (a b : Number) : Ranged (combine onInts onFloats a b) := by
  intro count
  have first := toFloat_ranged a count
  have second := toFloat_ranged b count
  unfold combine
  split
  · simp
  · cases asFloat : a.toFloat with
    | error fault => simpa [asFloat, bind, Except.bind] using first
    | ok x =>
      cases other : b.toFloat with
      | error fault => simpa [asFloat, other, bind, Except.bind] using second
      | ok y => simp [bind, Except.bind, pure, Except.pure]

theorem truncate_ranged (n : Number) : Ranged n.truncate := by
  intro count
  cases n with
  | int n => simp [truncate]
  | float x =>
    simp only [truncate]
    split
    · simp
    · split <;> simp

theorem floor_ranged (n : Number) : Ranged n.floor := by
  intro count
  cases n with
  | int n => simp [floor]
  | float x =>
    simp only [floor]
    split
    · simp
    · split <;> simp

theorem Ranged.outOfRange {result : Except Fault α} (ranged : Ranged result) :
    FailsOnly Failure.OutOfRange (liftM result : Except Failure α) := by
  cases result with
  | ok a => exact failsOnly_ok a
  | error fault =>
    refine (failsOnly_error _).mpr ?_
    cases fault with
    | tooManyDigits count => exact absurd rfl (ranged count)
    | tooLarge | notANumber => rfl

end Number

namespace Value

theorem IsNumber.operands {a b : Value} (first : a.IsNumber) (second : b.IsNumber) :
    FailsOnly P (a.operands b) := by
  obtain ⟨m, rfl⟩ := first
  obtain ⟨n, rfl⟩ := second
  exact failsOnly_ok _

theorem IsNumber.sum_outOfRange {a b : Value} (first : a.IsNumber) (second : b.IsNumber) :
    FailsOnly Failure.OutOfRange (a.sum b) := by
  simp [sum, first.operands second, Number.add, (Number.combine_ranged _ _ _ _).outOfRange]

theorem IsNumber.difference_outOfRange {a b : Value} (first : a.IsNumber)
    (second : b.IsNumber) : FailsOnly Failure.OutOfRange (a.difference b) := by
  simp [difference, first.operands second, Number.sub,
    (Number.combine_ranged _ _ _ _).outOfRange]

end Value

theorem addNumber_outOfRange (table : Table Value) (name : String) (value : Number) :
    FailsOnly Failure.OutOfRange (table.addNumber name value) := by
  unfold Table.addNumber
  split <;> simp [Number.add, (Number.combine_ranged _ _ _ _).outOfRange]

structure Clock.Typed (clock : Clock) : Prop where
  day : clock.day.IsNumber
  hour : clock.hour.IsNumber

namespace Clock

theorem text_outOfRange (clock : Clock) : FailsOnly Failure.OutOfRange clock.text := by
  simp [text, Value.write_outOfRange]

theorem Typed.advance_outOfRange {clock : Clock} (typed : clock.Typed) (hours : Number) :
    FailsOnly Failure.OutOfRange (clock.advance (.number hours)) := by
  have day (days : Number) := typed.day.sum_outOfRange ⟨days, rfl⟩
  simp [advance, typed.hour.sum_outOfRange ⟨hours, rfl⟩, day,
    (Number.truncate_ranged _).outOfRange]

theorem advance_typed (clock : Clock) (hours : Value) : Returns Typed (clock.advance hours) := by
  simp only [advance, returns_bind, returns_pure]
  exact fun _ _ _ _ _ _ => ⟨⟨_, rfl⟩, ⟨_, rfl⟩⟩

end Clock

theorem hoursBetween_outOfRange {before after : Clock} (first : before.Typed)
    (second : after.Typed) : FailsOnly Failure.OutOfRange (Play.hoursBetween before after) := by
  simp [Play.hoursBetween, second.day.difference_outOfRange first.day,
    second.hour.difference_outOfRange first.hour, Number.mul, Number.add,
    (Number.combine_ranged _ _ _ _).outOfRange]

end Fabula
