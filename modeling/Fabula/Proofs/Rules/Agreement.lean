import Fabula.Proofs.Rules.Record
import Fabula.Script.Expression
/-!
# Expressions and records agree

Expressions and records are checked in different ways: the words of an expression are converted to
the types of the parameters, and the fields of a record must be of these types already. The record
of what an expression means passes its check, and is read back as what was written. Integers are
the exception: an expression may spell them in thousands of digits, and in a record they must be in
the range of floats. Main statement:

* `readings_agree`: what becomes of the record of a compiled condition or effect.
-/

namespace Fabula

/-- A condition or an effect that has been compiled is read back from its record as it was if all of
its integers are in the range of floats; else the record is refused for a number that is too
large. -/
theorem readings_agree (line : Option Value) (text : List Char) :
    (∀ condition, Condition.compile line text = .ok condition →
      Condition.ofRecord condition.toRecord =
        if Representable condition.integers then .ok condition else .error .tooLarge) ∧
    ∀ effect, Effect.compile line text = .ok effect →
      Effect.ofRecord effect.toRecord =
        if Representable effect.integers then .ok effect else .error .tooLarge :=
  ⟨fun _ compiled => Condition.ofRecord_toRecord_eq (Condition.compile_suited line text _ compiled),
    fun _ compiled => Effect.ofRecord_toRecord_eq (Effect.compile_suited line text _ compiled)⟩

theorem readings_agree_roll :
    (∃ condition, Condition.compile none "roll 1 2e1 10.5".toList = .ok condition ∧
      Condition.ofRecord condition.toRecord = .ok condition) ∧
    ∃ effect, Effect.compile none "ROLL luck 1 2e1".toList = .ok effect ∧
      Effect.ofRecord effect.toRecord = .ok effect := by
  obtain ⟨condition, compiled, integers⟩ : ∃ condition,
      Condition.compile none "roll 1 2e1 10.5".toList = .ok condition ∧
        condition.integers = [1, 20] := ⟨_, rfl, by decide +kernel⟩
  obtain ⟨effect, made, others⟩ : ∃ effect,
      Effect.compile none "ROLL luck 1 2e1".toList = .ok effect ∧ effect.integers = [1, 20] :=
    ⟨_, rfl, by decide +kernel⟩
  have small : Representable [1, 20] := by decide +kernel
  refine ⟨⟨condition, compiled, ?_⟩, effect, made, ?_⟩
  · rw [(readings_agree none _).1 condition compiled, integers, if_pos small]
  · rw [(readings_agree none _).2 effect made, others, if_pos small]

theorem Number.ofText?_whole {text : List Char} {negative : Bool} {digits : List Nat}
    (read : Numeral.read? (Text.dropFinalLineFeed text) = some (.whole negative digits))
    (short : digits.length ≤ digitLimit) :
    ofText? text = .ok (some (.int (Binary64.signed negative (Numeral.ofDigits digits)))) := by
  simp [ofText?, read, Numeral.number, Nat.not_lt.mpr short, bind, Except.bind, pure, Except.pure]

theorem Condition.compile_variableGreaterThan (line : Option Value) {text name word : List Char}
    {n : Number} (words : Text.words text = ["variableGreaterThan".toList, name, word])
    (spelled : Number.ofText? word = .ok (some n)) :
    compile line text = .ok (.variableGreaterThan (String.ofList name) n) := by
  have known : ConditionKind.ofKeyword? "variableGreaterThan" = some .variableGreaterThan :=
    ConditionKind.ofKeyword?_keyword .variableGreaterThan
  simp [compile, expressionWords, words, known, ConditionKind.parameters, Arguments.ofWords,
    Arguments.ofWordsFrom, Parameter.ofWord, Parameter.numberOfWord, spelled, liftM, monadLift,
    MonadLift.monadLift, ConditionKind.make, bind, Except.bind, pure, Except.pure]

def largeBound : List Char :=
  "variableGreaterThan gold 1".toList ++ List.replicate 309 '0'

/-- The condition on a number of 310 digits is compiled, and its record is refused. -/
theorem refused_largeBound : ∃ condition, Condition.compile none largeBound = .ok condition ∧
    Condition.ofRecord condition.toRecord = .error .tooLarge := by
  have words : Text.words largeBound =
      ["variableGreaterThan".toList, "gold".toList, '1' :: List.replicate 309 '0'] := by
    decide +kernel
  have read : Numeral.read? (Text.dropFinalLineFeed ('1' :: List.replicate 309 '0')) =
      some (.whole false (1 :: List.replicate 309 0)) := by decide +kernel
  have spelled := Number.ofText?_whole read (by decide +kernel)
  have compiled := Condition.compile_variableGreaterThan none words spelled
  refine ⟨_, compiled, ?_⟩
  rw [Condition.ofRecord_toRecord_eq (Condition.compile_suited _ _ _ compiled), if_neg]
  decide +kernel

end Fabula
