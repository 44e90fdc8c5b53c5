import Mathlib.Data.List.TakeWhile
import Fabula.Proofs.FailsOnly
import Fabula.Proofs.Script.Fold
import Fabula.Proofs.State.Malformed
import Fabula.Script.Expression
/-!
# Numerals of too many digits

An expression that cannot be compiled is a fault of the script, with one exception: an integer with
more digits than are read is refused by the reader of numerals. Main statements:

* `ofText?_eq_overlong_iff`: which texts the reader of numerals refuses;
* `Condition.compile_fails`, `Effect.compile_fails`: the failures of expressions, and the line that
  they are reported at;
* `Condition.compile_eq_overlong_iff`, `Effect.compile_eq_overlong_iff`: the expressions whose first
  word that cannot be read is such an integer.
-/

namespace Fabula
variable {α : Type} {line : Option Value} {count : Nat}

abbrev Failure.overlong (count : Nat) : Failure :=
  .unsuitable (.tooManyDigits count)

/-- Whether a failure is a fault of a script that is reported at a line, or an integer that is
spelled with too many digits. -/
def Failure.OfSource (line : Option Value) (failure : Failure) : Prop :=
  (∃ fault, failure = .script fault line) ∨ ∃ count, failure = .overlong count

@[simp] theorem ofSource_script (fault : ScriptFault) (line : Option Value) :
    (Failure.script fault line).OfSource line :=
  .inl ⟨fault, rfl⟩

namespace Numeral
open Text

def Overlong (text : List Char) (count : Nat) : Prop :=
  ∃ sign digits, dropFinalLineFeed text = sign ++ digits ∧ sign ∈ [[], ['+'], ['-']] ∧
    (∀ c ∈ digits, isDigit c) ∧ digits.length = count ∧ Number.digitLimit < count

theorem length_digitValues {digits : List Char} (all : ∀ c ∈ digits, isDigit c) :
    (digits.filterMap digitValue?).length = digits.length := by
  induction digits with
  | nil => rfl
  | cons c rest ih =>
    obtain ⟨value, found⟩ := Option.isSome_iff_exists.mp (all c List.mem_cons_self)
    have below := ih fun other listed => all other (List.mem_cons_of_mem _ listed)
    simp [found, below]

theorem takeSign_split (text : List Char) :
    ∃ sign ∈ [[], ['+'], ['-']], text = sign ++ (takeSign text).2 := by
  unfold takeSign
  split
  · exact ⟨['-'], by simp, rfl⟩
  · exact ⟨['+'], by simp, rfl⟩
  · exact ⟨[], by simp, rfl⟩

theorem takeSign_append {sign digits : List Char} (signs : sign ∈ [[], ['+'], ['-']])
    (all : ∀ c ∈ digits, isDigit c) : (takeSign (sign ++ digits)).2 = digits := by
  simp only [List.mem_cons, List.not_mem_nil, or_false] at signs
  rcases signs with rfl | rfl | rfl
  · have plus : isDigit '+' = false := by decide +kernel
    have minus : isDigit '-' = false := by decide +kernel
    rw [List.nil_append]
    unfold takeSign
    split
    · simp [minus] at all
    · simp [plus] at all
    · rfl
  · rfl
  · rfl

theorem takeDigits_all {digits : List Char} (all : ∀ c ∈ digits, isDigit c) :
    takeDigits digits = (digits.filterMap digitValue?, []) := by
  have taken : digits.takeWhile isDigit = digits := List.takeWhile_eq_self_iff.mpr all
  have left : digits.dropWhile isDigit = [] := List.dropWhile_eq_nil_iff.mpr all
  simp [takeDigits, taken, left]

theorem read?_eq_whole {text : List Char} {negative : Bool} {values : List Nat}
    (reads : read? text = some (.whole negative values)) :
    (∀ c ∈ (takeSign text).2, isDigit c) ∧
      values = (takeSign text).2.filterMap digitValue? := by
  unfold read? at reads
  dsimp only at reads
  split at reads
  · next whole left =>
    cases reads
    have all : ∀ c ∈ (takeSign text).2, isDigit c := List.dropWhile_eq_nil_iff.mp left
    have taken : (takeSign text).2.takeWhile isDigit = (takeSign text).2 :=
      List.takeWhile_eq_self_iff.mpr all
    exact ⟨all, by simp [takeDigits, taken]⟩
  · split at reads
    · cases reads
    · obtain ⟨_, _, made⟩ := Option.map_eq_some_iff.mp reads
      cases made
  · obtain ⟨_, _, made⟩ := Option.map_eq_some_iff.mp reads
    cases made
  · cases reads

theorem read?_digits {sign digits : List Char} (signs : sign ∈ [[], ['+'], ['-']])
    (all : ∀ c ∈ digits, isDigit c) (given : digits ≠ []) :
    ∃ negative, read? (sign ++ digits) = some (.whole negative (digits.filterMap digitValue?)) := by
  have unsigned := takeSign_append signs all
  have values : digits.filterMap digitValue? ≠ [] := by
    rw [← List.length_pos_iff, length_digitValues all]
    exact List.length_pos_iff.mpr given
  refine ⟨(takeSign (sign ++ digits)).1, ?_⟩
  unfold read?
  dsimp only
  rw [unsigned, takeDigits_all all]
  obtain ⟨first, others, found⟩ := List.exists_cons_of_ne_nil values
  rw [found]

theorem number_eq_error_iff {numeral : Numeral} {fault : Number.Fault} :
    numeral.number = .error fault ↔ ∃ negative digits, numeral = .whole negative digits ∧
      Number.digitLimit < digits.length ∧ fault = .tooManyDigits digits.length := by
  cases numeral with
  | whole negative digits =>
    rw [number]
    split
    · next long =>
      constructor
      · rintro ⟨⟩
        exact ⟨negative, digits, rfl, long, rfl⟩
      · rintro ⟨_, _, ⟨⟩, _, rfl⟩
        rfl
    · next short =>
      refine ⟨nofun, ?_⟩
      rintro ⟨_, _, ⟨⟩, long, _⟩
      exact absurd long short
  | decimal negative integral fraction exponent => simp [number]

end Numeral

theorem ofText?_eq_error_iff {text : List Char} {fault : Number.Fault} :
    Number.ofText? text = .error fault ↔
      ∃ count, fault = .tooManyDigits count ∧ Numeral.Overlong text count := by
  have number_of_read : Number.ofText? text = .error fault ↔ ∃ numeral,
      Numeral.read? (Text.dropFinalLineFeed text) = some numeral ∧
        numeral.number = .error fault := by
    unfold Number.ofText?
    cases Numeral.read? (Text.dropFinalLineFeed text) with
    | none => simp
    | some numeral =>
      cases made : numeral.number with
      | error other => simp [bind, Except.bind, made]
      | ok number => cases number <;> simp [bind, Except.bind, pure, Except.pure, made]
  rw [number_of_read]
  constructor
  · rintro ⟨numeral, reads, fails⟩
    obtain ⟨negative, digits, rfl, long, rfl⟩ := Numeral.number_eq_error_iff.mp fails
    obtain ⟨all, rfl⟩ := Numeral.read?_eq_whole reads
    obtain ⟨sign, signs, split⟩ := Numeral.takeSign_split (Text.dropFinalLineFeed text)
    exact ⟨_, rfl, sign, _, split, signs, all, (Numeral.length_digitValues all).symm, long⟩
  · rintro ⟨count, rfl, sign, digits, split, signs, all, rfl, long⟩
    have given : digits ≠ [] := List.length_pos_iff.mp (Nat.zero_lt_of_lt long)
    obtain ⟨negative, reads⟩ := Numeral.read?_digits signs all given
    rw [← Numeral.length_digitValues all] at long ⊢
    exact ⟨_, split ▸ reads, Numeral.number_eq_error_iff.mpr ⟨negative, _, rfl, long, rfl⟩⟩

theorem ofText?_eq_overlong_iff {text : List Char} {count : Nat} :
    Number.ofText? text = .error (.tooManyDigits count) ↔ Numeral.Overlong text count := by
  simp [ofText?_eq_error_iff]

def ParameterType.IsNumeric : ParameterType → Prop
  | .number | .whole | .scalar => True
  | .text | .truth => False

theorem liftM_eq_error_iff {result : Except Number.Fault α} {failure : Failure} :
    (liftM result : Except Failure α) = .error failure ↔
      ∃ fault, result = .error fault ∧ Failure.ofNumber fault = failure := by
  cases result <;> simp [liftM, monadLift, MonadLift.monadLift]

theorem liftM_eq_overlong_iff {text : List Char} :
    (liftM (Number.ofText? text) : Except Failure (Option Number)) = .error (.overlong count) ↔
      Numeral.Overlong text count := by
  rw [liftM_eq_error_iff, ← ofText?_eq_overlong_iff]
  constructor
  · rintro ⟨fault, fails, made⟩
    cases fault <;> cases made
    exact fails
  · intro fails
    exact ⟨_, fails, rfl⟩

theorem liftM_ofText?_failsOnly (text : List Char) :
    FailsOnly (Failure.OfSource line) (liftM (Number.ofText? text)) := by
  intro failure fails
  obtain ⟨fault, refused, rfl⟩ := liftM_eq_error_iff.mp fails
  obtain ⟨count, rfl, _⟩ := ofText?_eq_error_iff.mp refused
  exact .inr ⟨count, rfl⟩

namespace Parameter

theorem numberOfWord_eq_overlong_iff {parameter : Parameter} {word : String} :
    parameter.numberOfWord line word = .error (.overlong count) ↔
      Numeral.Overlong word.toList count := by
  unfold numberOfWord
  rw [error_of_bind_iff, liftM_eq_overlong_iff, or_iff_left]
  rintro ⟨found, _, fails⟩
  cases found <;> cases fails

theorem numberOfWord_fails (parameter : Parameter) (word : String) :
    FailsOnly (Failure.OfSource line) (parameter.numberOfWord line word) := by
  refine (failsOnly_bind _ _).mpr ⟨liftM_ofText?_failsOnly _, fun found _ => ?_⟩
  cases found <;> simp

theorem scalar_eq_error_iff {name word : String} {failure : Failure} :
    Parameter.ofWord ⟨name, .scalar⟩ line word = .error failure ↔
      ∃ fault, Number.ofText? word.toList = .error fault ∧ Failure.ofNumber fault = failure := by
  have word_fails (fault : Number.Fault) :
      Value.ofWord word = .error fault ↔ Number.ofText? word.toList = .error fault := by
    unfold Value.ofWord
    rcases Number.ofText? word.toList with _ | (_ | _) <;>
      simp [bind, Except.bind, pure, Except.pure]
  simp only [ofWord, liftM_eq_error_iff, word_fails]

theorem ofWord_fails (parameter : Parameter) (word : String) :
    FailsOnly (Failure.OfSource line) (parameter.ofWord line word) := by
  obtain ⟨name, type⟩ := parameter
  cases type with
  | text => exact failsOnly_ok _
  | number => exact numberOfWord_fails _ _
  | truth => simp [ofWord]
  | whole =>
    refine (failsOnly_bind _ _).mpr ⟨numberOfWord_fails _ _, fun found _ => ?_⟩
    split <;> simp
  | scalar =>
    intro failure fails
    obtain ⟨fault, refused, rfl⟩ := scalar_eq_error_iff.mp fails
    obtain ⟨count, rfl, _⟩ := ofText?_eq_error_iff.mp refused
    exact .inr ⟨count, rfl⟩

theorem ofWord_eq_overlong_iff {parameter : Parameter} {word : String} :
    parameter.ofWord line word = .error (.overlong count) ↔
      parameter.type.IsNumeric ∧ Numeral.Overlong word.toList count := by
  obtain ⟨name, type⟩ := parameter
  cases type with
  | text => simp [ofWord, ParameterType.IsNumeric]
  | truth =>
    simp only [ofWord, ParameterType.IsNumeric, false_and, iff_false]
    split <;> [skip; split] <;> simp
  | number => simp [ofWord, numberOfWord_eq_overlong_iff, ParameterType.IsNumeric]
  | whole =>
    have number : numberOfWord ⟨name, .whole⟩ line word = .error (.overlong count) ↔
        Numeral.Overlong word.toList count := numberOfWord_eq_overlong_iff
    simp only [ofWord, error_of_bind_iff, number, ParameterType.IsNumeric, true_and]
    rw [or_iff_left]
    rintro ⟨found, _, fails⟩
    split at fails <;> cases fails
  | scalar =>
    refine scalar_eq_error_iff.trans ⟨?_, ?_⟩
    · rintro ⟨fault, refused, same⟩
      obtain ⟨other, rfl, long⟩ := ofText?_eq_error_iff.mp refused
      cases same
      exact ⟨trivial, long⟩
    · rintro ⟨_, long⟩
      exact ⟨_, ofText?_eq_overlong_iff.mpr long, rfl⟩

def Reads (parameter : Parameter) (word : String) : Prop :=
  ∃ argument, parameter.ofWord none word = .ok argument

theorem ofWord_eq_ok_iff {parameter : Parameter} {word : String}
    {argument : parameter.type.Carrier} :
    parameter.ofWord line word = .ok argument ↔ parameter.ofWord none word = .ok argument := by
  have number (parameter : Parameter) (n : Number) :
      parameter.numberOfWord line word = .ok n ↔ parameter.numberOfWord none word = .ok n := by
    unfold numberOfWord
    rcases Number.ofText? word.toList with _ | (_ | _) <;>
      simp [liftM, monadLift, MonadLift.monadLift, bind, Except.bind]
  obtain ⟨name, type⟩ := parameter
  cases type with
  | text => exact .rfl
  | scalar => exact .rfl
  | number => exact number _ _
  | truth =>
    simp only [ofWord]
    split <;> [rfl; split] <;> simp
  | whole =>
    simp only [ofWord, Script.bind_eq_ok]
    refine exists_congr fun found => and_congr (number _ found) ?_
    split <;> simp

end Parameter

namespace Arguments

/-- Whether the first of some words that spells no argument for its parameter is an integer with too
many digits. -/
inductive Overlong (count : Nat) : List Parameter → List String → Prop
  | here {parameter : Parameter} {parameters : List Parameter} {word : String}
      {words : List String} (numeric : parameter.type.IsNumeric)
      (long : Numeral.Overlong word.toList count) :
      Overlong count (parameter :: parameters) (word :: words)
  | later {parameter : Parameter} {parameters : List Parameter} {word : String}
      {words : List String} (reads : parameter.Reads word)
      (below : Overlong count parameters words) :
      Overlong count (parameter :: parameters) (word :: words)

theorem overlong_cons_iff {parameter : Parameter} {parameters : List Parameter} {word : String}
    {words : List String} : Overlong count (parameter :: parameters) (word :: words) ↔
      (parameter.type.IsNumeric ∧ Numeral.Overlong word.toList count) ∨
        parameter.Reads word ∧ Overlong count parameters words := by
  constructor
  · rintro (⟨numeric, long⟩ | ⟨reads, below⟩)
    · exact .inl ⟨numeric, long⟩
    · exact .inr ⟨reads, below⟩
  · rintro (⟨numeric, long⟩ | ⟨reads, below⟩)
    · exact .here numeric long
    · exact .later reads below

theorem ofWordsFrom_eq_overlong_iff {fault : ScriptFault} {parameters : List Parameter}
    {words : List String} : ofWordsFrom line fault parameters words = .error (.overlong count) ↔
      Overlong count parameters words := by
  induction parameters generalizing words with
  | nil =>
    refine ⟨?_, nofun⟩
    intro fails
    cases fails
  | cons parameter parameters ih =>
    cases words with
    | nil =>
      refine ⟨?_, nofun⟩
      intro fails
      cases fails
    | cons word words =>
      have rest (argument : parameter.type.Carrier) :
          (do return (argument, ← ofWordsFrom line fault parameters words) :
            Except Failure (Arguments (parameter :: parameters))) = .error (.overlong count) ↔
          Overlong count parameters words := by
        rw [error_of_bind_iff, ih, or_iff_left]
        rintro ⟨_, _, fails⟩
        cases fails
      rw [ofWordsFrom, error_of_bind_iff, Parameter.ofWord_eq_overlong_iff, overlong_cons_iff]
      simp only [rest, Parameter.ofWord_eq_ok_iff, Parameter.Reads, exists_and_right]

theorem ofWordsFrom_fails {fault : ScriptFault} (parameters : List Parameter)
    (words : List String) :
    FailsOnly (Failure.OfSource line) (ofWordsFrom line fault parameters words) := by
  induction parameters generalizing words with
  | nil => exact failsOnly_ok _
  | cons parameter parameters ih =>
    cases words with
    | nil => exact (failsOnly_error _).mpr (ofSource_script _ _)
    | cons word words => simp [ofWordsFrom, Parameter.ofWord_fails, ih]

theorem ofWords_eq_overlong_iff {label : String} {parameters : List Parameter}
    {words : List String} : ofWords line label parameters words = .error (.overlong count) ↔
      words.length = parameters.length ∧ Overlong count parameters words := by
  unfold ofWords
  dsimp only
  split
  · next many => simp [ofWordsFrom_eq_overlong_iff, eq_of_beq many]
  · next many =>
    have many : words.length ≠ parameters.length := by simpa using many
    simp [many]

theorem ofWords_fails (label : String) (parameters : List Parameter) (words : List String) :
    FailsOnly (Failure.OfSource line) (ofWords line label parameters words) := by
  simp [ofWords, ofWordsFrom_fails]

end Arguments

inductive Condition.Overlong (text : List Char) (count : Nat) : Prop
  | intro {keyword : String} {words : List String} {kind : ConditionKind}
      (spelled : expressionWords text = keyword :: words)
      (known : ConditionKind.ofKeyword? keyword = some kind)
      (complete : words.length = kind.parameters.length)
      (long : Arguments.Overlong count kind.parameters words)

inductive Effect.Overlong (text : List Char) (count : Nat) : Prop
  | word {keyword : String} {words : List String} {kind : EffectKind}
      (spelled : expressionWords text = keyword :: words)
      (known : EffectKind.ofPhrase? (.word keyword) = some kind)
      (complete : words.length = kind.parameters.length)
      (long : Arguments.Overlong count kind.parameters words)
  | pair {keyword form : String} {words : List String} {kind : EffectKind}
      (spelled : expressionWords text = keyword :: form :: words)
      (known : EffectKind.ofPhrase? (.pair keyword form) = some kind)
      (complete : words.length = kind.parameters.length)
      (long : Arguments.Overlong count kind.parameters words)

theorem make_eq_error_iff {β : Type} {arguments : Except Failure α} {make : α → β}
    {failure : Failure} :
    (do return make (← arguments)) = .error failure ↔ arguments = .error failure := by
  cases arguments <;> simp [bind, Except.bind, pure, Except.pure]

namespace Condition

theorem compile_eq_overlong_iff {text : List Char} :
    compile line text = .error (.overlong count) ↔ Overlong text count := by
  unfold compile
  constructor
  · intro fails
    split at fails
    · cases fails
    · next keyword words spelled =>
      split at fails
      · cases fails
      · next kind known =>
        rw [make_eq_error_iff, Arguments.ofWords_eq_overlong_iff] at fails
        exact .intro spelled known fails.1 fails.2
  · rintro ⟨spelled, known, complete, long⟩
    simp only [spelled, known, make_eq_error_iff]
    exact Arguments.ofWords_eq_overlong_iff.mpr ⟨complete, long⟩

theorem compile_fails (text : List Char) :
    FailsOnly (Failure.OfSource line) (compile line text) := by
  unfold compile
  split
  · simp
  · split <;> simp [Arguments.ofWords_fails]

end Condition

namespace EffectKind

theorem phrase_of_known {phrase : Phrase} {kind : EffectKind}
    (known : ofPhrase? phrase = some kind) : kind.phrase = phrase := by
  simpa using List.find?_some known

theorem text_of_tail {keyword : String} {kind : EffectKind} (tail : kind.phrase = .tail keyword) :
    ∃ name, kind.parameters = [⟨name, .text⟩] := by
  cases kind <;> cases tail <;> exact ⟨_, rfl⟩

theorem not_tail_of_word {keyword : String} {kind : EffectKind}
    (word : kind.phrase = .word keyword) : ofPhrase? (.tail keyword) = none := by
  cases kind <;> cases word <;> rfl

theorem pairKeyword_of_pair {keyword form : String} {kind : EffectKind}
    (pair : kind.phrase = .pair keyword form) : ofPhrase? (.tail keyword) = none ∧
      ofPhrase? (.word keyword) = none ∧ isPairKeyword keyword ∧ form ≠ "" := by
  cases kind <;> cases pair <;> decide

end EffectKind

namespace Effect

theorem compileTail_ne_overlong {kind : EffectKind} {keyword : String} {rest : List Char}
    (tail : kind.phrase = .tail keyword) :
    compileTail line kind keyword rest ≠ .error (.overlong count) := by
  obtain ⟨name, parameters⟩ := EffectKind.text_of_tail tail
  intro fails
  unfold compileTail at fails
  split at fails
  · cases fails
  · dsimp only at fails
    rw [make_eq_error_iff, Arguments.ofWords_eq_overlong_iff, parameters] at fails
    obtain ⟨_, ⟨numeric, _⟩ | ⟨_, long⟩⟩ := fails
    · exact numeric
    · cases long

theorem compilePair_eq_overlong_iff {keyword : String} {words : List String} :
    compilePair line keyword words = .error (.overlong count) ↔ ∃ form rest kind,
      words = form :: rest ∧ EffectKind.ofPhrase? (.pair keyword form) = some kind ∧
        rest.length = kind.parameters.length ∧
          Arguments.Overlong count kind.parameters rest := by
  unfold compilePair
  constructor
  · intro fails
    dsimp only at fails
    split at fails
    · cases fails
    · next kind known =>
      rw [make_eq_error_iff, Arguments.ofWords_eq_overlong_iff] at fails
      cases words with
      | nil =>
        obtain ⟨_, _, _, given⟩ := EffectKind.pairKeyword_of_pair (EffectKind.phrase_of_known known)
        exact absurd rfl given
      | cons form rest => exact ⟨form, rest, kind, rfl, known, fails⟩
  · rintro ⟨form, rest, kind, rfl, known, fails⟩
    simp only [List.headD_cons, List.tail_cons, known, make_eq_error_iff]
    exact Arguments.ofWords_eq_overlong_iff.mpr fails

theorem compile_eq_overlong_iff {text : List Char} :
    compile line text = .error (.overlong count) ↔ Overlong text count := by
  unfold compile
  constructor
  · intro fails
    split at fails
    · cases fails
    · next keyword words spelled =>
      split at fails
      · next kind tail =>
        exact absurd fails (compileTail_ne_overlong (EffectKind.phrase_of_known tail))
      · next kind _ known =>
        rw [make_eq_error_iff, Arguments.ofWords_eq_overlong_iff] at fails
        exact .word spelled known fails.1 fails.2
      · split at fails
        · obtain ⟨form, rest, kind, rfl, known, complete, long⟩ :=
            compilePair_eq_overlong_iff.mp fails
          exact .pair spelled known complete long
        · cases fails
  · intro long
    cases long with
    | word spelled known complete long =>
      have noTail := EffectKind.not_tail_of_word (EffectKind.phrase_of_known known)
      simp only [spelled, noTail, known, make_eq_error_iff]
      exact Arguments.ofWords_eq_overlong_iff.mpr ⟨complete, long⟩
    | pair spelled known complete long =>
      obtain ⟨noTail, noWord, pair, _⟩ :=
        EffectKind.pairKeyword_of_pair (EffectKind.phrase_of_known known)
      simp only [spelled, noTail, noWord, pair, if_true]
      exact compilePair_eq_overlong_iff.mpr ⟨_, _, _, rfl, known, complete, long⟩

theorem compile_fails (text : List Char) :
    FailsOnly (Failure.OfSource line) (compile line text) := by
  unfold compile
  split
  · simp
  · split
    · simp [compileTail, Arguments.ofWords_fails]
    · simp [Arguments.ofWords_fails]
    · unfold compilePair
      dsimp only
      refine (failsOnly_ite _ _ _).mpr ⟨fun _ => ?_, fun _ => by simp⟩
      split <;> simp [Arguments.ofWords_fails]

end Effect
end Fabula
