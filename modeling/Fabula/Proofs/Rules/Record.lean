import Fabula.Proofs.Content.Keyed
import Fabula.Proofs.Number.Range
/-!
# Conditions and effects as records

An argument suits its type if it is a number that is finite or no number at all. Every condition
and effect that has been read, from words or from a record, has arguments that suit; and one whose
arguments suit is read back from its record, as long as its integers are within the range of
floats. Main statements:

* `Condition.ofRecord_toRecord`, `Effect.ofRecord_toRecord`: what is written is read back;
* `Condition.compile_suited`, `Condition.ofRecord_suited` and their likes for effects: what is read
  has arguments that suit.
-/

namespace Fabula

def Number.Finite : Number → Prop
  | .int _ => True
  | .float x => x.isFinite

def ParameterType.Suits : (type : ParameterType) → type.Carrier → Prop
  | .number, n => n.Finite
  | .scalar, value => (∃ s, value = .text s) ∨ ∃ n : Number, value = .number n ∧ n.Finite
  | .text, _ | .whole, _ | .truth, _ => True

def Number.integers : Number → List Int
  | .int n => [n]
  | .float _ => []

def ParameterType.integers : (type : ParameterType) → type.Carrier → List Int
  | .number, n => n.integers
  | .whole, n => [n]
  | .scalar, .number n => n.integers
  | .scalar, _ | .text, _ | .truth, _ => []

def Representable (integers : List Int) : Prop :=
  ∀ n ∈ integers, n.natAbs < Binary64.overflow

instance (integers : List Int) : Decidable (Representable integers) :=
  inferInstanceAs (Decidable (∀ n ∈ integers, n.natAbs < Binary64.overflow))

theorem representable_append {a b : List Int} :
    Representable (a ++ b) ↔ Representable a ∧ Representable b := by
  simp only [Representable, List.mem_append, or_imp, forall_and]

def Moderate (integers : List Int) : Prop :=
  ∀ n ∈ integers, n.natAbs ≤ 2 ^ 1023

theorem Moderate.representable {integers : List Int} (moderate : Moderate integers) :
    Representable integers :=
  fun n listed => (moderate n listed).trans_lt Binary64.lt_overflow

theorem Number.isFinite_eq {n : Number} (finite : n.Finite) :
    n.isFinite = if Representable n.integers then .ok true else .error .tooLarge := by
  cases n with
  | int n => simp only [isFinite_int_eq, Representable, integers, List.mem_singleton, forall_eq]
  | float x =>
    have finite : x.isFinite := finite
    simp [isFinite, toFloat, finite, integers, Representable, bind, Except.bind, pure, Except.pure]

theorem isFiniteNumber_eq {n : Number} (finite : n.Finite) : (Value.number n).isFiniteNumber =
    if Representable n.integers then .ok true else .error .tooLarge := by
  simp only [Value.isFiniteNumber, Number.isFinite_eq finite]
  split <;> rfl

theorem ofValue?_toValue {type : ParameterType} {argument : type.Carrier}
    (suits : type.Suits argument) :
    ∃ isFiniteNumber, (type.toValue argument).isFiniteNumber =
        (if Representable (type.integers argument) then .ok isFiniteNumber else .error .tooLarge) ∧
      type.ofValue? (type.toValue argument) isFiniteNumber = some argument := by
  have none : Representable [] := by simp [Representable]
  cases type with
  | text | truth => exact ⟨false, (if_pos none).symm, rfl⟩
  | number => exact ⟨true, isFiniteNumber_eq suits, rfl⟩
  | whole =>
    have finite : (Number.int argument).Finite := trivial
    exact ⟨true, isFiniteNumber_eq finite, rfl⟩
  | scalar =>
    rcases suits with ⟨s, rfl⟩ | ⟨n, rfl, finite⟩
    · exact ⟨false, (if_pos none).symm, rfl⟩
    · exact ⟨true, isFiniteNumber_eq finite, rfl⟩

namespace Arguments

def Suit : (parameters : List Parameter) → Arguments parameters → Prop
  | [], () => True
  | parameter :: parameters, (argument, arguments) =>
    parameter.type.Suits argument ∧ Suit parameters arguments

def integers : (parameters : List Parameter) → Arguments parameters → List Int
  | [], () => []
  | parameter :: parameters, (argument, arguments) =>
    parameter.type.integers argument ++ integers parameters arguments

theorem ofFields_toFields (family : RuleFamily) (kind : String) {table : Table Value}
    {parameters : List Parameter} {arguments : Arguments parameters}
    (suit : Suit parameters arguments)
    (holds : ∀ field ∈ toFields parameters arguments, table.find? field.1 = some field.2) :
    ofFields family kind table parameters =
      if Representable (integers parameters arguments) then .ok arguments
      else .error .tooLarge := by
  induction parameters with
  | nil => simp [ofFields, integers, Representable]
  | cons parameter parameters ih =>
    obtain ⟨argument, arguments⟩ := arguments
    obtain ⟨suits, suit⟩ := suit
    simp only [toFields, List.mem_cons, forall_eq_or_imp] at holds
    obtain ⟨found, holds⟩ := holds
    obtain ⟨isFiniteNumber, asked, reads⟩ := ofValue?_toValue suits
    simp only [ofFields, found, asked, ih suit holds, integers, representable_append]
    by_cases first : Representable (parameter.type.integers argument)
    · by_cases others : Representable (integers parameters arguments) <;>
        simp [first, others, reads, bind, Except.bind, pure, Except.pure]
    · simp [first, bind, Except.bind]

theorem names_toFields (parameters : List Parameter) (arguments : Arguments parameters) :
    (toFields parameters arguments).map (·.1) = parameters.map (·.name) := by
  induction parameters with
  | nil => rfl
  | cons parameter parameters ih => simp [toFields, ih]

end Arguments

theorem Table.find?_object {fields : List (String × Value)} (names : (fields.map (·.1)).Nodup)
    {field : String × Value} (member : field ∈ fields) :
    Table.find? ⟨fields.map fun field => (Key.text field.1, field.2)⟩ (.text field.1) =
      some field.2 := by
  have places : ((fields.map fun field => (Key.text field.1, field.2)).map (·.1.place)).Nodup := by
    have distinct := List.pairwise_map.mp names
    simp only [List.map_map, Function.comp_def, Key.place]
    exact List.pairwise_map.mpr (distinct.imp fun differ same => differ (Key.Place.text.inj same))
  have listed : (Key.text field.1, field.2) ∈ fields.map fun field => (Key.text field.1, field.2) :=
    List.mem_map_of_mem member
  simp [Table.find?, Table.find?_of_distinct places listed rfl]

namespace Arguments

def tagged (tag : String) (parameters : List Parameter) (arguments : Arguments parameters) :
    Table Value :=
  ⟨(("type", Value.text tag) :: toFields parameters arguments).map
    fun field => (Key.text field.1, field.2)⟩

variable {parameters : List Parameter} {arguments : Arguments parameters}
  (apart : ("type" :: parameters.map (·.name)).Nodup)
include apart

theorem find?_tagged (tag : String) {field : String × Value}
    (member : field ∈ ("type", Value.text tag) :: toFields parameters arguments) :
    (tagged tag parameters arguments).find? field.1 = some field.2 := by
  refine Table.find?_object ?_ member
  rw [List.map_cons, names_toFields]
  exact apart

theorem tag_tagged (tag : String) (arguments : Arguments parameters) :
    (tagged tag parameters arguments).getOrNull "type" = .text tag := by
  have found : (tagged tag parameters arguments).find? "type" = some (.text tag) :=
    find?_tagged apart tag List.mem_cons_self
  simp [Table.getOrNull, Table.getD, found]

theorem ofFields_tagged (family : RuleFamily) (tag : String)
    (suit : Suit parameters arguments) :
    ofFields family tag (tagged tag parameters arguments) parameters =
      if Representable (integers parameters arguments) then .ok arguments
      else .error .tooLarge :=
  ofFields_toFields family tag suit fun _ member =>
    find?_tagged apart tag (List.mem_cons_of_mem _ member)

end Arguments

theorem ConditionKind.names_apart (kind : ConditionKind) :
    ("type" :: kind.parameters.map (·.name)).Nodup := by
  cases kind <;> decide

theorem ConditionKind.ofKeyword?_keyword (kind : ConditionKind) :
    ofKeyword? kind.keyword = some kind := by
  cases kind <;> decide

theorem EffectKind.names_apart (kind : EffectKind) :
    ("type" :: kind.parameters.map (·.name)).Nodup := by
  cases kind <;> decide

theorem EffectKind.ofTag?_tag (kind : EffectKind) : ofTag? kind.tag = some kind := by
  cases kind <;> decide

namespace Condition

def Suited (condition : Condition) : Prop :=
  Arguments.Suit condition.kind.parameters condition.arguments

def integers (condition : Condition) : List Int :=
  Arguments.integers condition.kind.parameters condition.arguments

theorem ofRecord_toRecord_eq {condition : Condition} (suited : condition.Suited) :
    ofRecord condition.toRecord =
      if Representable condition.integers then .ok condition else .error .tooLarge := by
  have fields : condition.toRecord.fields =
      .ok (Arguments.tagged condition.kind.keyword _ condition.arguments) := rfl
  have apart := condition.kind.names_apart
  have tag := Arguments.tag_tagged apart condition.kind.keyword condition.arguments
  have arguments : Arguments.ofFields .condition condition.kind.keyword
        (Arguments.tagged condition.kind.keyword _ condition.arguments) condition.kind.parameters =
      if Representable condition.integers then .ok condition.arguments else .error .tooLarge :=
    Arguments.ofFields_tagged apart .condition condition.kind.keyword suited
  by_cases representable : Representable condition.integers <;>
    simp [ofRecord, fields, tag, Value.text?, condition.kind.ofKeyword?_keyword, arguments,
      representable, bind, Except.bind, pure, Except.pure]

theorem ofRecord_toRecord {condition : Condition} (suited : condition.Suited)
    (moderate : Moderate condition.integers) : ofRecord condition.toRecord = .ok condition := by
  rw [ofRecord_toRecord_eq suited, if_pos moderate.representable]

theorem suited_make {kind : ConditionKind} {arguments : Arguments kind.parameters}
    (suit : Arguments.Suit kind.parameters arguments) : (kind.make arguments).Suited := by
  cases kind <;> exact suit

end Condition

namespace Effect

def Suited (effect : Effect) : Prop :=
  Arguments.Suit effect.kind.parameters effect.arguments

def integers (effect : Effect) : List Int :=
  Arguments.integers effect.kind.parameters effect.arguments

theorem ofRecord_toRecord_eq {effect : Effect} (suited : effect.Suited) :
    ofRecord effect.toRecord =
      if Representable effect.integers then .ok effect else .error .tooLarge := by
  have fields : effect.toRecord.fields =
      .ok (Arguments.tagged effect.kind.tag _ effect.arguments) := rfl
  have apart := effect.kind.names_apart
  have tag := Arguments.tag_tagged apart effect.kind.tag effect.arguments
  have arguments : Arguments.ofFields .effect effect.kind.tag
        (Arguments.tagged effect.kind.tag _ effect.arguments) effect.kind.parameters =
      if Representable effect.integers then .ok effect.arguments else .error .tooLarge :=
    Arguments.ofFields_tagged apart .effect effect.kind.tag suited
  by_cases representable : Representable effect.integers <;>
    simp [ofRecord, fields, tag, Value.text?, effect.kind.ofTag?_tag, arguments,
      representable, bind, Except.bind, pure, Except.pure]

theorem ofRecord_toRecord {effect : Effect} (suited : effect.Suited)
    (moderate : Moderate effect.integers) : ofRecord effect.toRecord = .ok effect := by
  rw [ofRecord_toRecord_eq suited, if_pos moderate.representable]

theorem suited_make {kind : EffectKind} {arguments : Arguments kind.parameters}
    (suit : Arguments.Suit kind.parameters arguments) : (kind.make arguments).Suited := by
  cases kind <;> exact suit

end Effect

theorem lift_eq_ok {α : Type} {result : Except Number.Fault α} {a : α} :
    (liftM result : Except Failure α) = .ok a ↔ result = .ok a := by
  cases result <;> simp [liftM, monadLift, MonadLift.monadLift]

theorem Number.finite_of_ofText? {text : List Char} {n : Number}
    (read : ofText? text = .ok (some n)) : n.Finite := by
  cases n with
  | int n => trivial
  | float x =>
    unfold ofText? at read
    split at read
    · cases read
    · next numeral _ =>
      cases number : numeral.number with
      | error fault => simp [number, bind, Except.bind] at read
      | ok other =>
        cases other with
        | int n => simp [number, bind, Except.bind, pure, Except.pure] at read
        | float y =>
          simp only [number, bind, Except.bind, pure, Except.pure, Except.ok.injEq,
            Option.ite_none_right_eq_some, Option.some.injEq, float.injEq] at read
          obtain ⟨finite, rfl⟩ := read
          exact finite

theorem Number.finite_of_isFinite {n : Number} (asked : n.isFinite = .ok true) : n.Finite := by
  cases n with
  | int n => trivial
  | float x =>
    have finite : x.isFinite = true := by
      simpa [isFinite, toFloat, bind, Except.bind, pure, Except.pure] using asked
    exact finite

theorem ofWord_suits (parameter : Parameter) (line : Option Value) (word : String) :
    Returns parameter.type.Suits (parameter.ofWord line word) := by
  obtain ⟨name, type⟩ := parameter
  cases type with
  | number =>
    simp only [Parameter.ofWord, Parameter.numberOfWord, returns_bind, lift_eq_ok]
    intro found read
    cases found with
    | none => simp
    | some n =>
      rw [returns_pure]
      exact Number.finite_of_ofText? read
  | scalar =>
    intro value made
    have read : Value.ofWord word = .ok value := lift_eq_ok.mp made
    unfold Value.ofWord at read
    cases found : Number.ofText? word.toList with
    | error fault => simp [found, bind, Except.bind] at read
    | ok spelled =>
      cases spelled with
      | none =>
        simp only [found, bind, Except.bind, pure, Except.pure, Except.ok.injEq] at read
        exact .inl ⟨word, read.symm⟩
      | some n =>
        simp only [found, bind, Except.bind, pure, Except.pure, Except.ok.injEq] at read
        exact .inr ⟨n, read.symm, Number.finite_of_ofText? found⟩
  | text | whole | truth => exact fun _ _ => trivial

theorem ofValue?_suits {type : ParameterType} {value : Value} {isFiniteNumber : Bool}
    {argument : type.Carrier} (asked : value.isFiniteNumber = .ok isFiniteNumber)
    (read : type.ofValue? value isFiniteNumber = some argument) : type.Suits argument := by
  have finite (n : Number) (isNumber : value = .number n) (yes : isFiniteNumber = true) :
      n.Finite := by
    subst isNumber yes
    simp only [Value.isFiniteNumber] at asked
    apply Number.finite_of_isFinite
    cases answer : n.isFinite <;> simp_all [liftM, monadLift, MonadLift.monadLift]
  cases type with
  | number =>
    cases value with
    | number n =>
      simp only [ParameterType.ofValue?, Option.ite_none_right_eq_some, Option.some.injEq] at read
      obtain ⟨yes, rfl⟩ := read
      exact finite n rfl yes
    | _ => simp [ParameterType.ofValue?] at read
  | scalar =>
    cases value with
    | number n =>
      simp only [ParameterType.ofValue?, Option.ite_none_right_eq_some, Option.some.injEq] at read
      obtain ⟨yes, rfl⟩ := read
      exact .inr ⟨n, rfl, finite n rfl yes⟩
    | text s =>
      simp only [ParameterType.ofValue?, Option.some.injEq] at read
      exact .inl ⟨s, read.symm⟩
    | _ => simp [ParameterType.ofValue?] at read
  | text | whole | truth => trivial

namespace Arguments

theorem ofWords_suit (line : Option Value) (label : String) (parameters : List Parameter)
    (words : List String) : Returns (Suit parameters) (ofWords line label parameters words) := by
  have each (fault : ScriptFault) :
      Returns (Suit parameters) (ofWordsFrom line fault parameters words) := by
    induction parameters generalizing words with
    | nil => simp [ofWordsFrom, Suit]
    | cons parameter parameters ih =>
      cases words with
      | nil => simp [ofWordsFrom]
      | cons word words =>
        simp only [ofWordsFrom, returns_bind, returns_pure]
        exact fun argument read arguments readRest =>
          ⟨ofWord_suits parameter line word argument read, ih words arguments readRest⟩
  simp only [ofWords, returns_ite, returns_error, implies_true, and_true]
  exact fun _ => each _

theorem ofFields_suit (family : RuleFamily) (kind : String) (table : Table Value)
    (parameters : List Parameter) :
    Returns (Suit parameters) (ofFields family kind table parameters) := by
  induction parameters with
  | nil => simp [ofFields, Suit]
  | cons parameter parameters ih =>
    unfold ofFields
    cases table.find? parameter.name with
    | none => simp
    | some value =>
      simp only [returns_bind]
      intro isFiniteNumber asked
      cases read : parameter.type.ofValue? value isFiniteNumber with
      | none => simp
      | some argument =>
        simp only [returns_bind, returns_pure]
        exact fun arguments readRest => ⟨ofValue?_suits asked read, ih arguments readRest⟩

end Arguments

namespace Condition

theorem ofRecord_suited (record : Value) : Returns Suited (ofRecord record) := by
  simp only [ofRecord, returns_bind]
  intro table _
  split
  · simp only [returns_bind, returns_pure]
    exact fun arguments read => suited_make (Arguments.ofFields_suit _ _ _ _ arguments read)
  · simp

theorem compile_suited (line : Option Value) (text : List Char) :
    Returns Suited (compile line text) := by
  unfold compile
  split
  · simp
  · split
    · simp
    · simp only [returns_bind, returns_pure]
      exact fun arguments read => suited_make (Arguments.ofWords_suit _ _ _ _ arguments read)

end Condition

namespace Effect

theorem ofRecord_suited (record : Value) : Returns Suited (ofRecord record) := by
  simp only [ofRecord, returns_bind]
  intro table _
  split
  · simp only [returns_bind, returns_pure]
    exact fun arguments read => suited_make (Arguments.ofFields_suit _ _ _ _ arguments read)
  · simp

theorem compile_suited (line : Option Value) (text : List Char) :
    Returns Suited (compile line text) := by
  have made (label : String) (kind : EffectKind) (words : List String) :
      Returns Suited
        (do return kind.make (← Arguments.ofWords line label kind.parameters words)) := by
    simp only [returns_bind, returns_pure]
    exact fun arguments read => suited_make (Arguments.ofWords_suit _ _ _ _ arguments read)
  unfold compile
  split
  · simp
  · split
    · simp only [compileTail, returns_ite, returns_error, implies_true, true_and]
      exact fun _ => made _ _ _
    · exact made _ _ _
    · simp only [compilePair, returns_ite, returns_error, implies_true, and_true]
      intro _
      split
      · simp
      · exact made _ _ _

end Effect

end Fabula
