import Fabula.Proofs.Dialogue.Record
import Fabula.Proofs.Script.Overlong
/-!
# Flaws of rules

Content that cannot be read is reported as a fault of the content or of a script in it. What escapes
this is a flaw: something that the reader of content takes for granted and that is not there. A
flaw comes to light only if everything that is read before it can be read. Main statements:

* `escapes_bind`, `escapes_listOf_iff`: a failure escapes where the first part fails that does;
* `ofFields_escapes_iff`: the fields of a rule fail at a number beyond the range of floats;
* `Condition.ofAuthored_escapes_iff`, `Effect.ofAuthored_escapes_iff`: the flaws of rules;
* `required_escapes_iff`: the flaws of records where an id is required.
-/

namespace Fabula
variable {α β : Type} {P : Failure → Prop} {failure : Failure}

/-! ## Failures that escape -/

def Failure.IsReported : Failure → Prop
  | .content _ | .script .. => True
  | _ => False

def Failure.IsRule : Failure → Prop
  | .unsuitable (.rule _) => True
  | _ => False

def Escapes (P : Failure → Prop) (failure : Failure) (result : Except Failure α) : Prop :=
  result = .error failure ∧ ¬ P failure

@[simp] theorem escapes_ok (a : α) : ¬ Escapes P failure (.ok a) := by
  simp [Escapes]

@[simp] theorem escapes_pure (a : α) : ¬ Escapes P failure (pure a) :=
  escapes_ok a

@[simp] theorem escapes_error (other : Failure) :
    Escapes P failure (.error other : Except Failure α) ↔ failure = other ∧ ¬ P other := by
  simp only [Escapes, Except.error.injEq]
  constructor
  · rintro ⟨rfl, escapes⟩
    exact ⟨rfl, escapes⟩
  · rintro ⟨rfl, escapes⟩
    exact ⟨rfl, escapes⟩

@[simp] theorem escapes_throw (other : Failure) :
    Escapes P failure (throw other : Except Failure α) ↔ failure = other ∧ ¬ P other :=
  escapes_error other

theorem escapes_error_iff {Flaw : Failure → Prop} {other : Failure} (escapes : ¬ P other)
    (flaw : Flaw other) (only : ∀ failure, Flaw failure → failure = other) :
    Escapes P failure (.error other : Except Failure α) ↔ Flaw failure := by
  rw [escapes_error]
  constructor
  · rintro ⟨rfl, _⟩
    exact flaw
  · intro flaw
    exact ⟨only failure flaw, escapes⟩

@[simp] theorem escapes_bind (first : Except Failure α) (next : α → Except Failure β) :
    Escapes P failure (first >>= next) ↔
      Escapes P failure first ∨ ∃ a, first = .ok a ∧ Escapes P failure (next a) := by
  simp only [Escapes, error_of_bind_iff, or_and_right, ← exists_and_right, and_assoc]

@[simp] theorem escapes_map (f : α → β) (result : Except Failure α) :
    Escapes P failure (f <$> result) ↔ Escapes P failure result := by
  cases result <;> simp [Functor.map, Except.map]

theorem escapes_of_failsOnly {result : Except Failure α} {Q : Failure → Prop}
    (fails : FailsOnly Q result) (apart : ∀ failure, Q failure → ¬ P failure) :
    Escapes P failure result ↔ result = .error failure :=
  and_iff_left_of_imp fun failed => apart failure (fails failure failed)

theorem escapes_mapM_iff {read : α → Except Failure β} {items : List α} :
    Escapes P failure (items.mapM read) ↔ ∃ before item after, items = before ++ item :: after ∧
      (∀ other ∈ before, ∃ b, read other = .ok b) ∧ Escapes P failure (read item) := by
  rw [Escapes, mapM_eq_error_iff]
  simp only [Escapes, ← exists_and_right, and_assoc]

theorem escapes_then_iff {first : Except Failure α} {next : α → Except Failure β} {Flaw : Prop}
    (second : ∀ a, Escapes P failure (next a) ↔ Flaw) : Escapes P failure (first >>= next) ↔
      Escapes P failure first ∨ (∃ a, first = .ok a) ∧ Flaw := by
  simp only [escapes_bind, second, exists_and_right]

inductive ListFlaw {ι : Type} (list : Except Failure (List ι)) (read : ι → Except Failure α)
    (Flaw : ι → Failure → Prop) (failure : Failure) : Prop
  | unlisted (fails : list = .error failure)
  | item {before after : List ι} {item : ι} (listed : list = .ok (before ++ item :: after))
      (earlier : ∀ other ∈ before, ∃ a, read other = .ok a) (flaw : Flaw item failure)

theorem escapes_listOf_iff {ι : Type} {list : Except Failure (List ι)}
    {read : ι → Except Failure α} {Flaw : ι → Failure → Prop}
    (unlisted : Escapes P failure list ↔ list = .error failure)
    (each : ∀ item, Escapes P failure (read item) ↔ Flaw item failure) :
    Escapes P failure (do (← list).mapM read) ↔ ListFlaw list read Flaw failure := by
  simp only [escapes_bind, unlisted, escapes_mapM_iff, each]
  constructor
  · rintro (fails | ⟨_, listed, before, item, after, rfl, earlier, flaw⟩)
    · exact .unlisted fails
    · exact .item listed earlier flaw
  · rintro (fails | ⟨listed, earlier, flaw⟩)
    · exact .inl fails
    · exact .inr ⟨_, listed, _, _, _, rfl, earlier, flaw⟩

theorem ofValue_not_isReported : ∀ failure : Failure, failure.OfValue → ¬ failure.IsReported := by
  intro failure ofValue
  cases failure <;> simp_all [Failure.IsReported, Failure.OfValue]

theorem items_escapes_iff (data : Value) :
    Escapes Failure.IsReported failure data.items ↔ data.items = .error failure :=
  escapes_of_failsOnly (items_failsOnly data) ofValue_not_isReported

theorem table_escapes_iff (data : Value) :
    Escapes Failure.IsReported failure data.table ↔ data.table = .error failure :=
  escapes_of_failsOnly (table_failsOnly data) ofValue_not_isReported

/-! ## Rules -/

def Value.IsTooLarge (value : Value) : Prop :=
  ∃ n : Int, value = .int n ∧ (Binary64.ofInt n).isInf

theorem isFinite_eq_error_iff {n : Number} {fault : Number.Fault} : n.isFinite = .error fault ↔
    fault = .tooLarge ∧ ∃ i : Int, n = .int i ∧ (Binary64.ofInt i).isInf := by
  cases n with
  | float x => simp [Number.isFinite, Number.toFloat, bind, Except.bind, pure, Except.pure]
  | int i =>
    by_cases large : (Binary64.ofInt i).isInf
    · have fails : (Number.int i).isFinite = .error .tooLarge := by
        simp [Number.isFinite, Number.toFloat, large, bind, Except.bind]
      rw [fails]
      constructor
      · rintro ⟨⟩
        exact ⟨rfl, i, rfl, large⟩
      · rintro ⟨rfl, _⟩
        rfl
    · have asks : (Number.int i).isFinite = .ok (Binary64.ofInt i).isFinite := by
        simp [Number.isFinite, Number.toFloat, large, bind, Except.bind, pure, Except.pure]
      rw [asks]
      constructor
      · intro fails
        cases fails
      · rintro ⟨_, _, ⟨⟩, infinite⟩
        exact absurd infinite large

theorem isFiniteNumber_escapes_iff (value : Value) :
    Escapes Failure.IsRule failure value.isFiniteNumber ↔
      failure = .tooLarge ∧ value.IsTooLarge := by
  have liftsOnly : value.isFiniteNumber = .error failure ↔
      failure = .tooLarge ∧ value.IsTooLarge := by
    cases value with
    | number n =>
      refine liftM_eq_error_iff.trans ⟨?_, ?_⟩
      · rintro ⟨fault, fails, rfl⟩
        obtain ⟨rfl, i, rfl, large⟩ := isFinite_eq_error_iff.mp fails
        exact ⟨rfl, i, rfl, large⟩
      · rintro ⟨rfl, i, same, large⟩
        cases same
        exact ⟨.tooLarge, isFinite_eq_error_iff.mpr ⟨rfl, i, rfl, large⟩, rfl⟩
    | _ => simp [Value.isFiniteNumber, Value.IsTooLarge, Value.int]
  rw [Escapes, liftsOnly]
  refine and_iff_left_of_imp ?_
  rintro ⟨rfl, _⟩
  exact id

def Parameter.ReadsField (table : Table Value) (parameter : Parameter) : Prop :=
  ∃ value isFiniteNumber argument, table.find? parameter.name = some value ∧
    value.isFiniteNumber = .ok isFiniteNumber ∧
      parameter.type.ofValue? value isFiniteNumber = some argument

/-- Whether the first of some parameters that a record has no suitable field for has an integer
beyond the range of floats there. -/
inductive Arguments.TooLarge (table : Table Value) : List Parameter → Prop
  | here {parameter : Parameter} {parameters : List Parameter} {value : Value}
      (found : table.find? parameter.name = some value) (large : value.IsTooLarge) :
      TooLarge table (parameter :: parameters)
  | later {parameter : Parameter} {parameters : List Parameter}
      (reads : parameter.ReadsField table) (later : TooLarge table parameters) :
      TooLarge table (parameter :: parameters)

theorem ofFields_escapes_iff {family : RuleFamily} {kind : String} {table : Table Value}
    {parameters : List Parameter} :
    Escapes Failure.IsRule failure (Arguments.ofFields family kind table parameters) ↔
      failure = .tooLarge ∧ Arguments.TooLarge table parameters := by
  -- A field is asked whether it is finite before it is compared with its type, so it is too large
  -- for fields of every type.
  induction parameters with
  | nil =>
    rw [Arguments.ofFields]
    refine iff_of_false (escapes_ok _) fun flaw => ?_
    cases flaw.2
  | cons parameter parameters ih =>
    constructor
    · intro escapes
      unfold Arguments.ofFields at escapes
      split at escapes
      · next value found =>
        rw [escapes_bind, isFiniteNumber_escapes_iff] at escapes
        obtain ⟨rfl, large⟩ | ⟨finite, asked, escapes⟩ := escapes
        · exact ⟨rfl, .here found large⟩
        · split at escapes
          · next argument reads =>
            simp only [escapes_bind, escapes_pure, and_false, exists_false, or_false, ih] at escapes
            exact ⟨escapes.1, .later ⟨value, finite, argument, found, asked, reads⟩ escapes.2⟩
          · simp [Failure.IsRule] at escapes
      · simp [Failure.IsRule] at escapes
    · rintro ⟨rfl, large⟩
      unfold Arguments.ofFields
      cases large with
      | here found large =>
        simp only [found, escapes_bind]
        exact .inl ((isFiniteNumber_escapes_iff _).mpr ⟨rfl, large⟩)
      | later reads later =>
        obtain ⟨value, finite, argument, found, asked, reads⟩ := reads
        simp only [found, escapes_bind]
        refine .inr ⟨finite, asked, ?_⟩
        simp only [reads, escapes_bind]
        exact .inl (ih.mpr ⟨rfl, later⟩)

/-- The flaws of an authored rule: an expression with an integer of too many digits, a record with
an integer beyond the range of floats, and what is neither an expression nor a record. -/
inductive RuleFlaw (Overlong : List Char → Nat → Prop)
    (parameters? : String → Option (List Parameter)) : Value → Failure → Prop
  | overlong {s : String} {count : Nat} (long : Overlong s.toList count) :
      RuleFlaw Overlong parameters? (.text s) (.overlong count)
  | formless {data : Value} (noText : data.text? = none) (noRecord : ¬ data.IsRecord) :
      RuleFlaw Overlong parameters? data .noParts
  | tooLarge {fields : List (Key × Value)} {tag : String} {parameters : List Parameter}
      (tagged : (Table.mk fields).getOrNull "type" = .text tag)
      (known : parameters? tag = some parameters) (large : Arguments.TooLarge ⟨fields⟩ parameters) :
      RuleFlaw Overlong parameters? (.record fields) .tooLarge

abbrev Condition.Flaw : Value → Failure → Prop :=
  RuleFlaw Condition.Overlong fun tag =>
    (ConditionKind.ofKeyword? tag).map ConditionKind.parameters

abbrev Effect.Flaw : Value → Failure → Prop :=
  RuleFlaw Effect.Overlong fun tag => (EffectKind.ofTag? tag).map EffectKind.parameters

theorem inContent_of_isRule : failure.IsRule → failure.inContent.IsReported := by
  cases failure with
  | unsuitable fault => cases fault <;> simp [Failure.IsRule, Failure.inContent, Failure.IsReported]
  | _ => exact False.elim

theorem inContent_of_not_isRule (noRule : ¬ failure.IsRule) : failure.inContent = failure := by
  unfold Failure.inContent
  split
  · exact absurd trivial noRule
  · rfl

theorem mapError_escapes_iff {result : Except Failure α} :
    Escapes Failure.IsReported failure (result.mapError Failure.inContent) ↔
      Escapes Failure.IsRule failure result ∧ ¬ failure.IsReported := by
  cases result with
  | ok a => simp [mapError_ok]
  | error other =>
    rw [mapError_error, escapes_error, escapes_error]
    by_cases rule : other.IsRule
    · simp [rule, inContent_of_isRule rule]
    · rw [inContent_of_not_isRule rule]
      constructor
      · rintro ⟨rfl, escapes⟩
        exact ⟨⟨rfl, rule⟩, escapes⟩
      · rintro ⟨⟨rfl, _⟩, escapes⟩
        exact ⟨rfl, escapes⟩

def RuleFamily.read {κ : Type} (family : RuleFamily) (ofTag? : String → Option κ)
    (name : κ → String) (parameters : κ → List Parameter)
    (make : (kind : κ) → Arguments (parameters kind) → α) (data : Value) : Except Failure α := do
  let table ← data.fields
  let tag := table.getOrNull "type"
  let some kind := tag.text?.bind ofTag?
    | throw (.unsuitable (.rule (.unknownKind family tag)))
  return make kind (← Arguments.ofFields family (name kind) table (parameters kind))

theorem Condition.ofRecord_eq_read (data : Value) :
    ofRecord data = RuleFamily.condition.read ConditionKind.ofKeyword? ConditionKind.keyword
      ConditionKind.parameters ConditionKind.make data := by
  unfold ofRecord RuleFamily.read
  congr 1
  funext table
  dsimp only
  cases (table.getOrNull "type").text?.bind ConditionKind.ofKeyword? <;> rfl

theorem Effect.ofRecord_eq_read (data : Value) :
    ofRecord data = RuleFamily.effect.read EffectKind.ofTag? EffectKind.tag EffectKind.parameters
      EffectKind.make data := by
  unfold ofRecord RuleFamily.read
  congr 1
  funext table
  dsimp only
  cases (table.getOrNull "type").text?.bind EffectKind.ofTag? <;> rfl

theorem read_escapes_iff {κ : Type} {family : RuleFamily} {Overlong : List Char → Nat → Prop}
    {ofTag? : String → Option κ} {name : κ → String} {parameters : κ → List Parameter}
    {make : (kind : κ) → Arguments (parameters kind) → α} {data : Value}
    (noText : data.text? = none) : Escapes Failure.IsReported failure
      ((family.read ofTag? name parameters make data).mapError Failure.inContent) ↔
        RuleFlaw Overlong (fun tag => (ofTag? tag).map parameters) data failure := by
  -- An unknown kind and an unsuitable field are faults of the rule; what is left is no record or an
  -- integer that is too large.
  rw [mapError_escapes_iff, RuleFamily.read, escapes_bind]
  constructor
  · rintro ⟨escapes, _⟩
    cases data with
    | text s => cases noText
    | record fields =>
      obtain fails | ⟨_, ⟨⟩, escapes⟩ := escapes
      · exact absurd fails (escapes_ok _)
      · dsimp only at escapes
        split at escapes
        · next kind known =>
          simp only [escapes_bind, escapes_pure, and_false, exists_false, or_false,
            ofFields_escapes_iff] at escapes
          obtain ⟨rfl, large⟩ := escapes
          obtain ⟨tag, tagged, known⟩ := Option.bind_eq_some_iff.mp known
          have tagged : (Table.mk fields).getOrNull "type" = .text tag := by
            cases found : (Table.mk fields).getOrNull "type" <;> simp_all [Value.text?]
          exact .tooLarge tagged (by rw [known]; rfl) large
        · simp [Failure.IsRule] at escapes
    | _ =>
      obtain fails | ⟨_, reads, _⟩ := escapes
      · obtain ⟨rfl, _⟩ := (escapes_error _).mp fails
        exact .formless rfl id
      · cases reads
  · intro flaw
    cases flaw with
    | overlong long => cases noText
    | formless _ noRecord =>
      refine ⟨.inl ⟨(fields_eq_noParts_iff data).mpr noRecord, id⟩, id⟩
    | tooLarge tagged known large =>
      obtain ⟨kind, found, rfl⟩ := Option.map_eq_some_iff.mp known
      refine ⟨.inr ⟨_, rfl, ?_⟩, id⟩
      simp only [tagged, Value.text?, Option.bind_some, found, escapes_bind]
      exact .inl (ofFields_escapes_iff.mpr ⟨rfl, large⟩)

theorem expression_escapes_iff {result : Except Failure α} {Long : Nat → Prop}
    (fails : FailsOnly (Failure.OfSource none) result)
    (long : ∀ count, result = .error (.overlong count) ↔ Long count) :
    Escapes Failure.IsReported failure result ↔
      ∃ count, failure = .overlong count ∧ Long count := by
  constructor
  · rintro ⟨failed, escapes⟩
    obtain ⟨fault, rfl⟩ | ⟨count, rfl⟩ := fails failure failed
    · exact absurd trivial escapes
    · exact ⟨count, rfl, (long count).mp failed⟩
  · rintro ⟨count, rfl, is⟩
    exact ⟨(long count).mpr is, id⟩

theorem ruleFlaw_text_iff {Overlong : List Char → Nat → Prop}
    {parameters? : String → Option (List Parameter)} {s : String} :
    RuleFlaw Overlong parameters? (.text s) failure ↔
      ∃ count, failure = .overlong count ∧ Overlong s.toList count := by
  constructor
  · rintro (long | ⟨noText, _⟩)
    · exact ⟨_, rfl, long⟩
    · cases noText
  · rintro ⟨count, rfl, long⟩
    exact .overlong long

theorem Condition.ofAuthored_escapes_iff (data : Value) (failure : Failure) :
    Escapes Failure.IsReported failure (ofAuthored data) ↔ Flaw data failure := by
  have record (noText : data.text? = none) : Escapes Failure.IsReported failure
      ((ofRecord data).mapError Failure.inContent) ↔ Flaw data failure := by
    rw [ofRecord_eq_read]
    exact read_escapes_iff noText
  cases data with
  | text s =>
    refine Iff.trans ?_ ruleFlaw_text_iff.symm
    exact expression_escapes_iff (compile_fails _) fun _ => compile_eq_overlong_iff
  | _ => exact record rfl

theorem Effect.ofAuthored_escapes_iff (data : Value) (failure : Failure) :
    Escapes Failure.IsReported failure (ofAuthored data) ↔ Flaw data failure := by
  have record (noText : data.text? = none) : Escapes Failure.IsReported failure
      ((ofRecord data).mapError Failure.inContent) ↔ Flaw data failure := by
    rw [ofRecord_eq_read]
    exact read_escapes_iff noText
  cases data with
  | text s =>
    refine Iff.trans ?_ ruleFlaw_text_iff.symm
    exact expression_escapes_iff (compile_fails _) fun _ => compile_eq_overlong_iff
  | _ => exact record rfl

def RulesFlaw (read : Value → Except Failure α) (Flaw : Value → Failure → Prop) (data : Value)
    (failure : Failure) : Prop :=
  data.isPresent ∧ ListFlaw data.items read Flaw failure

abbrev Condition.ListFlaw : Value → Failure → Prop :=
  RulesFlaw Condition.ofAuthored Condition.Flaw

abbrev Effect.ListFlaw : Value → Failure → Prop :=
  RulesFlaw Effect.ofAuthored Effect.Flaw

theorem rules_escapes_iff {read : Value → Except Failure α} {Flaw : Value → Failure → Prop}
    (each : ∀ item failure, Escapes Failure.IsReported failure (read item) ↔ Flaw item failure)
    (data : Value) : Escapes Failure.IsReported failure
      (do if data.isPresent then (← data.items).mapM read else return []) ↔
        RulesFlaw read Flaw data failure := by
  by_cases present : data.isPresent
  · simp only [present, if_true, RulesFlaw, true_and]
    exact escapes_listOf_iff (items_escapes_iff data) fun item => each item failure
  · simp [present, RulesFlaw]

theorem Condition.listOfAuthored_escapes_iff (data : Value) (failure : Failure) :
    Escapes Failure.IsReported failure (listOfAuthored data) ↔ ListFlaw data failure :=
  rules_escapes_iff ofAuthored_escapes_iff data

theorem Effect.listOfAuthored_escapes_iff (data : Value) (failure : Failure) :
    Escapes Failure.IsReported failure (listOfAuthored data) ↔ ListFlaw data failure :=
  rules_escapes_iff ofAuthored_escapes_iff data

/-! ## Required ids -/

/-- The flaws of what must have an id: it cannot be written into the message that it has none, or it
is no record and still does not answer that it has none. -/
inductive NameFlaw : Value → Failure → Prop
  | record {fields : List (Key × Value)}
      (nameless : ∀ id, (Table.mk fields).find? "id" = some id → ¬ id.Names)
      (unwritable : ¬ (Value.record fields).isWritable) :
      NameFlaw (.record fields) (.unsuitable .unwritable)
  | list {items : List Value} (unlisted : ¬ Value.memberOf (.text "id") items)
      (unwritable : ¬ (Value.list items).isWritable) :
      NameFlaw (.list items) (.unsuitable .unwritable)
  | listed {items : List Value} (listed : Value.memberOf (.text "id") items) :
      NameFlaw (.list items) .wrongKind
  | text {s : String} (part : Text.occursIn "id".toList s.toList) : NameFlaw (.text s) .wrongKind
  | scalar {data : Value} (scalar : data.key?.isSome) (noText : data.text? = none) :
      NameFlaw data .wrongKind

theorem missing_escapes_iff {kind name : String} {data : Value} :
    Escapes Failure.IsReported failure (do
      throw (.content (.missing kind name (← data.writable))) : Except Failure α) ↔
        failure = .unsuitable .unwritable ∧ ¬ data.isWritable := by
  by_cases writable : data.isWritable
  · simp [Value.writable, writable, Failure.IsReported]
  · simp [Value.writable, writable, Failure.IsReported]

theorem missing_ne_ok {kind name : String} {data : Value} {a : α} : (do
    throw (.content (.missing kind name (← data.writable))) : Except Failure α) ≠ .ok a := by
  intro reads
  obtain ⟨_, _, fails⟩ := Script.bind_eq_ok.mp reads
  cases fails

theorem required_of_nameless {kind name : String} {fields : List (Key × Value)}
    (nameless : ∀ id, (Table.mk fields).find? name = some id → ¬ id.Names) :
    (Value.record fields).required kind name = (do
      throw (.content (.missing kind name (← (Value.record fields).writable)))) := by
  unfold Value.required
  dsimp only
  split
  · rfl
  · rfl
  · rfl
  · next value absent empty found => exact absurd ⟨absent, empty⟩ (nameless value found)

theorem required_escapes_iff {kind : String} {data : Value} :
    Escapes Failure.IsReported failure (data.required kind "id") ↔ NameFlaw data failure := by
  -- A text or a list that does not contain the name of the field is reported as a record would be.
  cases data with
  | record fields =>
    by_cases named : ∃ id, (Table.mk fields).find? "id" = some id ∧ id.Names
    · obtain ⟨id, found, names⟩ := named
      rw [required_of_names found names]
      refine iff_of_false (escapes_ok _) fun flaw => ?_
      cases flaw with
      | record nameless _ => exact nameless id found names
      | scalar scalar _ => cases scalar
    · have nameless : ∀ id, (Table.mk fields).find? "id" = some id → ¬ id.Names :=
        fun id found names => named ⟨id, found, names⟩
      rw [required_of_nameless nameless, missing_escapes_iff]
      constructor
      · rintro ⟨rfl, unwritable⟩
        exact .record nameless unwritable
      · intro flaw
        cases flaw with
        | record _ unwritable => exact ⟨rfl, unwritable⟩
        | scalar scalar _ => cases scalar
  | text s =>
    unfold Value.required
    dsimp only
    split
    · next part =>
      exact escapes_error_iff id (.text part) fun _ flaw => by cases flaw <;> rfl
    · next part =>
      rw [missing_escapes_iff]
      refine iff_of_false (fun unwritable => unwritable.2 rfl) fun flaw => ?_
      cases flaw with
      | text contained => exact part contained
      | scalar _ noText => cases noText
  | list items =>
    unfold Value.required
    dsimp only
    split
    · next listed =>
      refine escapes_error_iff id (.listed listed) fun _ flaw => ?_
      cases flaw with
      | list unlisted _ => exact absurd listed unlisted
      | listed _ => rfl
      | scalar _ _ => rfl
    · next unlisted =>
      rw [missing_escapes_iff]
      constructor
      · rintro ⟨rfl, unwritable⟩
        exact .list unlisted unwritable
      · intro flaw
        cases flaw with
        | list _ unwritable => exact ⟨rfl, unwritable⟩
        | listed listed => exact absurd listed unlisted
        | scalar scalar _ => cases scalar
  | _ => exact escapes_error_iff id (.scalar rfl rfl) fun _ flaw => by cases flaw; rfl

theorem required_eq_ok_iff {kind : String} {data id : Value} : data.required kind "id" = .ok id ↔
    ∃ fields, data = .record fields ∧ (Table.mk fields).find? "id" = some id ∧ id.Names := by
  constructor
  · intro reads
    cases data with
    | record fields =>
      by_cases named : ∃ id, (Table.mk fields).find? "id" = some id ∧ id.Names
      · obtain ⟨other, found, names⟩ := named
        rw [required_of_names found names] at reads
        cases reads
        exact ⟨fields, rfl, found, names⟩
      · rw [required_of_nameless fun id found names => named ⟨id, found, names⟩] at reads
        exact absurd reads missing_ne_ok
    | text s =>
      unfold Value.required at reads
      dsimp only at reads
      split at reads
      · cases reads
      · exact absurd reads missing_ne_ok
    | list items =>
      unfold Value.required at reads
      dsimp only at reads
      split at reads
      · cases reads
      · exact absurd reads missing_ne_ok
    | _ => cases reads
  · rintro ⟨fields, rfl, found, names⟩
    exact required_of_names found names

inductive RecordFlaw (Rest : Table Value → Failure → Prop) : Value → Failure → Prop
  | name {data : Value} {failure : Failure} (flaw : NameFlaw data failure) :
      RecordFlaw Rest data failure
  | rest {fields : List (Key × Value)} {id : Value} {failure : Failure}
      (named : (Table.mk fields).find? "id" = some id) (names : id.Names)
      (flaw : Rest ⟨fields⟩ failure) : RecordFlaw Rest (.record fields) failure

theorem record_escapes_iff {kind : String} {data : Value} {Rest : Table Value → Failure → Prop}
    {next : Value → Except Failure α} (each : ∀ fields id, data = .record fields →
      (Escapes Failure.IsReported failure (next id) ↔ Rest ⟨fields⟩ failure)) :
    Escapes Failure.IsReported failure (data.required kind "id" >>= next) ↔
      RecordFlaw Rest data failure := by
  rw [escapes_bind, required_escapes_iff]
  constructor
  · rintro (flaw | ⟨id, reads, escapes⟩)
    · exact .name flaw
    · obtain ⟨fields, rfl, found, names⟩ := required_eq_ok_iff.mp reads
      exact .rest found names ((each fields id rfl).mp escapes)
  · intro flaw
    cases flaw with
    | name flaw => exact .inl flaw
    | rest found names flaw =>
      exact .inr ⟨_, required_of_names found names, (each _ _ rfl).mpr flaw⟩

end Fabula
