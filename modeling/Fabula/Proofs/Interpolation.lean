import Fabula.Localization
import Fabula.Proofs.Script.Layout
/-!
# Filling in variables is local

A text falls into pieces at its placeholders, and it is filled in piece by piece: what stands around
a placeholder does not matter, and the value of a variable is never looked at again. Main
statements:

* `pieces_append`: a text falls into pieces apart from what is written behind it, if it leaves no
  brace open;
* `filled_placeholder`, `filled_char`: a text is filled in from its front;
* `interpolate_local`: what this means for the text that is shown.
-/

namespace Fabula.Localization
variable {text rest name : List Char} {bindings other : Table Value}

structure IsName (name : List Char) : Prop where
  given : name ≠ []
  word : ∀ c ∈ name, Text.isWord c = true

def Written (name text : List Char) : Prop :=
  IsName name ∧ '\x7b' :: (name ++ ['\x7d']) <:+: text

/-- Whether behind every opening brace of a text there is a closing one. -/
def Closed (text : List Char) : Prop :=
  ∀ before after, text = before ++ '\x7b' :: after → '\x7d' ∈ after

theorem Written.behind {whole : List Char} (written : Written name text) (front : List Char)
    (split : whole = front ++ text) : Written name whole := by
  obtain ⟨isName, inside⟩ := written
  exact ⟨isName, inside.trans ⟨front, [], by rw [split, List.append_nil]⟩⟩

theorem Written.brace (written : Written name text) : '\x7b' ∈ text := by
  obtain ⟨front, back, rfl⟩ := written.2
  simp

theorem closed_of_plain (plain : '\x7b' ∉ text) : Closed text := by
  rintro before after rfl
  simp at plain

theorem closed_of_closes {front back : List Char} (plain : '\x7b' ∉ back) :
    Closed (front ++ '\x7d' :: back) := by
  intro before after split
  obtain ⟨inside, _, same⟩ | ⟨inside, _, same⟩ := List.append_eq_append_iff.mp split
  · -- The opening brace would be the closing one or stand behind it.
    cases inside with
    | nil => cases same
    | cons c inside =>
      obtain ⟨_, rfl⟩ := List.cons.inj same
      simp at plain
  · cases inside with
    | nil => cases same
    | cons c inside =>
      obtain ⟨_, rfl⟩ := List.cons.inj same
      simp

theorem Closed.suffix (front : List Char) (closed : Closed (front ++ text)) : Closed text := by
  intro before after split
  exact closed (front ++ before) after (by rw [split, List.append_assoc])

theorem isWord_brace : Text.isWord '\x7d' = false := by decide

theorem IsName.solid (isName : IsName name) : '\x7d' ∉ name := by
  intro listed
  have word := isName.word _ listed
  rw [isWord_brace] at word
  cases word

theorem placeholder?_eq_some :
    placeholder? text = some (name, rest) ↔ IsName name ∧ text = name ++ '\x7d' :: rest := by
  have split : IsName name ∧ text = name ++ '\x7d' :: rest ↔ name ≠ [] ∧
      text.takeWhile Text.isWord = name ∧ text.dropWhile Text.isWord = '\x7d' :: rest := by
    rw [Script.takeWhile_dropWhile_iff]
    constructor
    · rintro ⟨⟨given, word⟩, whole⟩
      exact ⟨given, whole, word, isWord_brace⟩
    · rintro ⟨given, whole, word, _⟩
      exact ⟨⟨given, word⟩, whole⟩
  rw [split]
  unfold placeholder?
  dsimp only
  generalize text.takeWhile Text.isWord = front
  generalize text.dropWhile Text.isWord = back
  split
  · cases front with
    | nil => simp +contextual
    | cons c front =>
      simp only [List.isEmpty_cons, Bool.false_eq_true, if_false, Option.some.injEq,
        Prod.mk.injEq, List.cons.injEq, true_and]
      constructor
      · rintro ⟨rfl, rfl⟩
        exact ⟨nofun, rfl, rfl⟩
      · exact And.right
  · next other =>
    refine iff_of_false nofun ?_
    rintro ⟨_, _, rfl⟩
    exact other _ rfl

theorem pieces_placeholder (isName : IsName name) (rest : List Char) :
    pieces ('\x7b' :: (name ++ '\x7d' :: rest)) = .placeholder name :: pieces rest := by
  have found : placeholder? (name ++ '\x7d' :: rest) = some (name, rest) :=
    placeholder?_eq_some.mpr ⟨isName, rfl⟩
  rw [pieces]
  simp only [beq_self_eq_true, if_true]
  split
  · next taken =>
    rw [found] at taken
    cases taken
    rfl
  · next missed =>
    rw [found] at missed
    cases missed

theorem pieces_char {c : Char} (plain : c = '\x7b' → placeholder? text = none) :
    pieces (c :: text) = .char c :: pieces text := by
  rw [pieces]
  split
  · next brace =>
    have missed := plain (eq_of_beq brace)
    split
    · next taken =>
      rw [missed] at taken
      cases taken
    · rfl
  · rfl

theorem pieces_cases {motive : List Char → Prop} (nil : motive [])
    (placeholder : ∀ name rest, IsName name → motive rest →
      motive ('\x7b' :: (name ++ '\x7d' :: rest)))
    (char : ∀ c text, (c = '\x7b' → placeholder? text = none) → motive text → motive (c :: text))
    (text : List Char) : motive text := by
  induction text using pieces.induct with
  | case1 => exact nil
  | case2 c text brace name rest found ih =>
    obtain ⟨isName, rfl⟩ := placeholder?_eq_some.mp found
    rw [eq_of_beq brace]
    exact placeholder name rest isName ih
  | case3 c text brace missed ih => exact char c text (fun _ => missed) ih
  | case4 c text plain ih => exact char c text (fun brace => absurd brace (by simpa using plain)) ih

theorem placeholder?_append (closes : '\x7d' ∈ text) (missed : placeholder? text = none)
    (behind : List Char) : placeholder? (text ++ behind) = none := by
  cases found : placeholder? (text ++ behind) with
  | none => rfl
  | some place =>
    obtain ⟨isName, whole⟩ := placeholder?_eq_some.mp found
    obtain ⟨inside, same, _⟩ | ⟨beyond, same, behindIt⟩ := List.append_eq_append_iff.mp whole
    · -- The name would reach over the whole text.
      rw [same] at isName
      exact absurd (List.mem_append_left inside closes) isName.solid
    · cases beyond with
      | nil =>
        rw [List.append_nil] at same
        exact absurd (same ▸ closes) isName.solid
      | cons c beyond =>
        obtain ⟨stops, _⟩ := List.cons.inj behindIt
        subst stops
        rw [placeholder?_eq_some.mpr ⟨isName, same⟩] at missed
        cases missed

theorem pieces_append (closed : Closed text) (behind : List Char) :
    pieces (text ++ behind) = pieces text ++ pieces behind := by
  induction text using pieces_cases with
  | nil => simp [pieces]
  | placeholder name rest isName ih =>
    have closed : Closed rest :=
      .suffix ('\x7b' :: (name ++ ['\x7d'])) (by simpa using closed)
    rw [List.cons_append, List.append_assoc, List.cons_append, pieces_placeholder isName,
      pieces_placeholder isName, ih closed, List.cons_append]
  | char c text plain ih =>
    have below : Closed text := .suffix [c] closed
    have plainBehind (brace : c = '\x7b') : placeholder? (text ++ behind) = none := by
      have closes : '\x7d' ∈ text := closed [] text (by rw [brace]; rfl)
      exact placeholder?_append closes (plain brace) behind
    rw [List.cons_append, pieces_char plainBehind, pieces_char plain, ih below, List.cons_append]

def filled (bindings : Table Value) (text : List Char) : Except Failure (List Char) := do
  return (← (pieces text).mapM (Piece.fill bindings)).flatten

theorem interpolate_eq (bindings : Table Value) (text : String) :
    interpolate bindings text = String.ofList <$> filled bindings text.toList := by
  unfold interpolate filled
  cases (pieces text.toList).mapM (Piece.fill bindings) <;> rfl

theorem filled_append (closed : Closed text) (behind : List Char) :
    filled bindings (text ++ behind) = do
      return (← filled bindings text) ++ (← filled bindings behind) := by
  unfold filled
  rw [pieces_append closed, List.mapM_append]
  cases (pieces text).mapM (Piece.fill bindings) with
  | error failure => rfl
  | ok front =>
    cases (pieces behind).mapM (Piece.fill bindings) with
    | error failure => rfl
    | ok back => exact congrArg Except.ok List.flatten_append

theorem filled_nil : filled bindings [] = .ok [] := by
  rw [filled, pieces]
  rfl

theorem filled_char {c : Char} (plain : c = '\x7b' → placeholder? text = none) :
    filled bindings (c :: text) = (c :: ·) <$> filled bindings text := by
  unfold filled
  rw [pieces_char plain, List.mapM_cons]
  cases (pieces text).mapM (Piece.fill bindings) <;> rfl

theorem filled_placeholder (isName : IsName name) (rest : List Char) :
    filled bindings ('\x7b' :: (name ++ '\x7d' :: rest)) = do
      return (← (Piece.placeholder name).fill bindings) ++ (← filled bindings rest) := by
  unfold filled
  rw [pieces_placeholder isName, List.mapM_cons]
  cases (Piece.placeholder name).fill bindings with
  | error failure => rfl
  | ok value => cases (pieces rest).mapM (Piece.fill bindings) <;> rfl

theorem filled_of_agree (agree : ∀ name, Written name text →
    bindings.find? (.text (String.ofList name)) = other.find? (.text (String.ofList name))) :
    filled bindings text = filled other text := by
  induction text using pieces_cases with
  | nil => rw [filled_nil, filled_nil]
  | placeholder name rest isName ih =>
    have here := agree name ⟨isName, [], rest, by simp⟩
    have others := ih fun other written =>
      agree other (written.behind ('\x7b' :: (name ++ ['\x7d'])) (by simp))
    rw [filled_placeholder isName, filled_placeholder isName, others, Piece.fill, Piece.fill, here]
  | char c text plain ih =>
    have others := ih fun other written => agree other (written.behind [c] rfl)
    rw [filled_char plain, filled_char plain, others]

theorem filled_of_unknown (unknown : ∀ name, Written name text →
    bindings.find? (.text (String.ofList name)) = none) : filled bindings text = .ok text := by
  induction text using pieces_cases with
  | nil => exact filled_nil
  | placeholder name rest isName ih =>
    have here := unknown name ⟨isName, [], rest, by simp⟩
    have others := ih fun other written =>
      unknown other (written.behind ('\x7b' :: (name ++ ['\x7d'])) (by simp))
    rw [filled_placeholder isName, others, Piece.fill, here]
    simp [bind, Except.bind, pure, Except.pure]
  | char c text plain ih =>
    have others := ih fun other written => unknown other (written.behind [c] rfl)
    rw [filled_char plain, others]
    rfl

theorem filled_of_plain (plain : '\x7b' ∉ text) : filled bindings text = .ok text :=
  filled_of_unknown fun _ written => absurd written.brace plain

theorem fill_text (bindings : Table Value) (text : String) :
    fill bindings (.text text) = Value.text <$> interpolate bindings text := by
  by_cases empty : bindings.entries = []
  · -- Without variables the text is not even looked at.
    have same : filled bindings text.toList = .ok text.toList :=
      filled_of_unknown fun name _ => by simp [Table.find?, empty]
    rw [interpolate_eq, same]
    simp [fill, Table.size, empty, pure, Except.pure, Functor.map, Except.map]
  · simp only [fill, Table.size, beq_iff_eq, List.length_eq_zero_iff, empty, if_false]
    cases interpolate bindings text <;> rfl

/-- A text is filled in from left to right, each placeholder once: a text that leaves no brace open
apart from what is written behind it, a placeholder by the value of its variable, whatever that
value looks like, and then what stands behind it. A text without a placeholder for a variable stays
as it is, and only the variables that it has a placeholder for count. -/
theorem interpolate_local (bindings : Table Value) :
    (∀ text, fill bindings (.text text) = Value.text <$> interpolate bindings text) ∧
    (∀ a b : String, Closed a.toList → interpolate bindings (a ++ b) = do
      return (← interpolate bindings a) ++ (← interpolate bindings b)) ∧
    (∀ (p name b : String) (value : Value), '\x7b' ∉ p.toList → IsName name.toList →
      bindings.find? (.text name) = some value →
      interpolate bindings (p ++ "\x7b" ++ name ++ "\x7d" ++ b) = do
        return p ++ (← (shown value).write) ++ (← interpolate bindings b)) ∧
    (∀ text : String,
      (∀ name : String, Written name.toList text.toList → bindings.find? (.text name) = none) →
      interpolate bindings text = .ok text) ∧
    ∀ (other : Table Value) (text : String),
      (∀ name : String, Written name.toList text.toList →
        bindings.find? (.text name) = other.find? (.text name)) →
      interpolate bindings text = interpolate other text := by
  refine ⟨fill_text bindings, fun a b closed => ?_, fun p name b value plain isName known => ?_,
    fun text unknown => ?_, fun other text agree => ?_⟩
  · rw [interpolate_eq, interpolate_eq, interpolate_eq, String.toList_append, filled_append closed]
    cases filled bindings a.toList with
    | error failure => rfl
    | ok front =>
      cases filled bindings b.toList with
      | error failure => rfl
      | ok back => exact congrArg Except.ok String.ofList_append
  · have front : filled bindings p.toList = .ok p.toList := filled_of_plain plain
    have inserted : (Piece.placeholder name.toList).fill bindings = do
        return (← (shown value).write).toList := by
      rw [Piece.fill, String.ofList_toList, known]
    have whole : (p ++ "\x7b" ++ name ++ "\x7d" ++ b).toList =
        p.toList ++ '\x7b' :: (name.toList ++ '\x7d' :: b.toList) := by simp
    rw [interpolate_eq, interpolate_eq, whole, filled_append (closed_of_plain plain), front,
      filled_placeholder isName, inserted]
    cases (shown value).write with
    | error failure => rfl
    | ok written =>
      cases filled bindings b.toList with
      | error failure => rfl
      | ok back =>
        simp [bind, Except.bind, pure, Except.pure, Functor.map, Except.map, String.append_assoc]
  · have known : filled bindings text.toList = .ok text.toList :=
      filled_of_unknown fun name written => unknown _ (by simpa using written)
    rw [interpolate_eq, known]
    exact congrArg Except.ok String.ofList_toList
  · rw [interpolate_eq, interpolate_eq, filled_of_agree fun name written =>
      agree (String.ofList name) (by simpa using written)]

def heroBindings : Table Value :=
  ⟨[("gold", .number (.int 3)), ("hero", "\x7bgold\x7d")]⟩

theorem interpolate_hero :
    interpolate heroBindings ("\x7bsun\x7d " ++ ("Hi " ++ "\x7b" ++ "hero" ++ "\x7d" ++ "!")) =
      .ok "\x7bsun\x7d Hi \x7bgold\x7d!" ∧
    interpolate heroBindings "\x7bgold\x7d" =
      interpolate (heroBindings.insert "hero" "Ada") "\x7bgold\x7d" := by
  obtain ⟨_, apart, inserted, unknown, agree⟩ := interpolate_local heroBindings
  have closed : Closed "\x7bsun\x7d ".toList :=
    @closed_of_closes ['\x7b', 's', 'u', 'n'] [' '] (by decide)
  have front : interpolate heroBindings "\x7bsun\x7d " = .ok "\x7bsun\x7d " := by
    refine unknown _ fun name written => ?_
    by_cases gold : name = "gold"
    · exact absurd (gold ▸ written.2) (by decide)
    by_cases hero : name = "hero"
    · exact absurd (hero ▸ written.2) (by decide)
    simp [heroBindings, Table.find?, Key.same_text, Ne.symm gold, Ne.symm hero]
  have middle := inserted "Hi " "hero" "!" "\x7bgold\x7d" (by decide)
    ⟨by decide, List.all_eq_true.mp (by decide +kernel)⟩ rfl
  have back : interpolate heroBindings "!" = .ok "!" :=
    unknown "!" fun name written => absurd written.brace (by decide)
  refine ⟨?_, agree _ _ fun name written => ?_⟩
  · rw [apart _ _ closed, front, middle, back]
    rfl
  · refine (Table.find?_insert_of_ne heroBindings _ ?_).symm
    rw [Key.same_text, beq_iff_eq]
    rintro rfl
    exact absurd written.2 (by decide)

end Fabula.Localization
