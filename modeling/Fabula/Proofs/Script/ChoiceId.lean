import Fabula.Script.Dialogue
import Mathlib.Data.List.Basic
import Mathlib.Order.Basic
import Mathlib.Tactic.SplitIfs
/-!
# How a choice id spells its text

A choice id spells its text character by character, as far as there is room. ASCII letters and
digits are put into lower case, `@` and quotation marks are left out, and nearly everything else
becomes an underscore. Four letters beyond ASCII count as letters when case is ignored: the lower
case of one of them is an ASCII letter, that of another has a dot as a second character, and two
stay as they are. Main statements:

* `choiceIdSuffix_eq`: what a text is spelled as;
* `regular_take_iff`: which texts are spelled in letters, digits and underscores alone;
* `Alike.suffix_eq`, `IsPhrase.map_blanked`: which texts are spelled alike and which are not;
* `choiceId_spells`: what this means for ids.
-/

namespace Fabula
variable {c : Char}

theorem isUpper_eq (c : Char) : c.isUpper = decide (c.val ≥ 'A'.val ∧ c.val ≤ 'Z'.val) := rfl

theorem isLower_eq (c : Char) : c.isLower = decide (c.val ≥ 'a'.val ∧ c.val ≤ 'z'.val) := by
  rw [Bool.decide_and]
  rfl

theorem isAlpha_eq (c : Char) : c.isAlpha = (c.isUpper || c.isLower) := rfl

theorem toLower_of_not_isUpper (other : c.isUpper = false) : c.toLower = c :=
  dif_neg (of_decide_eq_false other)

theorem val_toLower (upper : c.isUpper = true) : c.toLower.val = c.val + 32 :=
  congrArg Char.val (dif_pos (of_decide_eq_true upper))

theorem isLower_toLower (upper : c.isUpper = true) : c.toLower.isLower = true := by
  rw [isLower_eq, val_toLower upper]
  simp only [isUpper_eq, decide_eq_true_eq, ge_iff_le, UInt32.le_iff_toNat_le] at upper ⊢
  grind [UInt32.toNat_add]

theorem isUpper_toLower (c : Char) : c.toLower.isUpper = false := by
  cases upper : c.isUpper with
  | true =>
    rw [isUpper_eq, val_toLower upper]
    simp only [isUpper_eq, decide_eq_true_eq, decide_eq_false_iff_not, ge_iff_le,
      UInt32.le_iff_toNat_le] at upper ⊢
    grind [UInt32.toNat_add]
  | false => rw [toLower_of_not_isUpper upper, upper]

end Fabula

namespace Fabula.Text

theorem lowerFrom_eq_flatMap {text : List Char} (plain : 'Σ' ∉ text) (before : List Char) :
    lowerFrom before text = text.flatMap lowerChar := by
  induction text generalizing before with
  | nil => rfl
  | cons c text ih =>
    obtain ⟨other, below⟩ := not_or.mp (mt List.mem_cons.mpr plain)
    have same : (c == 'Σ') = false := beq_false_of_ne (Ne.symm other)
    rw [lowerFrom, same, ih below, List.flatMap_cons]
    rfl

theorem lowerChar_alphanum {c : Char} (alphanum : c.isAlphanum = true) :
    lowerChar c = [c.toLower] := by
  have ascii : c.toNat < 128 := by
    simp only [Char.isAlphanum, isAlpha_eq, isUpper_eq, isLower_eq, Char.isDigit,
      Bool.or_eq_true, Bool.and_eq_true, decide_eq_true_eq, UInt32.le_iff_toNat_le] at alphanum
    simp only [Char.toNat]
    grind
  rw [lowerChar, if_pos ascii]

end Fabula.Text

namespace Fabula.Script
variable {c : Char} {text one other : List Char} {n : Nat}

def isMark (c : Char) : Bool :=
  c == '@' || c == '"'

def isRegular (c : Char) : Bool :=
  c.isLower || c.isDigit || c == '_'

def spelling (c : Char) : List Char :=
  if c.isAlphanum then [c.toLower]
  else if c = 'ı' ∨ c = 'ſ' then [c]
  else if c = 'İ' then ['i', '\u0307']
  else if c = '\u212a' then ['k']
  else ['_']

inductive SpelledAs : Char → List Char → Prop where
  | regular {c d : Char} : c ≠ 'ı' → c ≠ 'ſ' → c ≠ 'İ' → isRegular d = true → SpelledAs c [d]
  | kept {c : Char} : c = 'ı' ∨ c = 'ſ' → SpelledAs c [c]
  | dotted : SpelledAs 'İ' ['i', '\u0307']

theorem isAlphanum_toLower (c : Char) : c.toLower.isAlphanum = c.isAlphanum := by
  cases upper : c.isUpper with
  | true => simp [Char.isAlphanum, isAlpha_eq, upper, isLower_toLower upper]
  | false => rw [toLower_of_not_isUpper upper]

theorem isRegular_toLower (alphanum : c.isAlphanum = true) : isRegular c.toLower = true := by
  cases upper : c.isUpper with
  | true => simp [isRegular, isLower_toLower upper]
  | false =>
    have small : c.isLower = true ∨ c.isDigit = true := by
      simpa [Char.isAlphanum, isAlpha_eq, upper] using alphanum
    rw [toLower_of_not_isUpper upper]
    simp [isRegular, small]

theorem isMark_alphanum (alphanum : c.isAlphanum = true) : isMark c = false := by
  cases mark : isMark c with
  | false => rfl
  | true =>
    obtain rfl | rfl : c = '@' ∨ c = '"' := by simpa [isMark] using mark
    · exact absurd alphanum (by decide)
    · exact absurd alphanum (by decide)

theorem spelling_alphanum (alphanum : c.isAlphanum = true) : spelling c = [c.toLower] :=
  if_pos alphanum

theorem spelledAs_spelling (c : Char) : SpelledAs c (spelling c) := by
  unfold spelling
  split_ifs with alphanum kept dotted kelvin
  · have other {d : Char} (foreign : d.isAlphanum = false) : c ≠ d := by
      rintro rfl
      exact absurd alphanum (Bool.eq_false_iff.mp foreign)
    exact .regular (other (by decide)) (other (by decide)) (other (by decide))
      (isRegular_toLower alphanum)
  · exact .kept kept
  · exact dotted ▸ .dotted
  · subst kelvin
    exact .regular (by decide) (by decide) (by decide) (by decide)
  · obtain ⟨dotless, long⟩ := not_or.mp kept
    exact .regular dotless long dotted (by decide)

theorem mem_spelling {d : Char} (listed : d ∈ spelling c) :
    isRegular d = true ∨ d = 'ı' ∨ d = 'ſ' ∨ d = '\u0307' := by
  have spelled := spelledAs_spelling c
  generalize spelling c = front at spelled listed
  cases spelled with
  | regular _ _ _ regular =>
    obtain rfl := List.mem_singleton.mp listed
    exact .inl regular
  | kept kept =>
    obtain rfl := List.mem_singleton.mp listed
    exact .inr (kept.imp_right .inl)
  | dotted =>
    obtain rfl | rfl : d = 'i' ∨ d = '\u0307' := by simpa using listed
    · exact .inl (by decide)
    · exact .inr (.inr (.inr rfl))

theorem spelling_toLower (c : Char) : spelling c.toLower = spelling c := by
  by_cases alphanum : c.isAlphanum = true
  · have small : c.toLower.isAlphanum = true := (isAlphanum_toLower c).trans alphanum
    rw [spelling_alphanum small, spelling_alphanum alphanum,
      toLower_of_not_isUpper (isUpper_toLower c)]
  · have other : c.isUpper = false := Bool.eq_false_iff.mpr fun upper =>
      alphanum (by simp [Char.isAlphanum, isAlpha_eq, upper])
    rw [toLower_of_not_isUpper other]

theorem lowerChar_eq_spelling (c : Char) :
    Text.lowerChar (if isChoiceIdChar c then c else '_') = spelling c := by
  by_cases listed : isChoiceIdChar c = true
  · rw [if_pos listed]
    obtain alphanum | rfl | rfl | rfl | rfl :
        c.isAlphanum = true ∨ c = 'İ' ∨ c = 'ı' ∨ c = 'ſ' ∨ c = '\u212a' := by
      simpa [isChoiceIdChar, or_assoc] using listed
    · rw [Text.lowerChar_alphanum alphanum, spelling_alphanum alphanum]
    all_goals decide
  · have other : spelling c = ['_'] := by simp_all [isChoiceIdChar, spelling]
    rw [if_neg listed, other]
    decide

def unmarked (text : List Char) : List Char :=
  text.filter fun c => !isMark c

theorem choiceIdSuffix_eq (text : List Char) :
    choiceIdSuffix text = ((unmarked text).flatMap spelling).take choiceIdLength := by
  have kept : (text.filter fun c => c != '@' && c != '"') = unmarked text :=
    List.filter_congr fun c _ => by simp [isMark, bne]
  -- A sigma is an underscore before anything is put into lower case.
  have plain : 'Σ' ∉ (unmarked text).map fun c => if isChoiceIdChar c then c else '_' := by
    intro sigma
    obtain ⟨c, _, same⟩ := List.mem_map.mp sigma
    split at same
    · next listed =>
      rw [same] at listed
      exact absurd listed (by decide)
    · cases same
  rw [choiceIdSuffix, kept, Text.lower, Text.lowerFrom_eq_flatMap plain, List.flatMap_map]
  simp only [lowerChar_eq_spelling]

/-- Whether something that is not spelled in ASCII stands within the first characters of a text. The
dot of a capital letter needs room behind the letter. -/
def Strays (n : Nat) (text : List Char) : Prop :=
  (∃ c ∈ text.take n, c = 'ı' ∨ c = 'ſ') ∨ 'İ' ∈ text.take (n - 1)

theorem strays_cons (c : Char) : Strays (n + 1) (c :: text) ↔
    (c = 'ı' ∨ c = 'ſ') ∨ (c = 'İ' ∧ 0 < n) ∨ Strays n text := by
  cases n with
  | zero => simp [Strays]
  | succ n =>
    simp only [Strays, List.take_succ_cons, List.mem_cons, exists_eq_or_imp, Nat.add_sub_cancel,
      Nat.succ_pos, and_true, @eq_comm _ 'İ' c]
    exact or_assoc.trans (or_congr_right or_left_comm)

theorem regular_take_iff (text : List Char) (n : Nat) :
    (∀ c ∈ (text.flatMap spelling).take n, isRegular c = true) ↔ ¬ Strays n text := by
  induction text generalizing n with
  | nil => simp [Strays]
  | cons c text ih =>
    cases n with
    | zero => simp [Strays]
    | succ n =>
      rw [List.flatMap_cons, strays_cons]
      have spelled := spelledAs_spelling c
      generalize spelling c = front at spelled ⊢
      cases spelled with
      | regular dotless long dotted regular => simp [ih, dotless, long, dotted, regular]
      | kept kept =>
        have foreign : isRegular c = false := by
          obtain rfl | rfl := kept
          · decide
          · decide
        simp [kept, foreign]
      | dotted =>
        -- If only one character fits, the dot is cut off.
        cases n with
        | zero => simp [Strays, isRegular]
        | succ n => simp [isRegular]

def Alike (one other : List Char) : Prop :=
  (unmarked one).map Char.toLower = (unmarked other).map Char.toLower

instance : Decidable (Alike one other) :=
  inferInstanceAs (Decidable (_ = _))

theorem flatMap_spelling_toLower (text : List Char) :
    (text.map Char.toLower).flatMap spelling = text.flatMap spelling := by
  rw [List.flatMap_map]
  simp only [spelling_toLower]

theorem Alike.suffix_eq (alike : Alike one other) : choiceIdSuffix one = choiceIdSuffix other := by
  rw [choiceIdSuffix_eq, choiceIdSuffix_eq, ← flatMap_spelling_toLower, alike,
    flatMap_spelling_toLower]

/-- Whether a text has at most thirty characters, all of them ASCII letters, digits and spaces. -/
structure IsPhrase (text : List Char) : Prop where
  short : text.length ≤ 30
  plain : ∀ c ∈ text, (c.isAlphanum || c == ' ') = true

def blanked (c : Char) : Char :=
  if c = '_' then ' ' else c

theorem map_blanked_spelling (plain : (c.isAlphanum || c == ' ') = true) :
    (spelling c).map blanked = [c.toLower] := by
  obtain alphanum | blank := (Bool.or_eq_true _ _).mp plain
  · have apart : c.toLower ≠ '_' := by
      intro same
      rw [← isAlphanum_toLower, same] at alphanum
      exact absurd alphanum (by decide)
    rw [spelling_alphanum alphanum, List.map_singleton, blanked, if_neg apart]
  · rw [eq_of_beq blank]
    decide

theorem IsPhrase.unmarked_eq (phrase : IsPhrase text) : unmarked text = text := by
  refine List.filter_eq_self.mpr fun c listed => ?_
  obtain alphanum | blank := (Bool.or_eq_true _ _).mp (phrase.plain c listed)
  · rw [isMark_alphanum alphanum, Bool.not_false]
  · rw [eq_of_beq blank]
    decide

theorem IsPhrase.map_blanked (phrase : IsPhrase text) :
    (choiceIdSuffix text).map blanked = text.map Char.toLower := by
  have spelled : (text.flatMap spelling).map blanked = text.map Char.toLower := by
    have letters : ∀ c ∈ text, (spelling c).map blanked = [c.toLower] :=
      fun c listed => map_blanked_spelling (phrase.plain c listed)
    rw [List.map_flatMap, List.flatMap_congr letters, ← List.map_eq_flatMap]
  have fits : (text.flatMap spelling).length ≤ choiceIdLength := by
    have same := congrArg List.length spelled
    rw [List.length_map, List.length_map] at same
    exact same.trans_le phrase.short
  rw [choiceIdSuffix_eq, phrase.unmarked_eq, List.take_of_length_le fits, spelled]

theorem choiceId_eq_iff {node : String} {suffix : List Char} :
    choiceId node text = node ++ "_choice_" ++ String.ofList suffix ↔
      choiceIdSuffix text = suffix := by
  rw [choiceId, String.append_right_inj, String.ofList_inj]

/-- A choice id is the id of its node, `_choice_` and at most thirty characters more. They are ASCII
lower-case letters, ASCII digits and underscores exactly if none of the three letters that are not
spelled so stands within reach. Neither the case of ASCII letters nor an `@` or a quotation mark
matters, and short texts of ASCII letters, digits and spaces that differ in more than case have
different ids. -/
theorem choiceId_spells (node : String) :
    (∀ text, ∃ suffix, choiceId node text = node ++ "_choice_" ++ String.ofList suffix ∧
      suffix.length ≤ 30 ∧
      (∀ c ∈ suffix, isRegular c = true ∨ c = 'ı' ∨ c = 'ſ' ∨ c = '\u0307') ∧
      ((∀ c ∈ suffix, isRegular c = true) ↔ ¬ Strays 30 (unmarked text))) ∧
    (∀ one other, Alike one other → choiceId node one = choiceId node other) ∧
    ∀ one other, IsPhrase one → IsPhrase other →
      one.map Char.toLower ≠ other.map Char.toLower →
      choiceId node one ≠ choiceId node other := by
  refine ⟨fun text => ⟨choiceIdSuffix text, rfl, ?_, fun c listed => ?_, ?_⟩,
    fun one other alike => ?_, fun one other first second apart same => apart ?_⟩
  · rw [choiceIdSuffix_eq]
    exact List.length_take_le _ _
  · rw [choiceIdSuffix_eq] at listed
    obtain ⟨_, _, spelled⟩ := List.mem_flatMap.mp (List.mem_of_mem_take listed)
    exact mem_spelling spelled
  · rw [choiceIdSuffix_eq]
    exact regular_take_iff _ _
  · exact choiceId_eq_iff.mpr alike.suffix_eq
  · rw [← first.map_blanked, ← second.map_blanked, choiceId_eq_iff.mp same]

theorem choiceId_spells_tavern :
    Alike "Ask \"Ada\"".toList "ask @ada".toList ∧
    choiceId "bar" "Ask \"Ada\"".toList = choiceId "bar" "ask @ada".toList ∧
    IsPhrase "Buy 2 drinks".toList ∧ IsPhrase "Buy 22 drinks".toList ∧
    choiceId "bar" "Buy 2 drinks".toList ≠ choiceId "bar" "Buy 22 drinks".toList := by
  obtain ⟨_, same, apart⟩ := choiceId_spells "bar"
  have alike : Alike "Ask \"Ada\"".toList "ask @ada".toList := by decide +kernel
  have two : IsPhrase "Buy 2 drinks".toList := ⟨by decide, List.all_eq_true.mp (by decide)⟩
  have many : IsPhrase "Buy 22 drinks".toList := ⟨by decide, List.all_eq_true.mp (by decide)⟩
  exact ⟨alike, same _ _ alike, two, many, apart _ _ two many (by decide +kernel)⟩

/-- The dot of a capital letter is one of the characters of an id. -/
theorem choiceId_dotted : choiceId "port" "İzmir".toList = "port_choice_i\u0307zmir" ∧
    ¬ ∃ suffix, choiceId "port" "İzmir".toList = "port" ++ "_choice_" ++ String.ofList suffix ∧
      suffix.length ≤ 30 ∧ ∀ c ∈ suffix, isRegular c = true := by
  refine ⟨by decide +kernel, ?_⟩
  rintro ⟨suffix, same, _, regular⟩
  obtain rfl := choiceId_eq_iff.mp same
  exact absurd (regular '\u0307' (by decide +kernel)) (by decide)

end Fabula.Script
