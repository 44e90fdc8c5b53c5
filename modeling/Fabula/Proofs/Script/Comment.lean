import Fabula.Script.Token
import Mathlib.Algebra.Group.Nat.Even
import Mathlib.Data.List.Count
import Mathlib.Data.List.Infix
/-!
# Where a comment starts

Whether a `#` starts a comment can be told from the quotation marks of its line alone: those before
it are even in number, or none comes after it. The first such `#` starts the comment. Main
statements:

* `CutAtFirst.of_stripComment`: what is left of a line ends where its comment starts;
* `stripComment_cuts`: so nothing more is ever cut off, and no literal is cut into.
-/

namespace Fabula.Script
variable {text rest kept : List Char} {odd : Bool} {k : Nat}

/-- Whether a comment can start at a place of the rest of a line, before which the quotation marks
are odd in number or not. -/
def CommentStartFrom (odd : Bool) (text : List Char) (k : Nat) : Prop :=
  text[k]? = some '#' ∧ (Even (odd.toNat + (text.take k).count '"') ∨ '"' ∉ text.drop (k + 1))

def CommentStart (text : List Char) (k : Nat) : Prop :=
  text[k]? = some '#' ∧ (Even ((text.take k).count '"') ∨ '"' ∉ text.drop (k + 1))

/-- Whether a line is cut at the first place with a property, or not at all if there is none. -/
def CutAtFirst (starts : Nat → Prop) (text kept : List Char) : Prop :=
  (∃ k, starts k ∧ (∀ j < k, ¬ starts j) ∧ kept = text.take k) ∨ (∀ k, ¬ starts k) ∧ kept = text

/-- Whether a literal stands between two places of a line: quotation marks with none between them,
and an even number of marks before them. -/
structure Literal (text : List Char) (first last : Nat) : Prop where
  opens : text[first]? = some '"'
  closes : text[last]? = some '"'
  order : first < last
  between : '"' ∉ (text.take last).drop (first + 1)
  paired : Even ((text.take first).count '"')

theorem startsFrom_zero (c : Char) :
    CommentStartFrom odd (c :: rest) 0 ↔ c = '#' ∧ ¬ (odd = true ∧ '"' ∈ rest) := by
  cases odd <;> simp [CommentStartFrom]

theorem startsFrom_succ (c : Char) :
    CommentStartFrom odd (c :: rest) (k + 1) ↔ CommentStartFrom (odd ^^ (c == '"')) rest k := by
  by_cases quote : c = '"'
  · subst quote
    cases odd <;> simp [CommentStartFrom, Nat.even_add]
  · have other : (c == '"') = false := beq_false_of_ne quote
    cases odd <;> simp [CommentStartFrom, quote, other]

theorem stripCommentFrom_cons (odd : Bool) (c : Char) (rest : List Char) :
    stripCommentFrom (odd && (c :: rest).contains '"') (c :: rest) =
      if c = '#' ∧ ¬ (odd = true ∧ '"' ∈ rest) then []
      else c :: stripCommentFrom ((odd ^^ (c == '"')) && rest.contains '"') rest := by
  by_cases quote : c = '"'
  · subst quote
    cases odd <;> simp [stripCommentFrom]
  · have other : (c == '"') = false := beq_false_of_ne quote
    by_cases closed : '"' ∈ rest <;> cases odd <;>
      simp [stripCommentFrom, bne, other, Ne.symm quote, closed]

theorem CutAtFirst.cons {starts : Nat → Prop} (c : Char) (first : ¬ starts 0)
    (below : CutAtFirst (fun k => starts (k + 1)) rest kept) :
    CutAtFirst starts (c :: rest) (c :: kept) := by
  obtain ⟨k, here, before, rfl⟩ | ⟨nowhere, rfl⟩ := below
  · refine .inl ⟨k + 1, here, ?_, rfl⟩
    rintro (_ | j) earlier
    · exact first
    · exact before j (by omega)
  · refine .inr ⟨?_, rfl⟩
    rintro (_ | k)
    · exact first
    · exact nowhere k

theorem CutAtFirst.of_stripCommentFrom (odd : Bool) (text : List Char) :
    CutAtFirst (CommentStartFrom odd text) text
      (stripCommentFrom (odd && text.contains '"') text) := by
  induction text generalizing odd with
  | nil => exact .inr ⟨by simp [CommentStartFrom], by simp [stripCommentFrom]⟩
  | cons c rest ih =>
    rw [stripCommentFrom_cons]
    split
    · next here => exact .inl ⟨0, (startsFrom_zero c).mpr here, by simp, rfl⟩
    · next first =>
      refine .cons c (mt (startsFrom_zero c).mp first) ?_
      simp only [startsFrom_succ]
      exact ih _

theorem startsFrom_false : CommentStartFrom false text = CommentStart text := by
  funext k
  simp [CommentStartFrom, CommentStart]

theorem CutAtFirst.of_stripComment (text : List Char) :
    CutAtFirst (CommentStart text) text (stripComment text) := by
  rw [← startsFrom_false]
  exact of_stripCommentFrom false text

theorem CutAtFirst.prefix {starts : Nat → Prop} (cuts : CutAtFirst starts text kept) :
    kept <+: text := by
  obtain ⟨k, _, _, rfl⟩ | ⟨_, rfl⟩ := cuts
  · exact List.take_prefix k text
  · exact List.prefix_rfl

theorem take_split {j : Nat} {c : Char} (earlier : j < k) (found : text[j]? = some c) :
    text.take k = text.take j ++ c :: (text.take k).drop (j + 1) := by
  have here : (text.take k)[j]? = some c := by rw [List.getElem?_take_of_lt earlier, found]
  obtain ⟨inside, here⟩ := List.getElem?_eq_some_iff.mp here
  have front : (text.take k).take j = text.take j := by
    rw [List.take_take, Nat.min_eq_left (Nat.le_of_lt earlier)]
  calc text.take k = (text.take k).take j ++ (text.take k).drop j :=
        (List.take_append_drop j _).symm
    _ = text.take j ++ c :: (text.take k).drop (j + 1) := by
        rw [front, List.drop_eq_getElem_cons inside, here]

theorem drop_split {j : Nat} {c : Char} (earlier : j < k) (found : text[k]? = some c) :
    text.drop (j + 1) = (text.take k).drop (j + 1) ++ c :: text.drop (k + 1) := by
  obtain ⟨inside, here⟩ := List.getElem?_eq_some_iff.mp found
  have back : text.drop k = c :: text.drop (k + 1) := by
    rw [List.drop_eq_getElem_cons inside, here]
  rw [← back, ← List.drop_append_of_le_length (by simp; omega), List.take_append_drop]

theorem CutAtFirst.nowhere (cuts : CutAtFirst (CommentStart text) text kept) (j : Nat) :
    ¬ CommentStart kept j := by
  obtain ⟨k, ⟨hash, here⟩, before, rfl⟩ | ⟨nowhere, rfl⟩ := cuts
  · rintro ⟨found, starts⟩
    by_cases earlier : j < k
    · rw [List.getElem?_take_of_lt earlier] at found
      rw [List.take_take, Nat.min_eq_left (Nat.le_of_lt earlier)] at starts
      have skipped : ¬ (Even ((text.take j).count '"') ∨ '"' ∉ text.drop (j + 1)) :=
        fun starts => before j earlier ⟨found, starts⟩
      obtain ⟨unpaired, follows⟩ := not_or.mp skipped
      have between : '"' ∉ (text.take k).drop (j + 1) := starts.resolve_left unpaired
      -- So the mark that follows stands behind the comment, and those before it are unpaired.
      have behind : '"' ∈ text.drop (k + 1) := by
        rw [drop_split earlier hash] at follows
        simpa [between] using follows
      have paired := here.resolve_right (not_not.mpr behind)
      rw [take_split earlier found] at paired
      exact unpaired (by simpa [List.count_eq_zero_of_not_mem between] using paired)
    · rw [List.getElem?_take_eq_none (Nat.le_of_not_lt earlier)] at found
      cases found
  · exact nowhere j

theorem stripComment_eq_self (nowhere : ∀ k, ¬ CommentStart text k) : stripComment text = text := by
  obtain ⟨k, here, _, _⟩ | ⟨_, same⟩ := CutAtFirst.of_stripComment text
  · exact absurd here (nowhere k)
  · exact same

theorem CutAtFirst.spares {first last : Nat} (cuts : CutAtFirst (CommentStart text) text kept)
    (literal : Literal text first last) : ¬ (first < kept.length ∧ kept.length ≤ last) := by
  obtain ⟨opens, closes, order, between, paired⟩ := literal
  obtain ⟨inside, _⟩ := List.getElem?_eq_some_iff.mp closes
  rintro ⟨after, before⟩
  obtain ⟨k, ⟨hash, here⟩, _, rfl⟩ | ⟨_, rfl⟩ := cuts
  · obtain ⟨within, _⟩ := List.getElem?_eq_some_iff.mp hash
    rw [List.length_take_of_le (Nat.le_of_lt within)] at after before
    have apart : k ≠ last := by
      rintro rfl
      simp [hash] at closes
    have behind : '"' ∈ text.drop (k + 1) := by
      rw [← Nat.add_sub_of_le (show k + 1 ≤ last by omega)] at closes
      exact List.mem_of_getElem? (List.getElem?_drop ▸ closes)
    have even := here.resolve_right (not_not.mpr behind)
    have inner : '"' ∉ (text.take k).drop (first + 1) := fun marked =>
      between ((List.IsPrefix.drop (List.take_prefix_take_left before) _).subset marked)
    rw [take_split after opens] at even
    simp [List.count_eq_zero_of_not_mem inner, Nat.even_add_one, paired] at even
  · omega

/-- A line is cut at the first `#` before which the quotation marks are even in number or after
which there is none, and otherwise stays whole. So what is left is a prefix of the line from which
nothing more is cut, and no closed literal is cut into. -/
theorem stripComment_cuts (text : List Char) :
    CutAtFirst (CommentStart text) text (stripComment text) ∧
      stripComment (stripComment text) = stripComment text ∧
      stripComment text <+: text ∧
      ∀ first last, Literal text first last →
        ¬ (first < (stripComment text).length ∧ (stripComment text).length ≤ last) := by
  have cuts := CutAtFirst.of_stripComment text
  exact ⟨cuts, stripComment_eq_self cuts.nowhere, cuts.prefix, fun _ _ => cuts.spares⟩

def roomLine : List Char :=
  "NOTIFY \"Room #4\" # note".toList

theorem stripComment_cuts_room : Literal roomLine 7 15 ∧
    stripComment roomLine = "NOTIFY \"Room #4\" ".toList ∧
    ¬ (7 < (stripComment roomLine).length ∧ (stripComment roomLine).length ≤ 15) := by
  have literal : Literal roomLine 7 15 :=
    ⟨by decide, by decide, by decide, by decide, by decide⟩
  obtain ⟨_, _, _, spares⟩ := stripComment_cuts roomLine
  exact ⟨literal, by decide, spares 7 15 literal⟩

end Fabula.Script
