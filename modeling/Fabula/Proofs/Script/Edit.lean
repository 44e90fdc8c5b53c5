import Fabula.Proofs.Script.Moved
import Fabula.Proofs.Script.Refused
import Mathlib.Logic.Relation
/-!
# Edits of the layout

A script can be laid out in many ways. Lines that say nothing, comments and blanks at the end of a
line do not change its tokens, and blanks in front of all lines only move them. Main statements:

* `stripComment_comment`, `stripComment_trail`, `stripComment_indent`: what is left of an edited
  line;
* `Edit.tokens`: the tokens of an edited script are moved;
* `compile_edits`: an edited script is one exactly if it was one before, of the same dialogue.
-/

namespace Fabula.Script
variable {line text blanks : List Char} {lines edited : List (List Char)}

def Unbroken (line : List Char) : Prop :=
  ∀ c ∈ line, Text.isLineBreak c = false

def Blank (text : List Char) : Prop :=
  ∀ c ∈ text, Text.isBlank c = true

instance (line : List Char) : Decidable (Unbroken line) :=
  List.decidableBAll (fun c => Text.isLineBreak c = false) line

instance (text : List Char) : Decidable (Blank text) :=
  List.decidableBAll (fun c => Text.isBlank c = true) text

def source (lines : List (List Char)) : String :=
  String.ofList (['\n'].intercalate lines)

/-- What can be done to the lines of a script without a change of what it says. -/
inductive Edit : List (List Char) → List (List Char) → Prop
  | insert {above below : List (List Char)} {line : List Char} (unbroken : Unbroken line)
      (silent : Blank (stripComment line)) : Edit (above ++ below) (above ++ line :: below)
  | comment {above below : List (List Char)} {line text : List Char} (unbroken : Unbroken text)
      (unquoted : '"' ∉ text) :
      Edit (above ++ line :: below) (above ++ (line ++ '#' :: text) :: below)
  | trail {above below : List (List Char)} {line blanks : List Char} (unbroken : Unbroken blanks)
      (blank : Blank blanks) : Edit (above ++ line :: below) (above ++ (line ++ blanks) :: below)
  | indent {lines : List (List Char)} {blanks : List Char} (unbroken : Unbroken blanks)
      (blank : Blank blanks) : Edit lines (lines.map (blanks ++ ·))

theorem stripCommentFrom_append (unquoted : '"' ∉ text) (quoted : Bool)
    (closes : quoted = true → '"' ∈ line) :
    stripCommentFrom quoted (line ++ text) = stripCommentFrom quoted line ∨
      stripCommentFrom quoted (line ++ text) =
        stripCommentFrom quoted line ++ stripComment text := by
  induction line generalizing quoted with
  | nil =>
    cases quoted with
    | true => exact absurd (closes rfl) (List.not_mem_nil)
    | false => exact .inr rfl
  | cons c rest ih =>
    cases quoted with
    | true =>
      have below := ih (c != '"') fun other => by
        have given := List.mem_cons.mp (closes rfl)
        have apart : c ≠ '"' := by simpa using other
        exact given.resolve_left (Ne.symm apart)
      simpa only [List.cons_append, stripCommentFrom, List.cons.injEq, true_and] using below
    | false =>
      have same : (rest ++ text).contains '"' = rest.contains '"' := by
        simp [List.contains_eq_mem, unquoted]
      have below := ih (c == '"' && rest.contains '"') fun opens => by
        simpa using (Bool.and_eq_true_iff.mp opens).2
      by_cases starts : c = '#'
      · exact .inl (by simp [stripCommentFrom, starts])
      · simpa only [List.cons_append, stripCommentFrom, beq_iff_eq, starts, if_false, same,
          List.cons.injEq, true_and] using below

theorem stripComment_append (unquoted : '"' ∉ text) (line : List Char) :
    stripComment (line ++ text) = stripComment line ∨
      stripComment (line ++ text) = stripComment line ++ stripComment text :=
  stripCommentFrom_append unquoted false fun opens => absurd opens Bool.false_ne_true

theorem stripComment_comment (unquoted : '"' ∉ text) :
    stripComment (line ++ '#' :: text) = stripComment line := by
  have both : '"' ∉ '#' :: text := by simp [unquoted]
  have nothing : stripComment ('#' :: text) = [] := by simp [stripComment, stripCommentFrom]
  rcases stripComment_append both line with same | same
  · exact same
  · rwa [nothing, List.append_nil] at same

theorem plain_of_blank (blank : Blank blanks) : ∀ c ∈ blanks, c ≠ '#' ∧ c ≠ '"' := by
  intro c listed
  constructor <;> rintro rfl <;> exact absurd (blank _ listed) (by decide)

theorem stripComment_trail (blank : Blank blanks) (line : List Char) :
    ∃ kept, Blank kept ∧ stripComment (line ++ blanks) = stripComment line ++ kept := by
  have unquoted : '"' ∉ blanks := fun listed => (plain_of_blank blank _ listed).2 rfl
  rcases stripComment_append unquoted line with same | same
  · exact ⟨[], List.forall_mem_nil _, same.trans (List.append_nil _).symm⟩
  · rw [stripComment_plain (plain_of_blank blank)] at same
    exact ⟨blanks, blank, same⟩

theorem stripComment_indent (blank : Blank blanks) (line : List Char) :
    stripComment (blanks ++ line) = blanks ++ stripComment line :=
  stripComment_front (plain_of_blank blank) line

theorem trimLeft_blank (blank : Blank text) : Text.trimLeft text = [] :=
  List.dropWhile_eq_nil_iff.mpr blank

theorem trimRight_append (blank : Blank blanks) (text : List Char) :
    Text.trimRight (text ++ blanks) = Text.trimRight text := by
  have back : ∀ c ∈ blanks.reverse, Text.isBlank c = true := by simpa [Blank] using blank
  rw [Text.trimRight, List.reverse_append, List.dropWhile_append_of_pos back, Text.trimRight]

def Token.ofText? (text : List Char) : Option Token :=
  if (Text.trim text).isEmpty then none
  else some ⟨Text.trim text, 0, text.length - (Text.trimLeft text).length⟩

theorem ofText?_blank (blank : Blank text) : Token.ofText? text = none := by
  have nothing : Text.trim text = [] := by rw [Text.trim, trimLeft_blank blank]; rfl
  simp [Token.ofText?, nothing]

theorem ofText?_trail (blank : Blank blanks) (text : List Char) :
    Token.ofText? (text ++ blanks) = Token.ofText? text := by
  by_cases silent : Blank text
  · have both : Blank (text ++ blanks) := by
      intro c listed
      exact (List.mem_append.mp listed).elim (silent c) (blank c)
    rw [ofText?_blank both, ofText?_blank silent]
  · have left : Text.trimLeft (text ++ blanks) = Text.trimLeft text ++ blanks := by
      have given : Text.trimLeft text ≠ [] := fun nothing =>
        silent (List.dropWhile_eq_nil_iff.mp nothing)
      unfold Text.trimLeft at given ⊢
      simp [List.dropWhile_append, given]
    have trims : Text.trim (text ++ blanks) = Text.trim text := by
      rw [Text.trim, left, trimRight_append blank, Text.trim]
    simp only [Token.ofText?, trims, left, List.length_append, Nat.add_sub_add_right]

def Token.indentBy (depth : Nat) (token : Token) : Token :=
  { token with indent := token.indent + depth }

def Token.unnumbered (token : Token) : Token :=
  { token with number := 0 }

theorem moves_indentBy (depth : Nat) : Token.Moves (Token.indentBy depth) where
  line _ := rfl
  indent _ _ := Nat.add_right_cancel_iff

theorem moves_unnumbered : Token.Moves Token.unnumbered where
  line _ := rfl
  indent _ _ := .rfl

theorem moves_id : Token.Moves id where
  line _ := rfl
  indent _ _ := .rfl

theorem ofText?_indent (blank : Blank blanks) (text : List Char) :
    Token.ofText? (blanks ++ text) = (Token.ofText? text).map (Token.indentBy blanks.length) := by
  have left : Text.trimLeft (blanks ++ text) = Text.trimLeft text :=
    List.dropWhile_append_of_pos blank
  have shorter : (Text.trimLeft text).length ≤ text.length :=
    (List.dropWhile_suffix Text.isBlank).length_le
  have depth : (blanks ++ text).length - (Text.trimLeft text).length =
      text.length - (Text.trimLeft text).length + blanks.length := by
    rw [List.length_append]
    omega
  unfold Token.ofText?
  rw [Text.trim, left, ← Text.trim, depth]
  split <;> rfl

def unnumberedTokens (lines : List (List Char)) : List Token :=
  lines.filterMap fun line => Token.ofText? (stripComment line)

theorem Edit.tokens (edit : Edit lines edited) : ∃ move, Token.Moves move ∧
    unnumberedTokens edited = (unnumberedTokens lines).map move := by
  have replaced {above below : List (List Char)} {line other : List Char}
      (same : Token.ofText? (stripComment other) = Token.ofText? (stripComment line)) :
      unnumberedTokens (above ++ other :: below) =
        (unnumberedTokens (above ++ line :: below)).map id := by
    simp only [unnumberedTokens, List.filterMap_append, List.filterMap_cons, same, List.map_id]
  cases edit with
  | insert _ silent =>
    refine ⟨id, moves_id, ?_⟩
    simp only [unnumberedTokens, List.filterMap_append, List.filterMap_cons, ofText?_blank silent,
      List.map_id]
  | comment _ unquoted =>
    exact ⟨id, moves_id, replaced (by rw [stripComment_comment unquoted])⟩
  | @trail _ _ line _ _ blank =>
    obtain ⟨kept, keptBlank, strips⟩ := stripComment_trail blank line
    exact ⟨id, moves_id, replaced (by rw [strips, ofText?_trail keptBlank])⟩
  | @indent _ blanks _ blank =>
    refine ⟨_, moves_indentBy blanks.length, ?_⟩
    simp only [unnumberedTokens, List.filterMap_map, List.map_filterMap, Function.comp_def,
      stripComment_indent blank, ofText?_indent blank]

theorem Edit.unbroken (edit : Edit lines edited) (unbroken : ∀ line ∈ lines, Unbroken line) :
    ∀ line ∈ edited, Unbroken line := by
  have joined {front back : List Char} (first : Unbroken front) (second : Unbroken back) :
      Unbroken (front ++ back) := List.forall_mem_append.mpr ⟨first, second⟩
  cases edit with
  | insert given =>
    simp only [List.forall_mem_append, List.forall_mem_cons] at unbroken ⊢
    exact ⟨unbroken.1, given, unbroken.2⟩
  | comment given =>
    simp only [List.forall_mem_append, List.forall_mem_cons] at unbroken ⊢
    have mark : Unbroken ('#' :: _) := List.forall_mem_cons.mpr ⟨by decide, given⟩
    exact ⟨unbroken.1, joined unbroken.2.1 mark, unbroken.2.2⟩
  | trail given =>
    simp only [List.forall_mem_append, List.forall_mem_cons] at unbroken ⊢
    exact ⟨unbroken.1, joined unbroken.2.1 given, unbroken.2.2⟩
  | indent given =>
    exact List.forall_mem_map.mpr fun line listed => joined given (unbroken line listed)

theorem lines_append {front : List Char} (unbroken : Unbroken front) (rest : List Char) :
    Text.lines (front ++ '\n' :: rest) = front :: Text.lines rest := by
  induction front with
  | nil => simp [Text.lines, Text.isLineBreak]
  | cons c front ih =>
    have first : Text.isLineBreak c = false := unbroken c List.mem_cons_self
    have other : c ≠ '\r' := by
      rintro rfl
      exact absurd first (by decide)
    have below := ih fun c listed => unbroken c (List.mem_cons_of_mem _ listed)
    rw [List.cons_append, Text.lines]
    · simp [first, below, Text.pushLine]
    · exact fun _ same => absurd same other

theorem unnumberedTokens_lines (unbroken : ∀ line ∈ lines, Unbroken line) :
    unnumberedTokens (Text.lines (['\n'].intercalate lines)) = unnumberedTokens lines := by
  induction lines with
  | nil => rfl
  | cons line rest ih =>
    obtain ⟨first, others⟩ := List.forall_mem_cons.mp unbroken
    cases rest with
    | nil =>
      rw [List.intercalate_singleton]
      by_cases given : line = []
      · subst given
        rfl
      · rw [lines_unbroken given first]
    | cons next rest =>
      have joins : ['\n'].intercalate (line :: next :: rest) =
          line ++ '\n' :: ['\n'].intercalate (next :: rest) := by
        simp [List.intercalate]
      rw [joins, lines_append first]
      simp only [unnumberedTokens, List.filterMap_cons] at ih ⊢
      rw [ih others]

theorem tokenize_unnumbered (text : List Char) :
    (tokenize text).map Token.unnumbered = unnumberedTokens (Text.lines text) := by
  have numbered (line : List Char) (number : Nat) :
      (Token.ofLine? line number).map Token.unnumbered =
        Token.ofText? (stripComment line) := by
    simp only [Token.ofLine?, Token.ofText?]
    split <;> rfl
  simp only [tokenize, List.map_filterMap, numbered, unnumberedTokens]
  conv_rhs => rw [← List.zipIdx_map_fst 1 (Text.lines text), List.filterMap_map]
  rfl

theorem compile_toOption (id : Value) (unbroken : ∀ line ∈ lines, Unbroken line) :
    (compile id (source lines)).toOption = (readTokens id (unnumberedTokens lines)).toOption := by
  rw [← unnumberedTokens_lines unbroken, ← tokenize_unnumbered, readTokens_move moves_unnumbered,
    compile, source, String.toList_ofList]

theorem compile_edit (id : Value) (unbroken : ∀ line ∈ lines, Unbroken line)
    (edit : Edit lines edited) :
    (compile id (source edited)).toOption = (compile id (source lines)).toOption := by
  obtain ⟨move, moves, moved⟩ := edit.tokens
  rw [compile_toOption id (edit.unbroken unbroken), compile_toOption id unbroken, moved,
    readTokens_move moves]

theorem toOption_eq_some {result : Except Failure Dialogue} {dialogue : Dialogue} :
    result.toOption = some dialogue ↔ result = .ok dialogue := by
  cases result <;> simp

/-- The layout of a script means nothing: whatever is done to its lines by such edits, it compiles
exactly if it did before, to the same dialogue. -/
theorem compile_edits (id : Value) (unbroken : ∀ line ∈ lines, Unbroken line)
    (edits : Relation.ReflTransGen Edit lines edited) (dialogue : Dialogue) :
    compile id (source lines) = .ok dialogue ↔ compile id (source edited) = .ok dialogue := by
  have run : (∀ line ∈ edited, Unbroken line) ∧
      (compile id (source edited)).toOption = (compile id (source lines)).toOption := by
    induction edits with
    | refl => exact ⟨unbroken, rfl⟩
    | tail _ edit ih => exact ⟨edit.unbroken ih.1, (compile_edit id ih.1 edit).trans ih.2⟩
  rw [← toOption_eq_some, ← toOption_eq_some, run.2]

def markLines : List (List Char) :=
  ["NODE hall".toList, "GUIDE: \"#1\"".toList, "GOTO hall".toList]

def markEdited : List (List Char) :=
  ["# \"Hall".toList, "  NODE hall \t".toList, "  GUIDE: \"#1\"#1".toList,
    "  GOTO hall".toList]

theorem mark_edits : Relation.ReflTransGen Edit markLines markEdited := by
  have trailed : Edit markLines
      ["NODE hall \t".toList, "GUIDE: \"#1\"".toList, "GOTO hall".toList] :=
    @Edit.trail [] _ "NODE hall".toList " \t".toList (by decide) (by decide)
  have commented := @Edit.comment ["NODE hall \t".toList] ["GOTO hall".toList]
    "GUIDE: \"#1\"".toList ['1'] (by decide) (by decide)
  have indented := @Edit.indent
    ["NODE hall \t".toList, "GUIDE: \"#1\"#1".toList, "GOTO hall".toList] "  ".toList
    (by decide) (by decide)
  have inserted := @Edit.insert []
    ["  NODE hall \t".toList, "  GUIDE: \"#1\"#1".toList, "  GOTO hall".toList]
    "# \"Hall".toList (by decide) (by decide)
  exact (((Relation.ReflTransGen.single trailed).tail commented).tail indented).tail inserted

theorem compile_edits_mark : (∀ line ∈ markLines, Unbroken line) ∧
    Relation.ReflTransGen Edit markLines markEdited ∧
      ∃ dialogue, compile "hall" (source markLines) = .ok dialogue ∧
        compile "hall" (source markEdited) = .ok dialogue ∧ dialogue.nodes.length = 1 := by
  have unbroken : ∀ line ∈ markLines, Unbroken line := by decide
  have compiles : ((compile "hall" (source markLines)).toOption.map (·.nodes.length)) = some 1 := by
    decide +kernel
  obtain ⟨dialogue, found, one⟩ := Option.map_eq_some_iff.mp compiles
  have before : compile "hall" (source markLines) = .ok dialogue := toOption_eq_some.mp found
  have after := (compile_edits "hall" unbroken mark_edits dialogue).mp before
  exact ⟨unbroken, mark_edits, dialogue, before, after, one⟩

end Fabula.Script
