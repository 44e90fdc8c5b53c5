import Fabula.Proofs.Script.Edit
import Mathlib.Data.List.Nodup
/-!
# Quoted texts in scripts

What stands between two quotation marks comes through as it is, with blanks at its ends, colons and
`#`. The marks are gone then, so nothing tells a quoted text from one that is not. Main statements:

* `ofLine?_quotes`: what is left of a line that quotes a text, whatever stands around it;
* `compile_notify`: the message of an effect;
* `IsNode.text_of_quotes`, `IsNode.choice_of_quotes`, `IsNode.notify_of_quotes`: the texts of a
  node, of a choice and of a message.
-/

namespace Fabula.Script
variable {text line word front gap trail : List Char}

def quoted (text : List Char) : List Char :=
  '"' :: (text ++ ['"'])

def QuotedLine (word text line : List Char) : Prop :=
  ∃ gap, gap ≠ [] ∧ Blank gap ∧ line = word ++ (gap ++ quoted text)

theorem quotes_after_space (word text : List Char) :
    QuotedLine word text (word ++ ' ' :: quoted text) := by
  have blank : Blank [' '] := List.forall_mem_singleton.mpr rfl
  exact ⟨[' '], List.cons_ne_nil _ _, blank, rfl⟩

structure IsOpening (word : List Char) : Prop where
  given : word ≠ []
  solid : ∀ c ∈ word, Text.isBlank c = false
  plain : ∀ c ∈ word, c ≠ '#' ∧ c ≠ '"'

theorem isOpening_of_all (given : word ≠ []) (solid : word.all fun c => !Text.isBlank c)
    (plain : word.all fun c => c != '#' && c != '"') : IsOpening word :=
  ⟨given, forall_mem_of_all solid, by simpa using plain⟩

theorem stripCommentFrom_text (unquoted : '"' ∉ text) (rest : List Char) :
    stripCommentFrom true (text ++ '"' :: rest) = text ++ '"' :: stripComment rest := by
  induction text with
  | nil => rfl
  | cons c text ih =>
    obtain ⟨other, below⟩ := not_or.mp (mt List.mem_cons.mpr unquoted)
    have goesOn : (c != '"') = true := by simpa using Ne.symm other
    rw [List.cons_append, stripCommentFrom, goesOn, ih below, List.cons_append]

theorem stripComment_quoted (unquoted : '"' ∉ text) (rest : List Char) :
    stripComment (quoted text ++ rest) = quoted text ++ stripComment rest := by
  have inside := stripCommentFrom_text unquoted rest
  simpa [stripComment, stripCommentFrom, quoted] using inside

theorem trim_pad {core : List Char} (before : Blank front) (after : Blank trail)
    (starts : ∀ c ∈ core.head?, Text.isBlank c = false)
    (ends : ∀ c ∈ core.getLast?, Text.isBlank c = false) :
    Text.trim (front ++ (core ++ trail)) = core := by
  have left : Text.trimLeft (front ++ (core ++ trail)) = Text.trimLeft (core ++ trail) :=
    List.dropWhile_append_of_pos before
  cases core with
  | nil =>
    rw [Text.trim, left, List.nil_append, trimLeft_blank after]
    rfl
  | cons c core =>
    have kept : Text.trimLeft (c :: core ++ trail) = c :: core ++ trail :=
      dropWhile_eq_self starts
    have back : ∀ last ∈ (c :: core).reverse.head?, Text.isBlank last = false := by
      rwa [List.head?_reverse]
    rw [Text.trim, left, kept, trimRight_append after, Text.trimRight, dropWhile_eq_self back,
      List.reverse_reverse]

theorem starts_quoted : ∀ c ∈ (quoted text).head?, Text.isBlank c = false := by
  rintro c ⟨⟩
  decide

theorem ends_quoted (front : List Char) :
    ∀ c ∈ (front ++ quoted text).getLast?, Text.isBlank c = false := by
  have last : (front ++ quoted text).getLast? = some '"' := by
    rw [quoted, ← List.cons_append, ← List.append_assoc, List.getLast?_concat]
  rw [last]
  rintro c ⟨⟩
  decide

theorem trim_gap (blank : Blank gap) : Text.trim (gap ++ quoted text) = quoted text := by
  have ends : ∀ c ∈ (quoted text).getLast?, Text.isBlank c = false := ends_quoted []
  have padded := trim_pad blank (List.forall_mem_nil _) starts_quoted ends
  rwa [List.append_nil] at padded

theorem QuotedLine.starts (opening : IsOpening word) (quotes : QuotedLine word text line) :
    ∀ c ∈ line.head?, Text.isBlank c = false := by
  obtain ⟨gap, _, _, rfl⟩ := quotes
  rw [List.head?_append_of_ne_nil _ opening.given]
  exact fun c listed => opening.solid c (List.mem_of_mem_head? listed)

theorem QuotedLine.ends (quotes : QuotedLine word text line) :
    ∀ c ∈ line.getLast?, Text.isBlank c = false := by
  obtain ⟨gap, _, _, rfl⟩ := quotes
  rw [← List.append_assoc]
  exact ends_quoted _

theorem QuotedLine.firstWord (opening : IsOpening word) (quotes : QuotedLine word text line) :
    Text.firstWord line = word := by
  obtain ⟨gap, given, blank, rfl⟩ := quotes
  obtain ⟨c, gap, rfl⟩ := List.exists_cons_of_ne_nil given
  have stops : Text.isBlank c = true := blank c List.mem_cons_self
  have runs : ∀ c ∈ word, (!Text.isBlank c) = true := by simpa using opening.solid
  simp [Text.firstWord, List.takeWhile_append_of_pos runs, stops]

theorem QuotedLine.afterFirstWord (opening : IsOpening word) (quotes : QuotedLine word text line) :
    Text.afterFirstWord line = quoted text := by
  obtain ⟨gap, given, blank, rfl⟩ := quotes
  have after : (word ++ (gap ++ quoted text)).dropWhile (fun c => !Text.isBlank c) =
      gap ++ quoted text := by
    have runs : ∀ c ∈ word, (!Text.isBlank c) = true := by simpa using opening.solid
    rw [List.dropWhile_append_of_pos runs]
    refine dropWhile_eq_self ?_
    rw [List.head?_append_of_ne_nil _ given]
    exact fun c listed => by simpa using blank c (List.mem_of_mem_head? listed)
  rw [Text.afterFirstWord, after, trim_gap blank]

theorem ofLine?_quotes {indent comment : List Char} (opening : IsOpening word)
    (unquoted : '"' ∉ text) (quotes : QuotedLine word text line) (before : Blank indent)
    (after : Blank trail) (starts : ∀ c ∈ comment.head?, c = '#') (number : Nat) :
    Token.ofLine? (indent ++ (line ++ (trail ++ comment))) number =
      some ⟨line, number, indent.length⟩ := by
  have nothing : stripComment comment = [] := by
    cases comment with
    | nil => rfl
    | cons c comment => simp [stripComment, stripCommentFrom, starts c rfl]
  have strips : stripComment (indent ++ (line ++ (trail ++ comment))) =
      indent ++ (line ++ trail) := by
    obtain ⟨gap, _, blank, rfl⟩ := quotes
    simp only [List.append_assoc]
    rw [stripComment_indent before, stripComment_front opening.plain, stripComment_indent blank,
      stripComment_quoted unquoted, stripComment_indent after, nothing, List.append_nil]
  have trims := trim_pad before after (quotes.starts opening) quotes.ends
  have given : line ≠ [] := by
    obtain ⟨gap, _, _, rfl⟩ := quotes
    simp [opening.given]
  have left : Text.trimLeft (indent ++ (line ++ trail)) = line ++ trail := by
    rw [Text.trimLeft, List.dropWhile_append_of_pos before]
    refine dropWhile_eq_self ?_
    rw [List.head?_append_of_ne_nil _ given]
    exact quotes.starts opening
  simp [Token.ofLine?, strips, trims, left, given]

theorem authoredText_quoted (blank : Blank gap) : authoredText (gap ++ quoted text) = text := by
  rw [authoredText, trim_gap blank]
  simp [quoted]

theorem isOpening_notify : IsOpening "NOTIFY".toList :=
  isOpening_of_all (by decide) (by decide +kernel) (by decide +kernel)

theorem compile_notify {text : String} (quotes : QuotedLine "NOTIFY".toList text.toList line)
    (place : Option Value) : Effect.compile place line = .ok (.notify text) := by
  have first := quotes.firstWord isOpening_notify
  have words : expressionWords line = "NOTIFY" :: (Text.words line).tail.map String.ofList := by
    have given : Text.firstWord line ≠ [] := by rw [first]; decide
    rw [expressionWords, words_of_firstWord given, List.tail_cons, first, List.map_cons,
      String.ofList_toList]
  have trimmed : Text.trim line = line := trim_eq_self (quotes.starts isOpening_notify) quotes.ends
  have rest : Text.afterFirstWord (Text.trim line) = quoted text.toList := by
    rw [trimmed, quotes.afterFirstWord isOpening_notify]
  have blank : Blank [] := List.forall_mem_nil _
  have message : authoredText (quoted text.toList) = text.toList :=
    authoredText_quoted blank
  have kind : EffectKind.ofPhrase? (.tail "NOTIFY") = some .notify := by decide
  rw [Effect.compile, words]
  simp only [kind]
  have given : (quoted text.toList).isEmpty = false := rfl
  rw [Effect.compileTail, rest, given]
  simp only [Bool.false_eq_true, if_false, beq_self_eq_true, if_true, message,
    String.ofList_toList]
  rfl

variable {part : Section} {node : Node} {token opener : Token} {body : List Token} {closed : Bool}

theorem isOpening_narrator : IsOpening "NARRATOR:".toList :=
  isOpening_of_all (by decide) (by decide +kernel) (by decide +kernel)

theorem isOpening_choice : IsOpening "CHOICE".toList :=
  isOpening_of_all (by decide) (by decide +kernel) (by decide +kernel)

theorem QuotedLine.speaks (quotes : QuotedLine "NARRATOR:".toList text token.line) :
    ∃ gap, Blank gap ∧ token.SpeakerLine narrator (gap ++ quoted text) := by
  obtain ⟨gap, _, blank, line⟩ := quotes
  have solid : narrator.all fun c => !Text.isBlank c && c != ':' := by decide +kernel
  exact ⟨gap, blank, line, by decide, by simpa using solid⟩

theorem silent_of_firstWord (plain : ':' ∉ Text.firstWord token.line) : token.Silent := by
  rintro name text ⟨line, _, named⟩
  have runs : ∀ c ∈ name, (!Text.isBlank c) = true := fun c listed => by
    simp [(named c listed).1]
  have solid : Text.isBlank ':' = false := by decide
  rw [line, Text.firstWord, List.takeWhile_append_of_pos runs] at plain
  simp [solid] at plain

theorem spokenText_quoted {text : String} (blank : Blank gap) :
    spokenText (gap ++ quoted text.toList) = text := by
  rw [spokenText, authoredText_quoted blank, String.ofList_toList]

theorem last?_of_once {α : Type} {kind? : Clause → Option α} {clauses : List Clause}
    {clause : Clause} {a : α} (once : Once kind? clauses) (listed : clause ∈ clauses)
    (found : kind? clause = some a) : Clause.last? kind? clauses = some a := by
  have member : a ∈ clauses.filterMap kind? := List.mem_filterMap.mpr ⟨clause, listed, found⟩
  obtain ⟨b, single⟩ := List.length_eq_one_iff.mp
    (Nat.le_antisymm once (List.length_pos_of_mem member))
  rw [single] at member
  rw [Clause.last?, single, List.mem_singleton.mp member, List.getLast?_singleton]

namespace IsNode

theorem means (isNode : IsNode part node) : ∃ id clauses, node = nodeOf id clauses ∧
    List.Forall₂ (Item.Meaning id) (items part.tokens) clauses ∧ Once Clause.speech? clauses ∧
      (clauses.filterMap Clause.choice?).Pairwise fun one other => one.id ≠ other.id := by
  obtain ⟨_, listed, spoken, _, choices⟩ := isNode
  exact ⟨_, _, rfl, items_iff.mp listed, spoken, choices⟩

theorem text_of_quotes {text : String} (isNode : IsNode part node)
    (listed : .line token ∈ items part.tokens)
    (quotes : QuotedLine "NARRATOR:".toList text.toList token.line) :
    node.speaker = .null ∧ node.text = .text text := by
  obtain ⟨id, clauses, rfl, means, spoken, _⟩ := isNode.means
  obtain ⟨gap, blank, speaks⟩ := quotes.speaks
  obtain ⟨clause, member, meansClause⟩ := exists_of_mem means.flip listed
  cases meansClause with
  | line reads =>
    cases reads with
    | @speech name spoken' other =>
      obtain ⟨rfl, rfl⟩ := Prod.mk.inj (Option.some.inj
        ((Token.speaker?_eq_some.mpr other).symm.trans (Token.speaker?_eq_some.mpr speaks)))
      have last := last?_of_once spoken member rfl
      simp [nodeOf, last, speakerOf, spokenText_quoted blank]
    | voice silent | portrait silent | goto silent | effect silent =>
      exact absurd speaks (silent _ _)

theorem choice_of_id (isNode : IsNode part node) {one other : Choice} (first : one ∈ node.choices)
    (second : other ∈ node.choices) (same : one.id = other.id) : one = other := by
  obtain ⟨id, clauses, rfl, _, _, apart⟩ := isNode.means
  have distinct : ((clauses.filterMap Clause.choice?).map Choice.id).Nodup :=
    List.pairwise_map.mpr apart
  exact List.inj_on_of_nodup_map distinct first second same

theorem choice_of_quotes {text : String} (isNode : IsNode part node)
    (listed : .block opener body closed ∈ items part.tokens)
    (quotes : QuotedLine "CHOICE".toList text.toList opener.line) :
    ∃ choice ∈ node.choices, choice.text = .text text := by
  obtain ⟨id, clauses, rfl, means, _, _⟩ := isNode.means
  obtain ⟨clause, member, meansClause⟩ := exists_of_mem means.flip listed
  have keyword : opener.keyword = "CHOICE" := by
    rw [Token.keyword, quotes.firstWord isOpening_choice, String.ofList_toList]
  cases meansClause with
  | @choice _ _ choice block =>
    refine ⟨choice, List.mem_filterMap.mpr ⟨_, member, rfl⟩, ?_⟩
    cases block
    rw [choiceOf, Token.rest, quotes.afterFirstWord isOpening_choice]
    have blank : Blank [] := List.forall_mem_nil _
    exact congrArg Value.text (spokenText_quoted blank)
  | branch block =>
    cases block with
    | intro _ branches =>
      rw [keyword] at branches
      exact absurd branches (by decide)

theorem notify_of_quotes {text : String} (isNode : IsNode part node)
    (listed : .line token ∈ items part.tokens)
    (quotes : QuotedLine "NOTIFY".toList text.toList token.line) :
    .notify text ∈ node.effects := by
  obtain ⟨id, clauses, rfl, means, _, _⟩ := isNode.means
  obtain ⟨clause, member, meansClause⟩ := exists_of_mem means.flip listed
  have keyword : token.keyword = "NOTIFY" := by
    rw [Token.keyword, quotes.firstWord isOpening_notify, String.ofList_toList]
  refine List.mem_flatMap.mpr ⟨clause, member, ?_⟩
  cases meansClause with
  | line reads =>
    cases reads with
    | speech speaks =>
      refine absurd speaks (silent_of_firstWord ?_ _ _)
      rw [quotes.firstWord isOpening_notify]
      decide
    | voice _ other | portrait _ other =>
      rw [keyword] at other
      exact absurd other (by decide)
    | goto _ routes =>
      have other := routes.keyword
      rw [keyword] at other
      exact absurd other (by decide)
    | effect _ _ affects =>
      rw [Token.EffectLine, compile_notify quotes] at affects
      cases affects
      exact List.mem_singleton_self _

end IsNode

theorem isNode_of_compile {id : Value} {source : String} {dialogue : Dialogue}
    (compiles : compile id source = .ok dialogue)
    (listed : (part, node) ∈ (sections (tokenize source.toList)).2.zip dialogue.nodes) :
    IsNode part node := by
  cases readTokens_eq_ok.mp compiles with
  | intro layout _ _ parts =>
    rw [sections_of_layout layout] at listed
    exact (List.forall₂_iff_zip.mp parts).2 listed

end Fabula.Script
