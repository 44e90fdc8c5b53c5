import Fabula.Proofs.Script.Grammar
import Mathlib.Data.List.TakeWhile
/-!
# The layout of a script is the one of the grammar

A script has one layout, and the readers find it: a section begins at every `NODE` line, a block
ends at the first line that closes it, and a line speaks if it begins with a name and a colon. Main
statements:

* `speaker?_eq_some`: when a line speaks;
* `phrase_iff`: a phrase is all the words of its line;
* `sections_layout`, `sections_of_layout`: a script has one layout;
* `items_iff`: the lines and blocks of a section.
-/

namespace Fabula.Script

inductive Item.Meaning (node : String) : Item → Clause → Prop
  | line {token : Token} {clause : Clause} (line : token.InSection clause) :
      Meaning node (.line token) clause
  | choice {opener : Token} {body : List Token} {choice : Choice}
      (block : IsChoice node opener body choice) :
      Meaning node (.block opener body true) (.choice choice)
  | branch {opener : Token} {body : List Token} {clause : Clause}
      (block : IsBranch opener body clause) : Meaning node (.block opener body true) clause

variable {tokens header body rest : List Token} {parts : List Section} {opener closer token : Token}

theorem takeWhile_dropWhile_iff {α : Type} {p : α → Bool} {all front back : List α} {stop : α} :
    all.takeWhile p = front ∧ all.dropWhile p = stop :: back ↔
      all = front ++ stop :: back ∧ (∀ a ∈ front, p a = true) ∧ p stop = false := by
  constructor
  · rintro ⟨rfl, after⟩
    have whole := List.takeWhile_append_dropWhile (p := p) (l := all)
    have stops := List.head?_dropWhile_not p all
    rw [after] at whole stops
    exact ⟨whole.symm, fun a => List.mem_takeWhile_imp, by simpa using stops⟩
  · rintro ⟨rfl, runs, stops⟩
    simp [List.takeWhile_append_of_pos runs, List.dropWhile_append_of_pos runs, stops]

namespace Token

theorem speaker?_eq_some {name text : List Char} :
    token.speaker? = some (name, text) ↔ token.SpeakerLine name text := by
  have speaks_iff : token.SpeakerLine name text ↔ name ≠ [] ∧
      token.line.takeWhile (fun c => !Text.isBlank c && c != ':') = name ∧
      token.line.dropWhile (fun c => !Text.isBlank c && c != ':') = ':' :: text := by
    rw [takeWhile_dropWhile_iff]
    constructor
    · rintro ⟨line, given, named⟩
      exact ⟨given, line, by simpa using named, rfl⟩
    · rintro ⟨given, line, named, _⟩
      exact ⟨line, given, by simpa using named⟩
  rw [speaks_iff]
  unfold Token.speaker?
  dsimp only
  generalize token.line.takeWhile (fun c => !Text.isBlank c && c != ':') = front
  generalize token.line.dropWhile (fun c => !Text.isBlank c && c != ':') = back
  cases front with
  | nil => simp +contextual
  | cons c front =>
    cases back with
    | nil => simp
    | cons colon back =>
      by_cases spoken : colon = ':'
      · subst spoken
        simp +contextual [eq_comm]
      · simp [spoken]

theorem silent_iff : token.Silent ↔ token.speaker? = none := by
  rw [Option.eq_none_iff_forall_ne_some]
  constructor
  · rintro silent ⟨name, text⟩ speaks
    exact silent name text (speaker?_eq_some.mp speaks)
  · intro silent name text speaks
    exact silent _ (speaker?_eq_some.mpr speaks)

end Token

theorem foldr_pushChar_fst (text : List Char) :
    (text.foldr Text.pushChar ([], [])).1 = Text.firstWord text := by
  induction text with
  | nil => rfl
  | cons c rest ih =>
    rw [Text.firstWord] at ih ⊢
    rw [List.foldr_cons, Text.pushChar, List.takeWhile_cons]
    cases Text.isBlank c <;> simp [ih]

theorem words_of_firstWord {text : List Char} (given : Text.firstWord text ≠ []) :
    Text.words text = Text.firstWord text :: (Text.words text).tail := by
  have words : Text.words text = (text.foldr Text.pushChar ([], [])).1 ::
      (text.foldr Text.pushChar ([], [])).2 := by
    rw [← foldr_pushChar_fst] at given
    simp [Text.words, List.isEmpty_iff, given]
  rw [words, foldr_pushChar_fst, List.tail_cons]

theorem trim_prefix (text : List Char) : Text.trim text <+: Text.trimLeft text := by
  rw [Text.trim, Text.trimRight, ← List.reverse_suffix, List.reverse_reverse]
  exact List.dropWhile_suffix _

theorem firstWord_of_trim {text : List Char} (given : Text.trim text ≠ []) :
    Text.firstWord (Text.trim text) ≠ [] := by
  obtain ⟨after, whole⟩ := trim_prefix text
  have starts := List.head?_dropWhile_not Text.isBlank text
  rw [← Text.trimLeft, ← whole] at starts
  cases trimmed : Text.trim text with
  | nil => exact absurd trimmed given
  | cons c rest =>
    rw [trimmed] at starts
    have solid : Text.isBlank c = false := by simpa using starts
    simp [Text.firstWord, solid]

theorem phrase_iff {source : List Char} (listed : token ∈ tokenize source) {keyword : String}
    {arguments : List String} :
    token.Phrase keyword arguments ↔ token.words = keyword :: arguments := by
  have words : token.words = token.keyword :: token.words.tail := by
    obtain ⟨⟨raw, number⟩, _, made⟩ := List.mem_filterMap.mp listed
    simp only [Token.ofLine?] at made
    split at made
    · cases made
    · next given =>
      cases made
      have first := firstWord_of_trim (List.isEmpty_eq_false_iff.mp (Bool.eq_false_iff.mpr given))
      simp only [Token.words, Token.keyword]
      rw [words_of_firstWord first]
      rfl
  constructor
  · intro phrase
    rw [words, phrase.keyword, phrase.arguments]
  · intro found
    rw [found] at words
    obtain ⟨first, _⟩ := List.cons.inj words
    exact ⟨first.symm, by rw [found, List.tail_cons]⟩

theorem sections_layout (tokens : List Token) :
    Layout tokens (sections tokens).1 (sections tokens).2 := by
  induction tokens with
  | nil => exact ⟨rfl, by simp [sections], by simp [sections], by simp [sections]⟩
  | cons token rest ih =>
    have step : sections (token :: rest) = if token.opensSection
        then ([], ⟨token, (sections rest).1⟩ :: (sections rest).2)
        else (token :: (sections rest).1, (sections rest).2) := rfl
    by_cases opens : token.opensSection
    · have keyword : token.keyword = "NODE" := by simpa [Token.opensSection] using opens
      rw [step, if_pos opens]
      refine ⟨?_, by simp, ?_, ?_⟩
      · simpa using ih.tokens
      · intro part listed
        rcases List.mem_cons.mp listed with rfl | listed
        · exact keyword
        · exact ih.openers part listed
      · intro part listed
        rcases List.mem_cons.mp listed with rfl | listed
        · exact ih.header
        · exact ih.inside part listed
    · have keyword : token.keyword ≠ "NODE" := by simpa [Token.opensSection] using opens
      rw [step, if_neg opens]
      refine ⟨?_, ?_, ih.openers, ih.inside⟩
      · simpa using ih.tokens
      · intro other listed
        rcases List.mem_cons.mp listed with rfl | listed
        · exact keyword
        · exact ih.header other listed

theorem sections_append (above : ∀ token ∈ header, token.keyword ≠ "NODE") (rest : List Token) :
    sections (header ++ rest) = (header ++ (sections rest).1, (sections rest).2) := by
  induction header with
  | nil => rfl
  | cons token header ih =>
    have keyword := above token List.mem_cons_self
    have below := ih fun other listed => above other (List.mem_cons_of_mem _ listed)
    simp [sections, Token.opensSection, keyword, below]

theorem sections_of_layout (layout : Layout tokens header parts) :
    sections tokens = (header, parts) := by
  obtain ⟨rfl, above, openers, inside⟩ := layout
  induction parts generalizing header with
  | nil => simpa [sections] using sections_append above []
  | cons part parts ih =>
    have opens := openers part List.mem_cons_self
    have below := ih (inside part List.mem_cons_self)
      (fun other listed => openers other (List.mem_cons_of_mem _ listed))
      (fun other listed => inside other (List.mem_cons_of_mem _ listed))
    rw [List.flatMap_cons, List.cons_append, sections_append above]
    simp [sections, Token.opensSection, opens, below]

theorem closes_iff :
    opener.closes token = true ↔ token.line = "END".toList ∧ token.indent = opener.indent := by
  simp [Token.closes]

theorem items_line (plain : token.opensBlock = false) :
    items (token :: rest) = .line token :: items rest := by
  rw [items, if_neg (Bool.eq_false_iff.mp plain)]

theorem items_block (opens : opener.opensBlock) (encloses : Enclosure opener body closer) :
    items (opener :: (body ++ closer :: rest)) = .block opener body true :: items rest := by
  have inside : ∀ token ∈ body, (!opener.closes token) = true := by
    intro token listed
    simpa using fun closes => encloses.body token listed (closes_iff.mp closes)
  have closes : (!opener.closes closer) = false := by
    simpa using closes_iff.mpr encloses.closer
  have whole : body ++ closer :: rest = body ++ closer :: rest := rfl
  obtain ⟨before, after⟩ := takeWhile_dropWhile_iff.mpr ⟨whole, inside, closes⟩
  rw [items, if_pos opens]
  simp only [before, after]
  rfl

theorem encloses_of_closed
    (closed : (rest.dropWhile fun token => !opener.closes token).isEmpty = false) :
    ∃ closer after, rest = (rest.takeWhile fun token => !opener.closes token) ++ closer :: after ∧
      (rest.dropWhile fun token => !opener.closes token).tail = after ∧
      Enclosure opener (rest.takeWhile fun token => !opener.closes token) closer := by
  cases found : rest.dropWhile fun token => !opener.closes token with
  | nil => simp [found] at closed
  | cons closer after =>
    obtain ⟨whole, inside, closes⟩ := takeWhile_dropWhile_iff.mp ⟨rfl, found⟩
    refine ⟨closer, after, whole, rfl, closes_iff.mp (by simpa using closes), ?_⟩
    intro token listed closing
    have stays := inside token listed
    simp [closes_iff.mpr closing] at stays

theorem opensBlock_iff :
    token.opensBlock ↔ token.Silent ∧ (token.keyword = "CHOICE" ∨ token.keyword = "IF") := by
  simp [Token.opensBlock, Token.silent_iff]

theorem plain_of_inSection {clause : Clause} (line : token.InSection clause) :
    token.opensBlock = false := by
  refine Bool.eq_false_iff.mpr fun opens => ?_
  obtain ⟨silent, keyword⟩ := opensBlock_iff.mp opens
  cases line with
  | speech speaks => exact silent _ _ speaks
  | voice _ voice _ => simp [voice] at keyword
  | portrait _ portrait _ => simp [portrait] at keyword
  | goto _ routes => cases routes with
    | node phrase => simp [phrase.keyword] at keyword
    | location phrase => simp [phrase.keyword] at keyword
  | effect _ other _ => rcases keyword with keyword | keyword <;> simp [keyword] at other

theorem items_of_means {node : String} {closed : Bool} {clause : Clause}
    (means : Item.Meaning node (.block opener body closed) clause) :
    closed = true ∧ ∀ {closer : Token} {rest : List Token} {clauses : List Clause},
      Enclosure opener body closer → Items node rest clauses →
        Items node (opener :: (body ++ closer :: rest)) (clause :: clauses) := by
  cases means with
  | choice block => exact ⟨rfl, fun encloses below => .choice encloses block below⟩
  | branch block => exact ⟨rfl, fun encloses below => .branch encloses block below⟩

theorem items_iff {node : String} {tokens : List Token} {clauses : List Clause} :
    Items node tokens clauses ↔ List.Forall₂ (Item.Meaning node) (items tokens) clauses := by
  constructor
  · intro means
    induction means with
    | nil =>
      rw [items]
      exact .nil
    | line line _ ih =>
      rw [items_line (plain_of_inSection line)]
      exact .cons (.line line) ih
    | choice encloses block _ ih =>
      have opens := block
      obtain ⟨silent, keyword, _, _, _⟩ := opens
      rw [items_block (opensBlock_iff.mpr ⟨silent, .inl keyword⟩) encloses]
      exact .cons (.choice block) ih
    | branch encloses block _ ih =>
      have opens := block
      obtain ⟨silent, keyword, _, _, _⟩ := opens
      rw [items_block (opensBlock_iff.mpr ⟨silent, .inr keyword⟩) encloses]
      exact .cons (.branch block) ih
  · intro means
    induction tokens using items.induct generalizing clauses with
    | case1 =>
      rw [items] at means
      cases means
      exact .nil
    | case2 token rest opens after =>
      rename_i ih
      rw [items, if_pos opens] at means
      cases means with
      | cons first belowMeans =>
        obtain ⟨closed, extend⟩ := items_of_means first
        obtain ⟨closer, below, whole, tail, encloses⟩ :=
          encloses_of_closed (by simpa using closed)
        -- The tokens after the first closing line are those that the items below come from.
        have block := extend encloses (tail ▸ ih belowMeans)
        rwa [← whole] at block
    | case3 token rest plain ih =>
      rw [items, if_neg plain] at means
      cases means with
      | cons first below =>
        cases first with
        | line line => exact .line line (ih below)

end Fabula.Script
