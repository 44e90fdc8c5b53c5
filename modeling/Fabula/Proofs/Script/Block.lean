import Fabula.Proofs.Script.Fold
import Fabula.Proofs.Script.Layout
/-!
# Lines and blocks are read by the grammar

The header and the two kinds of blocks are read line by line. Of each reader it is said which lines
it takes, which clauses its draft admits, and what it adds. Main statements:

* `Header.read_eq_ok`, `ChoiceDraft.read_eq_ok`, `IfDraft.read_eq_ok`: what one line adds;
* `header_eq_ok`, `readChoice_eq_ok`, `readIf_eq_ok`: what a header and a block mean.
-/

namespace Fabula.Script
variable {α β : Type} {token : Token}

namespace Token

@[simp] theorem fault_ne_ok {fault : ScriptFault} {a : α} :
    token.fault fault ≠ .ok a := by
  simp [Token.fault]

theorem guarded_eq_ok {refused : Bool} {fault : ScriptFault}
    {next : α → Except Failure β} {rest : Except Failure β} {b : β} :
    (if refused then token.fault fault >>= next else rest) = .ok b ↔
      refused = false ∧ rest = .ok b := by
  cases refused with
  | true => simp [bind_eq_ok]
  | false => simp

theorem words_of_tail {word : String} {rest : List String}
    (tail : token.words.tail = word :: rest) : ∃ first, token.words = first :: word :: rest := by
  cases words : token.words with
  | nil => simp [words] at tail
  | cons first others =>
    rw [words, List.tail_cons] at tail
    exact ⟨first, by rw [tail]⟩

theorem argument_eq_ok {word : String} : token.argument = .ok word ↔ token.words.tail = [word] := by
  unfold argument
  constructor
  · intro reads
    split at reads
    · next found =>
      cases reads
      rw [found, List.tail_cons]
    · exact absurd reads fault_ne_ok
  · intro tail
    obtain ⟨first, found⟩ := words_of_tail tail
    rw [found]

theorem condition_eq_ok {condition : Condition} : token.condition = .ok condition ↔
    Condition.compile (some (.int token.number)) token.rest = .ok condition := by
  unfold Token.condition
  split
  · next empty =>
    simp [List.isEmpty_iff.mp empty, Condition.compile, expressionWords, Text.words]
  · exact .rfl

theorem freeText_eq_ok {text : String} :
    token.freeText = .ok text ↔ token.rest ≠ [] ∧ String.ofList token.rest = text := by
  unfold freeText
  split
  · next empty => simp [List.isEmpty_iff.mp empty]
  · next given => simp [List.isEmpty_iff.not.mp given]

theorem GotoLine.keyword {target : Target} (routes : token.GotoLine target) :
    token.keyword = "GOTO" := by
  cases routes with
  | node phrase => exact phrase.keyword
  | location phrase => exact phrase.keyword

theorem target_eq_ok (keyword : token.keyword = "GOTO") {target : Target} :
    token.target = .ok target ↔ token.GotoLine target := by
  unfold Token.target
  constructor
  · intro reads
    split at reads
    · next found =>
      cases reads
      exact .location ⟨keyword, by rw [found]; rfl⟩
    · next found =>
      cases reads
      exact .node ⟨keyword, by rw [found]; rfl⟩
    · exact absurd reads fault_ne_ok
  · intro routes
    cases routes with
    | node phrase =>
      obtain ⟨first, found⟩ := words_of_tail phrase.arguments
      rw [found]
      simp
    | location phrase =>
      obtain ⟨first, found⟩ := words_of_tail phrase.arguments
      rw [found]
      simp

end Token

open Clause (last?)
open Token (guarded_eq_ok argument_eq_ok condition_eq_ok freeText_eq_ok target_eq_ok fault_ne_ok
  speaker?_eq_some silent_iff)

theorem last?_concat (kind? : Clause → Option α) (clauses : List Clause)
    (clause : Clause) :
    last? kind? (clauses ++ [clause]) = (kind? clause).or (last? kind? clauses) := by
  rw [last?, filterMap_concat]
  cases kind? clause <;> simp [last?]

@[simp] def Header.add (header : Header) (clause : Clause) : Header where
  trigger := clause.trigger?.or header.trigger
  conditions := header.conditions ++ clause.condition?.toList

def Header.Admits (header : Header) (clause : Clause) : Prop :=
  clause.trigger?.isSome → header.trigger.isSome = false

theorem Header.read_eq_ok (token : Token) (header next : Header) : header.read token = .ok next ↔
    ∃ clause, token.InHeader clause ∧ header.Admits clause ∧ header.add clause = next := by
  constructor
  · intro reads
    unfold Header.read at reads
    split at reads
    · next trigger =>
      obtain ⟨free, reads⟩ := guarded_eq_ok.mp reads
      obtain ⟨location, argument, reads⟩ := bind_eq_ok.mp reads
      cases reads
      have phrase : token.Phrase "TRIGGER" [location] :=
        ⟨eq_of_beq trigger, argument_eq_ok.mp argument⟩
      exact ⟨_, .trigger phrase, fun _ => free, by simp⟩
    · split at reads
      · next require =>
        obtain ⟨condition, compiles, reads⟩ := bind_eq_ok.mp reads
        cases reads
        have requires : token.RequireLine condition :=
          ⟨eq_of_beq require, condition_eq_ok.mp compiles⟩
        exact ⟨_, .require requires, nofun, by simp⟩
      · exact absurd reads fault_ne_ok
  · rintro ⟨clause, line, free, rfl⟩
    cases line with
    | trigger phrase =>
      have first : header.trigger.isSome = false := free rfl
      have argument := argument_eq_ok.mpr phrase.arguments
      simp [Header.read, phrase.keyword, first, argument]
    | require requires =>
      obtain ⟨keyword, compiles⟩ := requires
      have condition := condition_eq_ok.mpr compiles
      simp [Header.read, keyword, condition]

def headerOf (clauses : List Clause) : Header where
  trigger := last? Clause.trigger? clauses
  conditions := clauses.filterMap Clause.condition?

theorem headerOf_concat (clauses : List Clause) (clause : Clause) :
    (headerOf clauses).add clause = headerOf (clauses ++ [clause]) := by
  simp only [headerOf, Header.add, last?_concat, filterMap_concat]

theorem header_eq_ok {tokens : List Token} {header : Header} :
    tokens.foldlM Header.read ⟨none, []⟩ = .ok header ↔ ∃ clauses,
      List.Forall₂ Token.InHeader tokens clauses ∧ Once Clause.trigger? clauses ∧
        headerOf clauses = header := by
  have tracks (header : Header) (clause : Clause) : (header.add clause).trigger.isSome =
      (header.trigger.isSome || clause.trigger?.isSome) := by
    rw [Header.add, Option.isSome_or, Bool.or_comm]
  exact foldlM_eq_once headerOf Clause.trigger? (fun header => header.trigger.isSome)
    headerOf_concat tracks rfl Header.read_eq_ok header

@[simp] def ChoiceDraft.add (draft : ChoiceDraft) (clause : Clause) : ChoiceDraft where
  conditions := draft.conditions ++ clause.condition?.toList
  effects := draft.effects ++ clause.effects
  target := clause.target?.or draft.target

def ChoiceDraft.Admits (draft : ChoiceDraft) (clause : Clause) : Prop :=
  clause.target?.isSome → draft.target.isSome = false

theorem ChoiceDraft.read_eq_ok (token : Token) (draft next : ChoiceDraft) :
    draft.read token = .ok next ↔
      ∃ clause, token.InChoice clause ∧ draft.Admits clause ∧ draft.add clause = next := by
  constructor
  · intro reads
    unfold ChoiceDraft.read at reads
    split at reads
    · next require =>
      obtain ⟨condition, compiles, reads⟩ := bind_eq_ok.mp reads
      cases reads
      have requires : token.RequireLine condition :=
        ⟨eq_of_beq require, condition_eq_ok.mp compiles⟩
      exact ⟨_, .require requires, nofun, by simp⟩
    · next notRequire =>
      split at reads
      · next goto =>
        obtain ⟨free, reads⟩ := guarded_eq_ok.mp reads
        obtain ⟨target, routes, reads⟩ := bind_eq_ok.mp reads
        cases reads
        have routes := (target_eq_ok (eq_of_beq goto)).mp routes
        exact ⟨_, .goto routes, fun _ => free, by cases target <;> simp⟩
      · next notGoto =>
        have other : token.keyword ∉ ["REQUIRE", "GOTO"] := by simp_all
        split at reads
        · next speaks =>
          cases reads
          obtain ⟨⟨name, text⟩, speaks⟩ := Option.isSome_iff_exists.mp speaks
          exact ⟨_, .speech other (speaker?_eq_some.mp speaks), nofun, by simp⟩
        · next silent =>
          obtain ⟨effect, compiles, reads⟩ := bind_eq_ok.mp reads
          cases reads
          have silent : token.Silent := silent_iff.mpr (by simpa using silent)
          exact ⟨_, .effect other silent compiles, nofun, by simp⟩
  · rintro ⟨clause, line, free, rfl⟩
    cases line with
    | require requires =>
      obtain ⟨keyword, compiles⟩ := requires
      have condition := condition_eq_ok.mpr compiles
      simp [ChoiceDraft.read, keyword, condition]
    | @goto target routes =>
      have first : draft.target.isSome = false := free rfl
      have reads := (target_eq_ok routes.keyword).mpr routes
      cases target <;> simp [ChoiceDraft.read, routes.keyword, first, reads]
    | speech other speaks =>
      obtain ⟨notRequire, notGoto⟩ : token.keyword ≠ "REQUIRE" ∧ token.keyword ≠ "GOTO" := by
        simpa using other
      have speaker := speaker?_eq_some.mpr speaks
      simp [ChoiceDraft.read, notRequire, notGoto, speaker, pure_eq_ok]
    | effect other silent affects =>
      obtain ⟨notRequire, notGoto⟩ : token.keyword ≠ "REQUIRE" ∧ token.keyword ≠ "GOTO" := by
        simpa using other
      have speaker := silent_iff.mp silent
      have effect : token.effect = .ok _ := affects
      simp [ChoiceDraft.read, notRequire, notGoto, speaker, effect]

def choiceDraftOf (clauses : List Clause) : ChoiceDraft where
  conditions := clauses.filterMap Clause.condition?
  effects := clauses.flatMap Clause.effects
  target := last? Clause.target? clauses

theorem choiceDraftOf_concat (clauses : List Clause) (clause : Clause) :
    (choiceDraftOf clauses).add clause = choiceDraftOf (clauses ++ [clause]) := by
  simp only [choiceDraftOf, ChoiceDraft.add, last?_concat, filterMap_concat, List.flatMap_append,
    List.flatMap_singleton]

theorem filterMap_next (clauses : List Clause) : clauses.filterMap Clause.next? =
    (clauses.filterMap Clause.target?).filterMap Target.node? := by
  rw [List.filterMap_filterMap]
  rfl

theorem last?_next {clauses : List Clause} (routed : Once Clause.target? clauses) :
    last? Clause.next? clauses = (last? Clause.target? clauses).bind Target.node? := by
  unfold Once at routed
  rw [last?, last?, filterMap_next]
  match found : clauses.filterMap Clause.target?, routed with
  | [], _ => rfl
  | [target], _ => cases target <;> rfl

theorem choiceLines_eq_ok {body : List Token} {draft : ChoiceDraft} :
    body.foldlM ChoiceDraft.read ⟨[], [], none⟩ = .ok draft ↔ ∃ clauses,
      List.Forall₂ Token.InChoice body clauses ∧ Once Clause.target? clauses ∧
        choiceDraftOf clauses = draft := by
  have tracks (draft : ChoiceDraft) (clause : Clause) : (draft.add clause).target.isSome =
      (draft.target.isSome || clause.target?.isSome) := by
    rw [ChoiceDraft.add, Option.isSome_or, Bool.or_comm]
  exact foldlM_eq_once choiceDraftOf Clause.target? (fun draft => draft.target.isSome)
    choiceDraftOf_concat tracks rfl ChoiceDraft.read_eq_ok draft

theorem readChoice_eq_ok {node : String} {opener : Token} {body : List Token} {closed : Bool}
    {choice : Choice} (silent : opener.Silent) (keyword : opener.keyword = "CHOICE") :
    readChoice node opener body closed = .ok choice ↔
      closed = true ∧ IsChoice node opener body choice := by
  unfold readChoice
  simp only [guarded_eq_ok, bind_eq_ok, pure_eq_ok, choiceLines_eq_ok]
  constructor
  · rintro ⟨given, _, ⟨clauses, lines, routed, rfl⟩, closed, rfl⟩
    have block : IsChoice node opener body (choiceOf node opener.rest clauses) :=
      .intro silent keyword (List.isEmpty_eq_false_iff.mp given) lines routed
    -- The draft keeps the last target, and the grammar the last node that a line goes to.
    rw [choiceOf, last?_next routed] at block
    refine ⟨by simpa using closed, ?_⟩
    revert block
    simp only [choiceDraftOf]
    rcases last? Clause.target? clauses with _ | ⟨next⟩ | ⟨location⟩ <;> exact id
  · rintro ⟨closed, block⟩
    obtain ⟨_, _, given, lines, routed⟩ := block
    refine ⟨List.isEmpty_eq_false_iff.mpr given, _, ⟨_, lines, routed, rfl⟩,
      by simpa using closed, ?_⟩
    rw [choiceOf, last?_next routed]
    simp only [choiceDraftOf]
    rcases last? Clause.target? _ with _ | ⟨next⟩ | ⟨location⟩ <;> rfl

@[simp] def IfDraft.add (draft : IfDraft) (clause : Clause) : IfDraft where
  effects := draft.effects ++ clause.effects
  target := clause.next?.or draft.target

def IfDraft.Admits (draft : IfDraft) (clause : Clause) : Prop :=
  clause.next?.isSome → draft.target.isSome = false

theorem IfDraft.read_eq_ok (token : Token) (draft next : IfDraft) :
    draft.read token = .ok next ↔
      ∃ clause, token.InBranch clause ∧ draft.Admits clause ∧ draft.add clause = next := by
  constructor
  · intro reads
    unfold IfDraft.read at reads
    split at reads
    · next goto =>
      obtain ⟨free, reads⟩ := guarded_eq_ok.mp reads
      obtain ⟨target, routes, reads⟩ := bind_eq_ok.mp reads
      cases (target_eq_ok (eq_of_beq goto)).mp routes with
      | node phrase =>
        cases reads
        exact ⟨_, .goto phrase, fun _ => free, by simp⟩
      | location phrase => exact absurd reads fault_ne_ok
    · next notGoto =>
      obtain ⟨effect, compiles, reads⟩ := bind_eq_ok.mp reads
      cases reads
      exact ⟨_, .effect (by simpa using notGoto) compiles, nofun, by simp⟩
  · rintro ⟨clause, line, free, rfl⟩
    cases line with
    | goto phrase =>
      have first : draft.target.isSome = false := free rfl
      have reads := (target_eq_ok phrase.keyword).mpr (.node phrase)
      simp [IfDraft.read, phrase.keyword, first, reads]
      rfl
    | effect other affects =>
      have effect : token.effect = .ok _ := affects
      simp [IfDraft.read, other, effect]

def ifDraftOf (clauses : List Clause) : IfDraft where
  effects := clauses.flatMap Clause.effects
  target := last? Clause.next? clauses

theorem ifDraftOf_concat (clauses : List Clause) (clause : Clause) :
    (ifDraftOf clauses).add clause = ifDraftOf (clauses ++ [clause]) := by
  simp only [ifDraftOf, IfDraft.add, last?_concat, List.flatMap_append, List.flatMap_singleton]

theorem once_next {body : List Token} {clauses : List Clause}
    (lines : List.Forall₂ Token.InBranch body clauses) :
    Once Clause.next? clauses ↔ Once Clause.target? clauses := by
  unfold Once
  suffices same : (clauses.filterMap Clause.next?).length =
      (clauses.filterMap Clause.target?).length by rw [same]
  induction lines with
  | nil => rfl
  | cons line _ ih => cases line <;> simpa [List.filterMap_cons] using ih

theorem branchLines_eq_ok {body : List Token} {draft : IfDraft} :
    body.foldlM IfDraft.read ⟨[], none⟩ = .ok draft ↔ ∃ clauses,
      List.Forall₂ Token.InBranch body clauses ∧ Once Clause.target? clauses ∧
        ifDraftOf clauses = draft := by
  have tracks (draft : IfDraft) (clause : Clause) : (draft.add clause).target.isSome =
      (draft.target.isSome || clause.next?.isSome) := by
    rw [IfDraft.add, Option.isSome_or, Bool.or_comm]
  have run : body.foldlM IfDraft.read ⟨[], none⟩ = .ok draft ↔ ∃ clauses,
      List.Forall₂ Token.InBranch body clauses ∧ Once Clause.next? clauses ∧
        ifDraftOf clauses = draft :=
    foldlM_eq_once ifDraftOf Clause.next? (fun draft => draft.target.isSome) ifDraftOf_concat
      tracks rfl IfDraft.read_eq_ok draft
  refine run.trans ⟨?_, ?_⟩
  · rintro ⟨clauses, lines, routed, made⟩
    exact ⟨clauses, lines, (once_next lines).mp routed, made⟩
  · rintro ⟨clauses, lines, routed, made⟩
    exact ⟨clauses, lines, (once_next lines).mpr routed, made⟩

theorem readIf_eq_ok {opener : Token} {body : List Token} {closed : Bool}
    {made : Option Branch × List Effect} (silent : opener.Silent)
    (keyword : opener.keyword = "IF") :
    readIf opener body closed = .ok made ↔
      closed = true ∧ ∃ clause, IsBranch opener body clause ∧
        (clause.branch?, clause.effects) = made := by
  unfold readIf
  simp only [guarded_eq_ok, bind_eq_ok, pure_eq_ok, branchLines_eq_ok, condition_eq_ok]
  constructor
  · rintro ⟨condition, compiles, _, ⟨clauses, lines, routed, rfl⟩, closed, rfl⟩
    refine ⟨by simpa using closed, _, .intro silent keyword compiles lines routed, ?_⟩
    simp only [ifDraftOf]
    cases last? Clause.next? clauses <;> rfl
  · rintro ⟨closed, _, block, rfl⟩
    obtain ⟨_, _, compiles, lines, routed⟩ := block
    refine ⟨_, compiles, _, ⟨_, lines, routed, rfl⟩, by simpa using closed, ?_⟩
    simp only [ifDraftOf]
    cases last? Clause.next? _ <;> rfl

end Fabula.Script
