import Fabula.Proofs.Script.Overlong
import Fabula.Proofs.Script.Reading
/-!
# Scripts that are refused

A source that does not compile is refused with a fault at the number of a line that says something,
with two exceptions. The fault has no line where the source is nothing but a header; and it is no
fault of the script where the first line that cannot be read has an integer of too many digits.
Main statements:

* `readTokens_reported`: at which lines faults are reported;
* `readTokens_eq_lineless_iff`, `readTokens_eq_overlong_iff`: when the two exceptions occur;
* `compile_refused`: all failures of the compiler.
-/

namespace Fabula.Script
variable {ι κ : Type} {count : Nat} {token : Token}

/-! ## Faults at lines -/

def Reported (tokens : List Token) (failure : Failure) : Prop :=
  ∃ token ∈ tokens, failure.OfSource (some (.int token.number))

theorem FailsOnly.reported {α : Type} {result : Except Failure α} {tokens : List Token}
    (listed : token ∈ tokens)
    (fails : FailsOnly (Failure.OfSource (some (.int token.number))) result) :
    FailsOnly (Reported tokens) result :=
  fails.imp fun _ ofSource => ⟨token, listed, ofSource⟩

theorem FailsOnly.within {α : Type} {result : Except Failure α} {tokens others : List Token}
    (inside : tokens ⊆ others) (fails : FailsOnly (Reported tokens) result) :
    FailsOnly (Reported others) result := by
  refine fails.imp fun _ reported => ?_
  obtain ⟨token, listed, ofSource⟩ := reported
  exact ⟨token, inside listed, ofSource⟩

namespace Token

abbrev Reports {α : Type} (token : Token) (result : Except Failure α) : Prop :=
  FailsOnly (Failure.OfSource (some (.int token.number))) result

@[simp] theorem fault_reports {α : Type} (token : Token) (fault : ScriptFault) :
    token.Reports (token.fault fault : Except Failure α) := by
  simp [Reports, Token.fault]

@[simp] theorem argument_reports (token : Token) : token.Reports token.argument := by
  unfold argument
  split <;> simp

@[simp] theorem freeText_reports (token : Token) : token.Reports token.freeText := by
  unfold freeText
  split <;> simp

@[simp] theorem condition_reports (token : Token) : token.Reports token.condition := by
  unfold Token.condition
  split
  · exact fault_reports _ _
  · exact Condition.compile_fails _

@[simp] theorem effect_reports (token : Token) : token.Reports token.effect :=
  Effect.compile_fails _

@[simp] theorem target_reports (token : Token) : token.Reports token.target := by
  unfold Token.target
  split <;> simp

end Token

theorem Header.read_reports (header : Header) (token : Token) :
    token.Reports (header.read token) := by
  simp [Header.read]

theorem ChoiceDraft.read_reports (draft : ChoiceDraft) (token : Token) :
    token.Reports (draft.read token) := by
  simp [ChoiceDraft.read]

theorem IfDraft.read_reports (draft : IfDraft) (token : Token) :
    token.Reports (draft.read token) := by
  simp only [IfDraft.read, failsOnly_ite, failsOnly_bind, Token.fault_reports, Token.target_reports,
    Token.effect_reports, failsOnly_pure, implies_true, true_and, and_true]
  refine fun _ => ⟨fun _ _ _ target _ => ?_, fun _ target _ => ?_⟩
  · cases target <;> simp
  · cases target <;> simp

theorem foldlM_reported {σ : Type} {read : σ → Token → Except Failure σ} {tokens : List Token}
    (step : ∀ draft (token : Token), token.Reports (read draft token)) (start : σ) :
    FailsOnly (Reported tokens) (tokens.foldlM read start) :=
  failsOnly_foldlM_mem
    (fun token listed draft => FailsOnly.reported listed (step draft token)) start

theorem readChoice_reported (node : String) (opener : Token) (body : List Token) (closed : Bool) :
    FailsOnly (Reported (opener :: body)) (readChoice node opener body closed) := by
  have atOpener (fault : ScriptFault) :
      FailsOnly (Reported (opener :: body)) (opener.fault fault : Except Failure Unit) :=
    FailsOnly.reported List.mem_cons_self (opener.fault_reports fault)
  have lines := FailsOnly.within (List.subset_cons_self opener body)
    (foldlM_reported ChoiceDraft.read_reports (ChoiceDraft.mk [] [] none))
  simp [readChoice, atOpener, lines]

theorem readIf_reported (opener : Token) (body : List Token) (closed : Bool) :
    FailsOnly (Reported (opener :: body)) (readIf opener body closed) := by
  have atOpener (fault : ScriptFault) :
      FailsOnly (Reported (opener :: body)) (opener.fault fault : Except Failure Unit) :=
    FailsOnly.reported List.mem_cons_self (opener.fault_reports fault)
  have condition := FailsOnly.reported (List.mem_cons_self (l := body)) opener.condition_reports
  have lines := FailsOnly.within (List.subset_cons_self opener body)
    (foldlM_reported IfDraft.read_reports (IfDraft.mk [] none))
  simp [readIf, atOpener, condition, lines]

def Item.tokens : Item → List Token
  | .line token => [token]
  | .block opener body _ => opener :: body

theorem items_tokens {tokens : List Token} {item : Item} (listed : item ∈ items tokens) :
    item.tokens ⊆ tokens := by
  induction tokens using items.induct with
  | case1 => simp [items] at listed
  | case2 token rest opens after =>
    rename_i ih
    rw [items, if_pos opens] at listed
    rcases List.mem_cons.mp listed with rfl | listed
    · exact List.cons_subset_cons _ (List.takeWhile_sublist _).subset
    · have below : after.tail ⊆ rest :=
        ((List.tail_sublist after).trans (List.dropWhile_sublist _)).subset
      exact List.Subset.trans (ih listed) (List.subset_cons_of_subset _ below)
  | case3 token rest plain ih =>
    rw [items, if_neg plain] at listed
    rcases List.mem_cons.mp listed with rfl | listed
    · simp [Item.tokens]
    · exact List.Subset.trans (ih listed) (List.subset_cons_self token rest)

theorem NodeDraft.readLine_reports (draft : NodeDraft) (id : String) (token : Token) :
    token.Reports (draft.readLine id token) := by
  unfold NodeDraft.readLine
  split
  · simp [NodeDraft.readSpeaker]
  · simp [NodeDraft.readGoto]

theorem NodeDraft.read_reported (id : String) (draft : NodeDraft) (item : Item) :
    FailsOnly (Reported item.tokens) (draft.read id item) := by
  cases item with
  | line token =>
    exact FailsOnly.reported (List.mem_singleton_self token) (draft.readLine_reports id token)
  | block opener body closed =>
    have repeated (fault : ScriptFault) :
        FailsOnly (Reported (opener :: body)) (opener.fault fault : Except Failure Unit) :=
      FailsOnly.reported List.mem_cons_self (opener.fault_reports fault)
    simp [NodeDraft.read, NodeDraft.addChoice, Item.tokens, repeated, readChoice_reported,
      readIf_reported]

theorem readNode_reported (part : Section) :
    FailsOnly (Reported (part.opener :: part.tokens)) (readNode part) := by
  have argument := FailsOnly.reported (List.mem_cons_self (l := part.tokens))
    part.opener.argument_reports
  have lines (id : String) : FailsOnly (Reported (part.opener :: part.tokens))
      ((items part.tokens).foldlM (NodeDraft.read id) (.empty id)) := by
    refine failsOnly_foldlM_mem (fun item listed draft => ?_) _
    have inside := List.Subset.trans (items_tokens listed)
      (List.subset_cons_self part.opener part.tokens)
    exact FailsOnly.within inside (draft.read_reported id item)
  simp [readNode, argument, lines]

theorem addNode_reported (nodes : List Node) (part : Section) :
    FailsOnly (Reported (part.opener :: part.tokens)) (addNode nodes part) := by
  have repeated (fault : ScriptFault) : FailsOnly (Reported (part.opener :: part.tokens))
      (part.opener.fault fault : Except Failure Unit) :=
    FailsOnly.reported List.mem_cons_self (part.opener.fault_reports fault)
  simp [addNode, repeated, readNode_reported]

theorem header_reported (tokens : List Token) :
    FailsOnly (Reported tokens) ((sections tokens).1.foldlM Header.read ⟨none, []⟩) := by
  refine FailsOnly.within ?_ (foldlM_reported Header.read_reports _)
  intro token listed
  rw [(sections_layout tokens).tokens]
  exact List.mem_append_left _ listed

theorem nodes_reported (tokens : List Token) :
    FailsOnly (Reported tokens) ((sections tokens).2.foldlM addNode []) := by
  refine failsOnly_foldlM_mem (fun part listed nodes => ?_) _
  refine FailsOnly.within ?_ (addNode_reported nodes part)
  intro token inside
  rw [(sections_layout tokens).tokens]
  exact List.mem_append_right _ (List.mem_flatMap.mpr ⟨part, listed, inside⟩)

theorem readTokens_reported (id : Value) (tokens : List Token) :
    FailsOnly (fun failure => Reported tokens failure ∨ ∃ fault, failure = .script fault none)
      (readTokens id tokens) := by
  unfold readTokens
  refine (failsOnly_bind _ _).mpr ⟨(header_reported tokens).imp fun _ => .inl, fun _ _ => ?_⟩
  refine (failsOnly_bind _ _).mpr ⟨(nodes_reported tokens).imp fun _ => .inl, fun nodes _ => ?_⟩
  cases nodes <;> simp

theorem not_reported_lineless {tokens : List Token} {fault : ScriptFault} :
    ¬ Reported tokens (.script fault none) := by
  rintro ⟨token, _, ⟨_, same⟩ | ⟨_, same⟩⟩ <;> cases same

def OnlyHeader (tokens : List Token) : Prop :=
  ∃ clauses, List.Forall₂ Token.InHeader tokens clauses ∧ Once Clause.trigger? clauses

theorem OnlyHeader.layout {tokens : List Token} (only : OnlyHeader tokens) :
    Layout tokens tokens [] := by
  obtain ⟨clauses, lines, _⟩ := only
  refine ⟨by simp, ?_, by simp, by simp⟩
  intro token listed node
  obtain ⟨clause, _, line⟩ := exists_of_mem lines.flip listed
  cases line with
  | trigger phrase => simp [phrase.keyword] at node
  | require requires => simp [requires.1] at node

theorem readTokens_eq_lineless_iff (id : Value) (tokens : List Token) :
    (∃ fault, readTokens id tokens = .error (.script fault none)) ↔ OnlyHeader tokens := by
  constructor
  · rintro ⟨fault, fails⟩
    unfold readTokens at fails
    obtain fails | ⟨header, readsHeader, fails⟩ := error_of_bind_iff.mp fails
    · exact absurd (header_reported tokens _ fails) not_reported_lineless
    · obtain fails | ⟨nodes, readsNodes, fails⟩ := error_of_bind_iff.mp fails
      · exact absurd (nodes_reported tokens _ fails) not_reported_lineless
      · cases nodes with
        | nil =>
          have layout := sections_layout tokens
          obtain ⟨parts, _⟩ := (nodes_eq_ok layout.openers []).mp readsNodes
          have whole := layout.tokens
          rw [List.forall₂_nil_right_iff.mp parts, List.flatMap_nil, List.append_nil] at whole
          obtain ⟨clauses, lines, triggered, _⟩ := header_eq_ok.mp readsHeader
          exact ⟨clauses, whole ▸ lines, triggered⟩
        | cons first others => cases fails
  · intro only
    have alone := sections_of_layout only.layout
    obtain ⟨clauses, lines, triggered⟩ := only
    have readsHeader := header_eq_ok.mpr ⟨clauses, lines, triggered, rfl⟩
    refine ⟨.noNode id.display, ?_⟩
    simp only [readTokens, alone, readsHeader]
    rfl

/-! ## Lines of the source -/

/-- Whether a source has a line of a number with more on it than blanks and a comment. Lines are
numbered from one. -/
def SaysSomething (source : List Char) (number : Nat) : Prop :=
  ∃ raw, 0 < number ∧ (Text.lines source)[number - 1]? = some raw ∧
    Text.trim (stripComment raw) ≠ []

theorem saysSomething_of_token {source : List Char} (listed : token ∈ tokenize source) :
    SaysSomething source token.number := by
  obtain ⟨⟨raw, number⟩, numbered, made⟩ := List.mem_filterMap.mp listed
  obtain ⟨first, place⟩ := List.mk_mem_zipIdx_iff_le_and_getElem?_sub.mp numbered
  simp only [Token.ofLine?] at made
  split at made
  · cases made
  · next given =>
    cases made
    exact ⟨raw, first, place, by simpa using given⟩

/-! ## Where an integer stops the reader -/

def StopsAt (means : ι → κ → Prop) (together : List κ → Prop) (stops : ι → Prop)
    (items : List ι) : Prop :=
  ∃ before item after clauses, items = before ++ item :: after ∧
    List.Forall₂ means before clauses ∧ together clauses ∧ stops item

theorem foldlM_eq_error_iff_stopsAt {σ : Type} {read : σ → ι → Except Failure σ} {start : σ}
    {items : List ι} {failure : Failure} {means : ι → κ → Prop} {together : List κ → Prop}
    {made : List κ → σ} {stops : ι → Prop}
    (run : ∀ before ⊆ items, ∀ draft, before.foldlM read start = .ok draft ↔
      ∃ clauses, List.Forall₂ means before clauses ∧ together clauses ∧ made clauses = draft)
    (step : ∀ item ∈ items, ∀ draft, read draft item = .error failure ↔ stops item) :
    items.foldlM read start = .error failure ↔ StopsAt means together stops items := by
  rw [foldlM_eq_error_iff]
  constructor
  · rintro ⟨before, item, after, draft, rfl, reads, fails⟩
    obtain ⟨clauses, meant, stand, _⟩ := (run before (List.subset_append_left _ _) draft).mp reads
    exact ⟨before, item, after, clauses, rfl, meant, stand, (step item (by simp) draft).mp fails⟩
  · rintro ⟨before, item, after, clauses, rfl, meant, stand, stops⟩
    have reads := (run before (List.subset_append_left _ _) _).mpr ⟨clauses, meant, stand, rfl⟩
    exact ⟨before, item, after, _, rfl, reads, (step item (by simp) _).mpr stops⟩

namespace Token

@[simp] theorem fault_ne_overlong {α : Type} {fault : ScriptFault} :
    (token.fault fault : Except Failure α) ≠ .error (.overlong count) := by
  simp [Token.fault]

theorem guarded_eq_overlong_iff {α β : Type} {refused : Bool} {fault : ScriptFault}
    {next : α → Except Failure β} {rest : Except Failure β} :
    (if refused then token.fault fault >>= next else rest) = .error (.overlong count) ↔
      refused = false ∧ rest = .error (.overlong count) := by
  cases refused with
  | true => simp [error_of_bind_iff]
  | false => simp

theorem condition_eq_overlong_iff : token.condition = .error (.overlong count) ↔
    Condition.Overlong token.rest count := by
  rw [← Condition.compile_eq_overlong_iff, Token.condition]
  split
  · next empty =>
    simp [List.isEmpty_iff.mp empty, Condition.compile, expressionWords, Text.words]
  · exact .rfl

theorem effect_eq_overlong_iff : token.effect = .error (.overlong count) ↔
    Effect.Overlong token.line count :=
  Effect.compile_eq_overlong_iff

@[simp] theorem argument_ne_overlong : token.argument ≠ .error (.overlong count) := by
  unfold argument
  split <;> simp

@[simp] theorem freeText_ne_overlong : token.freeText ≠ .error (.overlong count) := by
  unfold freeText
  split <;> simp

@[simp] theorem target_ne_overlong : token.target ≠ .error (.overlong count) := by
  unfold Token.target
  split <;> simp

structure OverlongInHeader (count : Nat) (token : Token) : Prop where
  keyword : token.keyword = "REQUIRE"
  long : Condition.Overlong token.rest count

structure OverlongInSection (count : Nat) (token : Token) : Prop where
  silent : token.Silent
  other : token.keyword ∉ ["VOICE", "PORTRAIT", "CHOICE", "IF", "GOTO"]
  long : Effect.Overlong token.line count

inductive OverlongInChoice (count : Nat) (token : Token) : Prop
  | require (keyword : token.keyword = "REQUIRE") (long : Condition.Overlong token.rest count)
  | effect (other : token.keyword ∉ ["REQUIRE", "GOTO"]) (silent : token.Silent)
      (long : Effect.Overlong token.line count)

structure OverlongInBranch (count : Nat) (token : Token) : Prop where
  other : token.keyword ≠ "GOTO"
  long : Effect.Overlong token.line count

end Token

open Token (guarded_eq_overlong_iff condition_eq_overlong_iff effect_eq_overlong_iff)

theorem Header.read_eq_overlong_iff (header : Header) :
    header.read token = .error (.overlong count) ↔ token.OverlongInHeader count := by
  unfold Header.read
  split
  · next trigger =>
    have keyword : token.keyword ≠ "REQUIRE" := by simp_all
    rw [guarded_eq_overlong_iff, make_eq_error_iff]
    simp only [Token.argument_ne_overlong, and_false, false_iff]
    exact fun stops => keyword stops.keyword
  · split
    · next require =>
      rw [make_eq_error_iff, condition_eq_overlong_iff]
      exact ⟨fun long => ⟨eq_of_beq require, long⟩, fun stops => stops.long⟩
    · next notRequire =>
      simp only [Token.fault_ne_overlong, false_iff]
      exact fun stops => notRequire (beq_iff_eq.mpr stops.keyword)

theorem ChoiceDraft.read_eq_overlong_iff (draft : ChoiceDraft) :
    draft.read token = .error (.overlong count) ↔ token.OverlongInChoice count := by
  unfold ChoiceDraft.read
  split
  · next require =>
    rw [make_eq_error_iff, condition_eq_overlong_iff]
    refine ⟨.require (eq_of_beq require), ?_⟩
    rintro (⟨_, long⟩ | ⟨other, _⟩)
    · exact long
    · simp [eq_of_beq require] at other
  · next notRequire =>
    split
    · next goto =>
      simp only [guarded_eq_overlong_iff, error_of_bind_iff, Token.target_ne_overlong, false_or]
      constructor
      · rintro ⟨_, target, _, fails⟩
        cases target <;> cases fails
      · rintro (⟨require, _⟩ | ⟨other, _⟩)
        · exact absurd (beq_iff_eq.mpr require) notRequire
        · simp [eq_of_beq goto] at other
    · next notGoto =>
      have other : token.keyword ∉ ["REQUIRE", "GOTO"] := by simp_all
      split
      · next speaks =>
        refine ⟨nofun, ?_⟩
        rintro (⟨require, _⟩ | ⟨_, silent, _⟩)
        · simp [require] at other
        · simp [Token.silent_iff.mp silent] at speaks
      · next silent =>
        have silent : token.Silent := Token.silent_iff.mpr (by simpa using silent)
        rw [make_eq_error_iff, effect_eq_overlong_iff]
        refine ⟨.effect other silent, ?_⟩
        rintro (⟨require, _⟩ | ⟨_, _, long⟩)
        · simp [require] at other
        · exact long

theorem IfDraft.read_eq_overlong_iff (draft : IfDraft) :
    draft.read token = .error (.overlong count) ↔ token.OverlongInBranch count := by
  unfold IfDraft.read
  split
  · next goto =>
    simp only [guarded_eq_overlong_iff, error_of_bind_iff, Token.target_ne_overlong, false_or]
    constructor
    · rintro ⟨_, target, _, fails⟩
      cases target with
      | location id => exact absurd fails Token.fault_ne_overlong
      | node id => cases fails
    · intro stops
      exact absurd (eq_of_beq goto) stops.other
  · next notGoto =>
    rw [make_eq_error_iff, effect_eq_overlong_iff]
    exact ⟨fun long => ⟨by simpa using notGoto, long⟩, fun stops => stops.long⟩

theorem readChoice_eq_overlong_iff {node : String} {opener : Token} {body : List Token}
    {closed : Bool} : readChoice node opener body closed = .error (.overlong count) ↔
      opener.rest ≠ [] ∧ StopsAt Token.InChoice (Once Clause.target?)
        (Token.OverlongInChoice count) body := by
  have lines : body.foldlM ChoiceDraft.read ⟨[], [], none⟩ = .error (.overlong count) ↔
      StopsAt Token.InChoice (Once Clause.target?) (Token.OverlongInChoice count) body :=
    foldlM_eq_error_iff_stopsAt (fun _ _ _ => choiceLines_eq_ok)
      fun _ _ draft => draft.read_eq_overlong_iff
  unfold readChoice
  simp only [guarded_eq_overlong_iff, error_of_bind_iff, lines, List.isEmpty_eq_false_iff]
  refine and_congr_right fun _ => or_iff_left ?_
  rintro ⟨draft, _, _, fails⟩
  cases fails

theorem readIf_eq_overlong_iff {opener : Token} {body : List Token} {closed : Bool} :
    readIf opener body closed = .error (.overlong count) ↔
      Condition.Overlong opener.rest count ∨
        (∃ condition, Condition.compile (some (.int opener.number)) opener.rest = .ok condition) ∧
          StopsAt Token.InBranch (Once Clause.target?) (Token.OverlongInBranch count) body := by
  have lines : body.foldlM IfDraft.read ⟨[], none⟩ = .error (.overlong count) ↔
      StopsAt Token.InBranch (Once Clause.target?) (Token.OverlongInBranch count) body :=
    foldlM_eq_error_iff_stopsAt (fun _ _ _ => branchLines_eq_ok)
      fun _ _ draft => draft.read_eq_overlong_iff
  unfold readIf
  simp only [guarded_eq_overlong_iff, error_of_bind_iff, condition_eq_overlong_iff, lines,
    Token.condition_eq_ok]
  refine or_congr_right ⟨?_, ?_⟩
  · rintro ⟨condition, compiles, stops | ⟨draft, _, _, fails⟩⟩
    · exact ⟨⟨condition, compiles⟩, stops⟩
    · cases fails
  · rintro ⟨⟨condition, compiles⟩, stops⟩
    exact ⟨condition, compiles, .inl stops⟩

theorem NodeDraft.readLine_eq_overlong_iff (plain : token.opensBlock = false) (draft : NodeDraft)
    (id : String) :
    draft.readLine id token = .error (.overlong count) ↔ token.OverlongInSection count := by
  unfold NodeDraft.readLine
  split
  · next name text speaks =>
    simp only [NodeDraft.readSpeaker, guarded_eq_overlong_iff]
    constructor
    · rintro ⟨_, fails⟩
      cases fails
    · intro stops
      rw [Token.silent_iff.mp stops.silent] at speaks
      cases speaks
  · next silent =>
    have silent := Token.silent_iff.mpr silent
    have avoids {keyword : String} (same : token.keyword == keyword)
        (listed : keyword ∈ ["VOICE", "PORTRAIT", "CHOICE", "IF", "GOTO"]) :
        ¬ token.OverlongInSection count := fun stops => stops.other (eq_of_beq same ▸ listed)
    split
    · next voice =>
      rw [make_eq_error_iff]
      exact iff_of_false Token.freeText_ne_overlong (avoids voice (by simp))
    · next notVoice =>
      split
      · next portrait =>
        rw [make_eq_error_iff]
        exact iff_of_false Token.freeText_ne_overlong (avoids portrait (by simp))
      · next notPortrait =>
        split
        · next goto =>
          simp only [NodeDraft.readGoto, guarded_eq_overlong_iff, make_eq_error_iff,
            Token.target_ne_overlong, and_false, false_iff]
          exact avoids goto (by simp)
        · next notGoto =>
          have noBlock : ¬ (token.keyword = "CHOICE" ∨ token.keyword = "IF") := fun keyword =>
            Bool.eq_false_iff.mp plain (opensBlock_iff.mpr ⟨silent, keyword⟩)
          have other : token.keyword ∉ ["VOICE", "PORTRAIT", "CHOICE", "IF", "GOTO"] := by
            simp_all
          rw [make_eq_error_iff, effect_eq_overlong_iff]
          exact ⟨fun long => ⟨silent, other, long⟩, fun stops => stops.long⟩

/-- Whether an item of a section has a line with an integer of too many digits, and can be read up
to that line. The opener of an `IF` block has a condition itself. -/
inductive Item.Overlong (count : Nat) : Item → Prop
  | line {token : Token} (long : token.OverlongInSection count) : Overlong count (.line token)
  | choice {opener : Token} {body : List Token} {closed : Bool}
      (keyword : opener.keyword = "CHOICE") (given : opener.rest ≠ [])
      (lines : StopsAt Token.InChoice (Once Clause.target?) (Token.OverlongInChoice count) body) :
      Overlong count (.block opener body closed)
  | opener {opener : Token} {body : List Token} {closed : Bool} (keyword : opener.keyword = "IF")
      (long : Condition.Overlong opener.rest count) : Overlong count (.block opener body closed)
  | branch {opener : Token} {body : List Token} {closed : Bool} {condition : Condition}
      (keyword : opener.keyword = "IF")
      (compiles : Condition.compile (some (.int opener.number)) opener.rest = .ok condition)
      (lines : StopsAt Token.InBranch (Once Clause.target?) (Token.OverlongInBranch count) body) :
      Overlong count (.block opener body closed)

theorem NodeDraft.read_eq_overlong_iff {item : Item} (formed : item.Formed) (id : String)
    (draft : NodeDraft) : draft.read id item = .error (.overlong count) ↔ item.Overlong count := by
  cases item with
  | line token =>
    rw [NodeDraft.read, NodeDraft.readLine_eq_overlong_iff formed]
    constructor
    · exact .line
    · rintro ⟨long⟩
      exact long
  | block opener body closed =>
    obtain ⟨_, keyword⟩ := opensBlock_iff.mp formed
    rcases keyword with isChoice | isBranch
    · simp only [NodeDraft.read, isChoice, beq_self_eq_true, if_true, error_of_bind_iff,
        readChoice_eq_overlong_iff, NodeDraft.addChoice, guarded_eq_overlong_iff]
      constructor
      · rintro (⟨given, lines⟩ | ⟨choice, _, _, fails⟩)
        · exact .choice isChoice given lines
        · cases fails
      · intro long
        cases long with
        | choice _ given lines => exact .inl ⟨given, lines⟩
        | opener keyword _ => exact absurd (isChoice.symm.trans keyword) (by decide)
        | branch keyword _ _ => exact absurd (isChoice.symm.trans keyword) (by decide)
    · have other : (opener.keyword == "CHOICE") = false := by simp [isBranch]
      simp only [NodeDraft.read, other, Bool.false_eq_true, if_false, error_of_bind_iff,
        readIf_eq_overlong_iff]
      constructor
      · rintro ((long | ⟨⟨condition, compiles⟩, lines⟩) | ⟨_, _, fails⟩)
        · exact .opener isBranch long
        · exact .branch isBranch compiles lines
        · cases fails
      · intro long
        cases long with
        | choice keyword _ _ => exact absurd (isBranch.symm.trans keyword) (by decide)
        | opener _ long => exact .inl (.inl long)
        | branch _ compiles lines => exact .inl (.inr ⟨⟨_, compiles⟩, lines⟩)

def Section.Overlong (count : Nat) (part : Section) : Prop :=
  ∃ id, part.opener.Phrase "NODE" [id] ∧
    StopsAt (Item.Meaning id) Together (Item.Overlong count) (items part.tokens)

theorem readNode_eq_overlong_iff {part : Section} (opens : part.opener.keyword = "NODE") :
    readNode part = .error (.overlong count) ↔ part.Overlong count := by
  have lines (id : String) : (items part.tokens).foldlM (NodeDraft.read id) (.empty id) =
      .error (.overlong count) ↔
        StopsAt (Item.Meaning id) Together (Item.Overlong count) (items part.tokens) :=
    foldlM_eq_error_iff_stopsAt
      (fun before inside _ =>
        formed_eq_ok fun item listed => items_formed part.tokens item (inside listed))
      fun item listed draft =>
        NodeDraft.read_eq_overlong_iff (items_formed part.tokens item listed) id draft
  unfold readNode
  simp only [error_of_bind_iff, Token.argument_ne_overlong, Token.argument_eq_ok, lines, false_or]
  refine exists_congr fun id => ?_
  constructor
  · rintro ⟨argument, stops | ⟨_, _, fails⟩⟩
    · exact ⟨⟨opens, argument⟩, stops⟩
    · cases fails
  · rintro ⟨opener, stops⟩
    exact ⟨opener.arguments, .inl stops⟩

theorem addNode_eq_overlong_iff {part : Section} (opens : part.opener.keyword = "NODE")
    (nodes : List Node) :
    addNode nodes part = .error (.overlong count) ↔ part.Overlong count := by
  unfold addNode
  simp only [guarded_eq_overlong_iff, error_of_bind_iff, readNode_eq_overlong_iff opens]
  refine or_iff_left ?_
  rintro ⟨node, _, _, fails⟩
  cases fails

inductive Overlong (count : Nat) (tokens : List Token) : Prop
  | header {header : List Token} {parts : List Section} (layout : Layout tokens header parts)
      (lines : StopsAt Token.InHeader (Once Clause.trigger?) (Token.OverlongInHeader count) header)
  | nodes {header : List Token} {parts : List Section} {clauses : List Clause}
      (layout : Layout tokens header parts)
      (lines : List.Forall₂ Token.InHeader header clauses)
      (triggered : Once Clause.trigger? clauses)
      (sections : StopsAt IsNode (List.Pairwise fun one other => one.id ≠ other.id)
        (Section.Overlong count) parts)

theorem readTokens_eq_overlong_iff (id : Value) (tokens : List Token) :
    readTokens id tokens = .error (.overlong count) ↔ Overlong count tokens := by
  have inHeader (header : List Token) :
      header.foldlM Header.read ⟨none, []⟩ = .error (.overlong count) ↔
        StopsAt Token.InHeader (Once Clause.trigger?) (Token.OverlongInHeader count) header :=
    foldlM_eq_error_iff_stopsAt (fun _ _ _ => header_eq_ok)
      fun _ _ header => header.read_eq_overlong_iff
  have inSections {parts : List Section} (openers : ∀ part ∈ parts, part.opener.keyword = "NODE") :
      parts.foldlM addNode [] = .error (.overlong count) ↔
        StopsAt IsNode (List.Pairwise fun one other => one.id ≠ other.id) (Section.Overlong count)
          parts := by
    have run (before : List Section) (inside : before ⊆ parts) (nodes : List Node) :
        before.foldlM addNode [] = .ok nodes ↔ ∃ listed, List.Forall₂ IsNode before listed ∧
          (listed.Pairwise fun one other => one.id ≠ other.id) ∧ listed = nodes := by
      simp [nodes_eq_ok fun part listed => openers part (inside listed)]
    exact foldlM_eq_error_iff_stopsAt run
      fun part listed nodes => addNode_eq_overlong_iff (openers part listed) nodes
  constructor
  · intro fails
    have layout := sections_layout tokens
    obtain fails | ⟨header, readsHeader, fails⟩ := error_of_bind_iff.mp fails
    · exact .header layout ((inHeader _).mp fails)
    · obtain fails | ⟨nodes, _, fails⟩ := error_of_bind_iff.mp fails
      · obtain ⟨clauses, lines, triggered, _⟩ := header_eq_ok.mp readsHeader
        exact .nodes layout lines triggered ((inSections layout.openers).mp fails)
      · cases nodes <;> cases fails
  · intro long
    cases long with
    | header layout lines =>
      simp only [readTokens, sections_of_layout layout, (inHeader _).mpr lines]
      rfl
    | nodes layout lines triggered sections =>
      have readsHeader := header_eq_ok.mpr ⟨_, lines, triggered, rfl⟩
      have fails := (inSections layout.openers).mpr sections
      simp only [readTokens, sections_of_layout layout, readsHeader, fails]
      rfl

/-! ## Sources -/

/-- A source that does not compile is refused at a line that says something, or without a line if it
is a header alone, or because of an integer with too many digits. -/
theorem compile_refused (id source : String) :
    (∀ failure, compile id source = .error failure →
      (∃ fault, ∃ number : Nat, failure = .script fault (some (.int number)) ∧
        SaysSomething source.toList number) ∨
      (∃ fault, failure = .script fault none) ∨ ∃ count, failure = .overlong count) ∧
    ((∃ fault, compile id source = .error (.script fault none)) ↔
      OnlyHeader (tokenize source.toList)) ∧
    ∀ count, compile id source = .error (.overlong count) ↔
      Overlong count (tokenize source.toList) := by
  refine ⟨fun failure fails => ?_, readTokens_eq_lineless_iff _ _,
    fun count => readTokens_eq_overlong_iff _ _⟩
  obtain ⟨token, listed, ⟨fault, rfl⟩ | ⟨count, rfl⟩⟩ | lineless :=
    readTokens_reported _ _ failure fails
  · exact .inl ⟨fault, token.number, rfl, saysSomething_of_token listed⟩
  · exact .inr (.inr ⟨count, rfl⟩)
  · exact .inr (.inl lineless)

/-! ## A requirement with many digits -/

theorem lines_unbroken {text : List Char} (given : text ≠ [])
    (unbroken : ∀ c ∈ text, Text.isLineBreak c = false) : Text.lines text = [text] := by
  induction text with
  | nil => exact absurd rfl given
  | cons c rest ih =>
    have first : Text.isLineBreak c = false := unbroken c List.mem_cons_self
    have other : c ≠ '\r' := by
      rintro rfl
      exact absurd first (by decide)
    have step : Text.lines (c :: rest) = Text.pushLine c (Text.lines rest) := by
      rw [Text.lines]
      · simp [first]
      · exact fun _ same => absurd same other
    cases rest with
    | nil => exact step
    | cons next others =>
      have below := ih (List.cons_ne_nil _ _)
        fun c listed => unbroken c (List.mem_cons_of_mem _ listed)
      rw [step, below, Text.pushLine]

theorem stripComment_front {front : List Char} (plain : ∀ c ∈ front, c ≠ '#' ∧ c ≠ '"')
    (rest : List Char) : stripComment (front ++ rest) = front ++ stripComment rest := by
  induction front with
  | nil => rfl
  | cons c front ih =>
    obtain ⟨noHash, noMark⟩ := plain c List.mem_cons_self
    have below := ih fun c listed => plain c (List.mem_cons_of_mem _ listed)
    have noQuote : (c == '"') = false := beq_eq_false_iff_ne.mpr noMark
    unfold stripComment at below ⊢
    simp [stripCommentFrom, noHash, noQuote, below]

theorem stripComment_plain {text : List Char} (plain : ∀ c ∈ text, c ≠ '#' ∧ c ≠ '"') :
    stripComment text = text := by
  have whole := stripComment_front plain []
  have nothing : stripComment [] = [] := rfl
  rwa [nothing, List.append_nil] at whole

theorem dropWhile_eq_self {p : Char → Bool} {text : List Char}
    (starts : ∀ c ∈ text.head?, p c = false) : text.dropWhile p = text := by
  cases text with
  | nil => rfl
  | cons c rest => simp [starts c rfl]

theorem trim_eq_self {text : List Char} (starts : ∀ c ∈ text.head?, Text.isBlank c = false)
    (ends : ∀ c ∈ text.getLast?, Text.isBlank c = false) : Text.trim text = text := by
  have back : ∀ c ∈ text.reverse.head?, Text.isBlank c = false := by simpa using ends
  rw [Text.trim, Text.trimLeft, dropWhile_eq_self starts, Text.trimRight, dropWhile_eq_self back,
    List.reverse_reverse]

theorem foldr_solid {word : List Char} (solid : ∀ c ∈ word, Text.isBlank c = false)
    (rest : List Char) : (word ++ rest).foldr Text.pushChar ([], []) =
      (word ++ (rest.foldr Text.pushChar ([], [])).1, (rest.foldr Text.pushChar ([], [])).2) := by
  induction word with
  | nil => rfl
  | cons c word ih =>
    have first := solid c List.mem_cons_self
    have below := ih fun c listed => solid c (List.mem_cons_of_mem _ listed)
    rw [List.cons_append, List.foldr_cons, below, Text.pushChar]
    simp [first]

theorem words_solid {word : List Char} (given : word ≠ [])
    (solid : ∀ c ∈ word, Text.isBlank c = false) : Text.words word = [word] := by
  have run := foldr_solid solid []
  rw [List.append_nil] at run
  simp [Text.words, run, given]

theorem words_append {word : List Char} (given : word ≠ [])
    (solid : ∀ c ∈ word, Text.isBlank c = false) (rest : List Char) :
    Text.words (word ++ ' ' :: rest) = word :: Text.words rest := by
  have blank : Text.isBlank ' ' = true := by decide
  simp [Text.words, foldr_solid solid, Text.pushChar, blank, given]

theorem forall_mem_digits {front : List Char} {P : Char → Prop} (letters : ∀ c ∈ front, P c)
    (digit : P '1') : ∀ c ∈ front ++ List.replicate count '1', P c := by
  intro c listed
  rcases List.mem_append.mp listed with listed | listed
  · exact letters c listed
  · rw [List.eq_of_mem_replicate listed]
    exact digit

theorem trim_digits (many : 0 < count) {front : List Char} (given : front ≠ [])
    (starts : ∀ c ∈ front.head?, Text.isBlank c = false) :
    Text.trim (front ++ List.replicate count '1') = front ++ List.replicate count '1' := by
  obtain ⟨n, rfl⟩ := Nat.exists_eq_succ_of_ne_zero many.ne'
  refine trim_eq_self ?_ ?_
  · rwa [List.head?_append_of_ne_nil _ given]
  · have last : (front ++ List.replicate (n + 1) '1').getLast? = some '1' := by
      rw [List.replicate_succ', ← List.append_assoc, List.getLast?_concat]
    have solid : Text.isBlank '1' = false := by decide
    simpa [last] using solid

theorem tokenize_digits (many : 0 < count) {front : List Char} (given : front ≠ [])
    (starts : ∀ c ∈ front.head?, Text.isBlank c = false)
    (unbroken : ∀ c ∈ front, Text.isLineBreak c = false)
    (plain : ∀ c ∈ front, c ≠ '#' ∧ c ≠ '"') :
    tokenize (front ++ List.replicate count '1') =
      [⟨front ++ List.replicate count '1', 1, 0⟩] := by
  have whole : Text.lines (front ++ List.replicate count '1') =
      [front ++ List.replicate count '1'] :=
    lines_unbroken (List.append_ne_nil_of_left_ne_nil given _)
      (forall_mem_digits unbroken (by decide))
  have stripped : stripComment (front ++ List.replicate count '1') =
      front ++ List.replicate count '1' := stripComment_plain (forall_mem_digits plain (by decide))
  have trimmed := trim_digits many given starts
  have left : Text.trimLeft (front ++ List.replicate count '1') =
      front ++ List.replicate count '1' :=
    dropWhile_eq_self (by rwa [List.head?_append_of_ne_nil _ given])
  simp [tokenize, whole, Token.ofLine?, stripped, trimmed, given, left]

theorem firstWord_append {word : List Char} (solid : ∀ c ∈ word, Text.isBlank c = false)
    (rest : List Char) : Text.firstWord (word ++ ' ' :: rest) = word := by
  have blank : Text.isBlank ' ' = true := by decide
  have runs : ∀ c ∈ word, (!Text.isBlank c) = true := by simpa using solid
  simp [Text.firstWord, List.takeWhile_append_of_pos runs, blank]

theorem afterFirstWord_append {word : List Char} (solid : ∀ c ∈ word, Text.isBlank c = false)
    (rest : List Char) : Text.afterFirstWord (word ++ ' ' :: rest) = Text.trim rest := by
  have blank : Text.isBlank ' ' = true := by decide
  have runs : ∀ c ∈ word, (!Text.isBlank c) = true := by simpa using solid
  simp [Text.afterFirstWord, List.dropWhile_append_of_pos runs, Text.trim, Text.trimLeft, blank]

def goldRequirement : List Char :=
  "REQUIRE variableGreaterThan gold ".toList

def digitsSource (count : Nat) : String :=
  String.ofList (goldRequirement ++ List.replicate count '1')

theorem overlong_digits (many : Number.digitLimit < count) :
    Numeral.Overlong (List.replicate count '1') count := by
  have whole : Text.dropFinalLineFeed (List.replicate count '1') = List.replicate count '1' := by
    unfold Text.dropFinalLineFeed
    rw [List.reverse_replicate]
    cases count <;> rfl
  refine ⟨[], List.replicate count '1', whole, by simp, fun c listed => ?_, by simp, many⟩
  rw [List.eq_of_mem_replicate listed]
  decide +kernel

theorem forall_mem_of_all {p : Char → Bool} {text : List Char}
    (none : text.all fun c => !p c) : ∀ c ∈ text, p c = false := by
  simpa using none

theorem starts_of_head {text : List Char} {first : Char} (starts : text.head? = some first)
    (solid : Text.isBlank first = false) : ∀ c ∈ text.head?, Text.isBlank c = false := by
  simpa [starts] using solid

theorem solid_require : ∀ c ∈ "REQUIRE".toList, Text.isBlank c = false :=
  forall_mem_of_all (by decide +kernel)

theorem solid_variableGreaterThan :
    ∀ c ∈ "variableGreaterThan".toList, Text.isBlank c = false :=
  forall_mem_of_all (by decide +kernel)

theorem solid_gold : ∀ c ∈ "gold".toList, Text.isBlank c = false :=
  forall_mem_of_all (by decide +kernel)

theorem goldRequirement_words : goldRequirement = "REQUIRE".toList ++ ' ' ::
    ("variableGreaterThan".toList ++ ' ' :: ("gold".toList ++ [' '])) := by
  decide +kernel

theorem tokenize_digitsSource (many : 0 < count) :
    tokenize (digitsSource count).toList = [⟨(digitsSource count).toList, 1, 0⟩] := by
  have first : goldRequirement.head? = some 'R' := by decide +kernel
  have given : goldRequirement ≠ [] := by
    rintro empty
    simp [empty] at first
  have unbroken : ∀ c ∈ goldRequirement, Text.isLineBreak c = false :=
    forall_mem_of_all (by decide +kernel)
  have noHash : ∀ c ∈ goldRequirement, (c == '#') = false := forall_mem_of_all (by decide +kernel)
  have noMark : ∀ c ∈ goldRequirement, (c == '"') = false := forall_mem_of_all (by decide +kernel)
  have plain : ∀ c ∈ goldRequirement, c ≠ '#' ∧ c ≠ '"' := fun c listed =>
    ⟨beq_eq_false_iff_ne.mp (noHash c listed), beq_eq_false_iff_ne.mp (noMark c listed)⟩
  rw [digitsSource, String.toList_ofList]
  exact tokenize_digits many given (starts_of_head first (by decide)) unbroken plain

theorem digitsSource_words : (digitsSource count).toList =
    "REQUIRE".toList ++ ' ' :: ("variableGreaterThan".toList ++ ' ' ::
      ("gold".toList ++ ' ' :: List.replicate count '1')) := by
  rw [digitsSource, String.toList_ofList, goldRequirement_words]
  simp only [List.append_assoc, List.cons_append, List.nil_append]

theorem afterFirstWord_digitsSource (many : 0 < count) :
    Text.afterFirstWord (digitsSource count).toList = "variableGreaterThan".toList ++ ' ' ::
      ("gold".toList ++ ' ' :: List.replicate count '1') := by
  have regroup : "variableGreaterThan".toList ++ ' ' ::
      ("gold".toList ++ ' ' :: List.replicate count '1') =
        ("variableGreaterThan".toList ++ ' ' :: ("gold".toList ++ [' '])) ++
          List.replicate count '1' := by
    simp only [List.append_assoc, List.cons_append, List.nil_append]
  have first : ("variableGreaterThan".toList ++ ' ' :: ("gold".toList ++ [' '])).head? =
      some 'v' := by decide +kernel
  rw [digitsSource_words, afterFirstWord_append solid_require, regroup]
  exact trim_digits many (by simp) (starts_of_head first (by decide))

theorem overlongInHeader_digitsSource (many : Number.digitLimit < count) :
    Token.OverlongInHeader count ⟨(digitsSource count).toList, 1, 0⟩ := by
  have given : 0 < count := Nat.zero_lt_of_lt many
  have digits : ∀ c ∈ List.replicate count '1', Text.isBlank c = false := by
    intro c listed
    rw [List.eq_of_mem_replicate listed]
    decide
  have keyword : Text.firstWord (digitsSource count).toList = "REQUIRE".toList := by
    rw [digitsSource_words]
    exact firstWord_append solid_require _
  have words : expressionWords (Text.afterFirstWord (digitsSource count).toList) =
      ["variableGreaterThan", "gold", String.ofList (List.replicate count '1')] := by
    rw [afterFirstWord_digitsSource given, expressionWords,
      words_append (by simp) solid_variableGreaterThan, words_append (by simp) solid_gold,
      words_solid (by simpa using given.ne') digits]
    simp only [List.map_cons, List.map_nil, String.ofList_toList]
  have long : Arguments.Overlong count ConditionKind.variableGreaterThan.parameters
      ["gold", String.ofList (List.replicate count '1')] :=
    .later ⟨"gold", rfl⟩ (.here trivial (by simpa using overlong_digits many))
  exact ⟨by simp [Token.keyword, keyword], .intro words rfl rfl long⟩

theorem compile_digitsSource (many : Number.digitLimit < count) (id : Value) :
    compile id (digitsSource count) = .error (.overlong count) := by
  have stops := overlongInHeader_digitsSource many
  have layout : Layout [⟨(digitsSource count).toList, 1, 0⟩] [⟨(digitsSource count).toList, 1, 0⟩]
      [] := ⟨by simp, by simp [stops.keyword], by simp, by simp⟩
  rw [compile, tokenize_digitsSource (Nat.zero_lt_of_lt many), readTokens_eq_overlong_iff]
  exact .header layout ⟨[], _, [], [], rfl, .nil, by simp [Once], stops⟩

/-- The compiler says neither what this source means nor what is wrong with it. -/
theorem refused_digits : compile "purse" (digitsSource 4301) = .error (.overlong 4301) ∧
    ¬ ((∃ dialogue, compile "purse" (digitsSource 4301) = .ok dialogue) ∨
      ∃ fault line, compile "purse" (digitsSource 4301) = .error (.script fault line)) := by
  have fails : compile "purse" (digitsSource 4301) = .error (.overlong 4301) :=
    compile_digitsSource (by decide) _
  refine ⟨fails, ?_⟩
  rw [fails]
  rintro (⟨_, reads⟩ | ⟨_, _, faulty⟩)
  · cases reads
  · cases faulty

end Fabula.Script
