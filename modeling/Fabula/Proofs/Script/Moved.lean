import Fabula.Proofs.Script.Layout
/-!
# Where the lines of a script stand

The number of a line is only there to be reported, and its indentation only to be compared with that
of other lines. If the tokens of a script are moved, so that those which are indented alike still
are, then the same ones are read, and they mean the same. Only the faults may name other lines.
Main statements:

* `sections_move`, `items_move`: moved tokens fall into moved sections and blocks;
* `readTokens_move`: what moved tokens mean.
-/

namespace Fabula.Script
variable {α β σ : Type} {move : Token → Token}

/-- Whether tokens keep their lines where they are moved to, and those keep one indentation that
have it. -/
structure Token.Moves (move : Token → Token) : Prop where
  line : ∀ token, (move token).line = token.line
  indent : ∀ token other, (move token).indent = (move other).indent ↔ token.indent = other.indent

@[simp] theorem toOption_ok (a : α) : (Except.ok a : Except Failure α).toOption = some a := rfl

@[simp] theorem toOption_pure (a : α) : (pure a : Except Failure α).toOption = some a := rfl

@[simp] theorem toOption_error (failure : Failure) :
    (Except.error failure : Except Failure α).toOption = none := rfl

@[simp] theorem toOption_throw (failure : Failure) :
    (throw failure : Except Failure α).toOption = none := rfl

@[simp] theorem toOption_fault (token : Token) (fault : ScriptFault) :
    (token.fault fault : Except Failure α).toOption = none := rfl

@[simp] theorem toOption_bind (first : Except Failure α) (next : α → Except Failure β) :
    (first >>= next).toOption = first.toOption.bind fun a => (next a).toOption := by
  cases first <;> rfl

@[simp] theorem toOption_ite {p : Prop} [Decidable p] (first second : Except Failure α) :
    (if p then first else second).toOption = if p then first.toOption else second.toOption :=
  apply_ite _ _ _ _

theorem toOption_foldlM_map {ι κ : Type} {read : σ → ι → Except Failure σ}
    {reread : σ → κ → Except Failure σ} {f : κ → ι}
    (step : ∀ draft item, (read draft (f item)).toOption = (reread draft item).toOption)
    (items : List κ) (draft : σ) :
    ((items.map f).foldlM read draft).toOption = (items.foldlM reread draft).toOption := by
  induction items generalizing draft with
  | nil => rfl
  | cons item rest ih => simp only [List.map_cons, List.foldlM_cons, toOption_bind, step, ih]

section Expressions
variable (line other : Option Value)

theorem numberOfWord_toOption (parameter : Parameter) (word : String) :
    (parameter.numberOfWord line word).toOption = (parameter.numberOfWord other word).toOption := by
  unfold Parameter.numberOfWord
  simp only [toOption_bind]
  refine congrArg _ (funext fun found => ?_)
  cases found <;> rfl

theorem ofWord_toOption (parameter : Parameter) (word : String) :
    (parameter.ofWord line word).toOption = (parameter.ofWord other word).toOption := by
  obtain ⟨name, type⟩ := parameter
  cases type with
  | text | scalar => rfl
  | truth => simp only [Parameter.ofWord, toOption_ite, toOption_error]
  | number => exact numberOfWord_toOption line other _ word
  | whole =>
    simp only [Parameter.ofWord, toOption_bind, numberOfWord_toOption line other]
    refine congrArg _ (funext fun number => ?_)
    cases number.collapse <;> rfl

theorem ofWordsFrom_toOption (fault : ScriptFault) (parameters : List Parameter)
    (words : List String) : (Arguments.ofWordsFrom line fault parameters words).toOption =
      (Arguments.ofWordsFrom other fault parameters words).toOption := by
  induction parameters generalizing words with
  | nil => rfl
  | cons parameter parameters ih =>
    cases words with
    | nil => rfl
    | cons word words =>
      simp only [Arguments.ofWordsFrom, toOption_bind, ofWord_toOption line other, ih]

theorem ofWords_toOption (label : String) (parameters : List Parameter) (words : List String) :
    (Arguments.ofWords line label parameters words).toOption =
      (Arguments.ofWords other label parameters words).toOption := by
  simp only [Arguments.ofWords, toOption_ite, ofWordsFrom_toOption line other, toOption_error]

theorem condition_toOption (text : List Char) :
    (Condition.compile line text).toOption = (Condition.compile other text).toOption := by
  unfold Condition.compile
  cases expressionWords text with
  | nil => rfl
  | cons keyword words =>
    dsimp only
    cases ConditionKind.ofKeyword? keyword with
    | none => rfl
    | some kind => simp only [toOption_bind, ofWords_toOption line other]

theorem compileTail_toOption (kind : EffectKind) (keyword : String) (rest : List Char) :
    (Effect.compileTail line kind keyword rest).toOption =
      (Effect.compileTail other kind keyword rest).toOption := by
  simp only [Effect.compileTail, toOption_ite, toOption_bind, ofWords_toOption line other,
    toOption_error]

theorem compilePair_toOption (keyword : String) (words : List String) :
    (Effect.compilePair line keyword words).toOption =
      (Effect.compilePair other keyword words).toOption := by
  unfold Effect.compilePair
  dsimp only
  cases EffectKind.ofPhrase? (.pair keyword (words.headD "")) with
  | none => rfl
  | some kind => simp only [toOption_bind, ofWords_toOption line other]

theorem effect_toOption (text : List Char) :
    (Effect.compile line text).toOption = (Effect.compile other text).toOption := by
  unfold Effect.compile
  cases expressionWords text with
  | nil => rfl
  | cons keyword words =>
    dsimp only
    cases EffectKind.ofPhrase? (.tail keyword) with
    | some kind => exact compileTail_toOption line other _ _ _
    | none =>
      cases EffectKind.ofPhrase? (.word keyword) with
      | some kind => simp only [toOption_bind, ofWords_toOption line other]
      | none =>
        simp only [toOption_ite, compilePair_toOption line other, toOption_error]

end Expressions

namespace Token.Moves
variable (moves : Token.Moves move) (token : Token)
include moves

theorem keyword : (move token).keyword = token.keyword := by
  simp only [Token.keyword, moves.line]

theorem rest : (move token).rest = token.rest := by
  simp only [Token.rest, moves.line]

theorem words : (move token).words = token.words := by
  simp only [Token.words, moves.line]

theorem speaker? : (move token).speaker? = token.speaker? := by
  simp only [Token.speaker?, moves.line]

theorem argument : (move token).argument.toOption = token.argument.toOption := by
  unfold Token.argument
  rw [moves.words, moves.keyword]
  split <;> rfl

theorem freeText : (move token).freeText.toOption = token.freeText.toOption := by
  simp only [Token.freeText, moves.rest, toOption_ite, toOption_fault]

theorem condition : (move token).condition.toOption = token.condition.toOption := by
  simp only [Token.condition, moves.rest, toOption_ite, toOption_fault,
    condition_toOption (some (.int (move token).number)) (some (.int token.number))]

theorem effect : (move token).effect.toOption = token.effect.toOption := by
  simp only [Token.effect, moves.line]
  exact effect_toOption _ _ _

theorem target : (move token).target.toOption = token.target.toOption := by
  unfold Token.target
  rw [moves.words]
  split <;> rfl

theorem header_read (header : Header) :
    (header.read (move token)).toOption = (header.read token).toOption := by
  simp only [Header.read, moves.keyword, toOption_ite, toOption_bind, toOption_fault,
    moves.argument, moves.condition]

theorem choice_read (draft : ChoiceDraft) :
    (draft.read (move token)).toOption = (draft.read token).toOption := by
  simp only [ChoiceDraft.read, moves.keyword, moves.speaker?, toOption_ite, toOption_bind,
    toOption_fault, moves.target, moves.condition, moves.effect]

theorem branch_read (draft : IfDraft) :
    (draft.read (move token)).toOption = (draft.read token).toOption := by
  simp only [IfDraft.read, moves.keyword, toOption_ite, toOption_bind, toOption_fault,
    moves.target, moves.effect]
  cases token.target.toOption with
  | none => rfl
  | some target => cases target <;> rfl

omit moves in
theorem readSpeaker (draft : NodeDraft) (id : String) (name text : List Char) :
    (draft.readSpeaker id (move token) name text).toOption =
      (draft.readSpeaker id token name text).toOption := by
  simp only [NodeDraft.readSpeaker, toOption_ite, toOption_bind, toOption_fault]

theorem readGoto (draft : NodeDraft) (id : String) :
    (draft.readGoto id (move token)).toOption = (draft.readGoto id token).toOption := by
  simp only [NodeDraft.readGoto, toOption_ite, toOption_bind, toOption_fault, moves.target]

theorem readLine (draft : NodeDraft) (id : String) :
    (draft.readLine id (move token)).toOption = (draft.readLine id token).toOption := by
  unfold NodeDraft.readLine
  rw [moves.speaker?]
  cases token.speaker? with
  | some spoken => exact readSpeaker token draft id spoken.1 spoken.2
  | none =>
    simp only [moves.keyword, toOption_ite, toOption_bind, moves.freeText, moves.effect,
      moves.readGoto]

end Token.Moves

def Section.map (f : Token → Token) (part : Section) : Section :=
  ⟨f part.opener, part.tokens.map f⟩

def Item.map (f : Token → Token) : Item → Item
  | .line token => .line (f token)
  | .block opener body closed => .block (f opener) (body.map f) closed

section
variable (moves : Token.Moves move)
include moves

theorem sections_move (tokens : List Token) : sections (tokens.map move) =
    ((sections tokens).1.map move, (sections tokens).2.map (Section.map move)) := by
  induction tokens with
  | nil => rfl
  | cons token rest ih =>
    simp only [List.map_cons, sections, ih, Token.opensSection, moves.keyword]
    by_cases opens : token.keyword == "NODE" <;> simp [opens, Section.map]

theorem closes_move (opener token : Token) :
    (move opener).closes (move token) = opener.closes token := by
  simp only [Token.closes, moves.line]
  congr 1
  exact decide_eq_decide.mpr (moves.indent token opener)

theorem opensBlock_move (token : Token) : (move token).opensBlock = token.opensBlock := by
  simp only [Token.opensBlock, moves.speaker?, moves.keyword]

theorem items_move (tokens : List Token) :
    items (tokens.map move) = (items tokens).map (Item.map move) := by
  induction tokens using items.induct with
  | case1 => simp [items]
  | case2 token rest opens after ih =>
    have closes : (fun other => !(move token).closes other) ∘ move =
        fun other => !token.closes other :=
      funext fun other => congrArg _ (closes_move moves token other)
    have opensMoved : (move token).opensBlock := by rwa [opensBlock_move moves]
    rw [List.map_cons, items, items, if_pos opens, if_pos opensMoved]
    simp only [List.takeWhile_map, List.dropWhile_map, closes, List.isEmpty_map, List.map_cons,
      ← List.map_tail, Item.map]
    rw [← ih]
  | case3 token rest plain ih =>
    have plainMoved : ¬ (move token).opensBlock := by rwa [opensBlock_move moves]
    rw [List.map_cons, items, items, if_neg plain, if_neg plainMoved, ih]
    rfl

theorem readChoice_move (node : String) (opener : Token) (body : List Token) (closed : Bool) :
    (readChoice node (move opener) (body.map move) closed).toOption =
      (readChoice node opener body closed).toOption := by
  simp only [readChoice, moves.rest, toOption_ite, toOption_bind, toOption_fault,
    toOption_foldlM_map fun draft token => moves.choice_read token draft]

theorem readIf_move (opener : Token) (body : List Token) (closed : Bool) :
    (readIf (move opener) (body.map move) closed).toOption =
      (readIf opener body closed).toOption := by
  simp only [readIf, moves.condition, toOption_ite, toOption_bind, toOption_fault,
    toOption_foldlM_map fun draft token => moves.branch_read token draft]

theorem read_move (id : String) (draft : NodeDraft) (item : Item) :
    (draft.read id (item.map move)).toOption = (draft.read id item).toOption := by
  cases item with
  | line token => exact moves.readLine token draft id
  | block opener body closed =>
    simp only [Item.map, NodeDraft.read, moves.keyword, toOption_ite, toOption_bind,
      readChoice_move moves, readIf_move moves, NodeDraft.addChoice, toOption_fault]

theorem readNode_move (part : Section) :
    (readNode (part.map move)).toOption = (readNode part).toOption := by
  simp only [readNode, Section.map, toOption_bind, moves.argument, items_move moves,
    toOption_foldlM_map fun draft item => read_move moves _ draft item]

theorem addNode_move (nodes : List Node) (part : Section) :
    (addNode nodes (part.map move)).toOption = (addNode nodes part).toOption := by
  simp only [addNode, toOption_ite, toOption_bind, readNode_move moves, toOption_fault]

theorem readTokens_move (id : Value) (tokens : List Token) :
    (readTokens id (tokens.map move)).toOption = (readTokens id tokens).toOption := by
  unfold readTokens
  rw [sections_move moves]
  simp only [toOption_bind, toOption_foldlM_map fun draft token => moves.header_read token draft,
    toOption_foldlM_map fun nodes part => addNode_move moves nodes part]

end

end Fabula.Script
