import Fabula.Proofs.Session.Quiet
/-!
# What effects leave

An effect touches the cues and the cursor of a state in one way only: a cue is added to those that
are pending, and a dialogue is started or ended. All other effects leave both alone and do not look
at the cursor. Main statements:

* `meaning_of_apply`, `meaning_of_applyAll`: the cues and the cursor that effects leave;
* `applyAll_at`: effects that neither start nor end a dialogue do the same at every place.
-/

namespace Fabula
variable {state next : GameState} {roller rolled : Roller}

structure Cues where
  notifications : List Value
  sounds : List Value
  video : Value
  interlude : Value

namespace Cues

def none : Cues :=
  ⟨[], [], .null, .null⟩

end Cues

def GameState.cues (state : GameState) : Cues :=
  ⟨state.notifications, state.sounds, state.video, state.interlude⟩

namespace Effect

def message? : Effect → Option Value
  | .notify message => some (.text message)
  | _ => none

def sound? : Effect → Option Value
  | .playSound sound => some (.text sound)
  | _ => none

def video? : Effect → Option Value
  | .playVideo file => some (.text file)
  | _ => none

def interlude? : Effect → Option Value
  | .showInterlude interlude => some (.text interlude)
  | _ => none

def cue (pending : Cues) : Effect → Cues
  | .notify message => { pending with notifications := pending.notifications ++ [.text message] }
  | .playSound sound => { pending with sounds := pending.sounds ++ [.text sound] }
  | .playVideo file => { pending with video := file }
  | .showInterlude interlude => { pending with interlude }
  | _ => pending

def steer (cursor : Option Cursor) : Effect → Option Cursor
  | .startDialogue dialogue => some (.starting dialogue)
  | .endDialogue => none
  | _ => cursor

def steers : Effect → Bool
  | .startDialogue _ | .endDialogue => true
  | _ => false

end Effect

structure EffectsMeaning (effects : List Effect) (before after : GameState) : Prop where
  cues : after.cues = effects.foldl Effect.cue before.cues
  cursor : after.cursor = effects.foldl Effect.steer before.cursor

theorem updateCharacter_eq {id : String}
    {change : CharacterState → Except Failure CharacterState}
    (updates : state.updateCharacter id change = .ok next) :
    ∃ characters, next = { state with characters } := by
  unfold GameState.updateCharacter at updates
  split at updates
  · cases updates
    exact ⟨state.characters, rfl⟩
  · next character _ =>
    cases changes : change character with
    | ok changed =>
      simp only [changes, bind, Except.bind, pure, Except.pure] at updates
      cases updates
      exact ⟨_, rfl⟩
    | error failure =>
      simp only [changes, bind, Except.bind] at updates
      cases updates

theorem carryItem_eq {item : Value} (carries : state.carryItem item = .ok next) :
    ∃ inventory itemLocations, next = { state with inventory, itemLocations } := by
  unfold GameState.carryItem at carries
  cases key : item.key with
  | ok key =>
    simp only [key, bind, Except.bind, pure, Except.pure] at carries
    cases carries
    exact ⟨_, _, rfl⟩
  | error failure =>
    simp only [key, bind, Except.bind] at carries
    cases carries

theorem addItem_eq {item : Value} (adds : state.addItem item = .ok next) :
    ∃ inventory itemLocations, next = { state with inventory, itemLocations } := by
  unfold GameState.addItem at adds
  split at adds
  · cases adds
    exact ⟨state.inventory, state.itemLocations, rfl⟩
  · exact carryItem_eq adds

theorem ok_of_lifted {α : Type} {result : Except Failure α} {a : α}
    (returns : (liftM result : Rolling α) roller = .ok a rolled) : result = .ok a := by
  cases result with
  | ok b =>
    cases returns
    rfl
  | error failure => cases returns

theorem Effect.requireText_eq_ok {effect : Effect} :
    effect.requireText = .ok () ↔ effect.isWritable := by
  unfold requireText
  split <;> simp [*]

theorem apply_eq_ok {effect : Effect} : effect.apply state roller = .ok next rolled ↔
    effect.isWritable ∧ effect.handle state roller = .ok next rolled := by
  rw [← Effect.requireText_eq_ok, Effect.apply]
  cases effect.requireText with
  | ok _ => exact ⟨fun applies => ⟨rfl, applies⟩, And.right⟩
  | error failure => exact ⟨nofun, fun written => nomatch written.1⟩

theorem meaning_of_apply {effect : Effect}
    (applies : effect.apply state roller = .ok next rolled) :
    EffectsMeaning [effect] state next := by
  replace applies := (apply_eq_ok.mp applies).2
  have updated {id : String} {change : CharacterState → Except Failure CharacterState}
      (updates : (liftM (state.updateCharacter id change) : Rolling GameState) roller =
        .ok next rolled) : next.cues = state.cues ∧ next.cursor = state.cursor := by
    obtain ⟨characters, rfl⟩ := updateCharacter_eq (ok_of_lifted updates)
    exact ⟨rfl, rfl⟩
  cases effect with
  | addVariable name value =>
    obtain ⟨_, _, _, returns⟩ := Play.ok_of_bind applies
    cases returns
    exact ⟨rfl, rfl⟩
  | addItem item =>
    obtain ⟨_, _, rfl⟩ := addItem_eq (ok_of_lifted applies)
    exact ⟨rfl, rfl⟩
  | advanceTime hours =>
    obtain ⟨_, _, _, returns⟩ := Play.ok_of_bind applies
    cases returns
    exact ⟨rfl, rfl⟩
  | addJournalEntry entry =>
    simp only [Effect.handle] at applies
    split at applies <;> cases applies <;> exact ⟨rfl, rfl⟩
  | setCharacterLocation character location => exact ⟨(updated applies).1, (updated applies).2⟩
  | addToParty character => exact ⟨(updated applies).1, (updated applies).2⟩
  | removeFromParty character => exact ⟨(updated applies).1, (updated applies).2⟩
  | setRelationship character value => exact ⟨(updated applies).1, (updated applies).2⟩
  | addRelationship character value => exact ⟨(updated applies).1, (updated applies).2⟩
  | setCharacterStat character stat value => exact ⟨(updated applies).1, (updated applies).2⟩
  | addCharacterStat character stat value => exact ⟨(updated applies).1, (updated applies).2⟩
  | roll name minimum maximum =>
    obtain ⟨_, _, _, returns⟩ := Play.ok_of_bind applies
    cases returns
    exact ⟨rfl, rfl⟩
  | _ =>
    cases applies
    exact ⟨rfl, rfl⟩

theorem meaning_of_applyAll {effects : List Effect}
    (applies : Effect.applyAll state effects roller = .ok next rolled) :
    EffectsMeaning effects state next := by
  induction effects generalizing state roller with
  | nil =>
    cases applies
    exact ⟨rfl, rfl⟩
  | cons effect rest ih =>
    obtain ⟨between, _, early, late⟩ := Play.ok_of_bind applies
    have first := meaning_of_apply early
    have last := ih late
    refine ⟨?_, ?_⟩
    · rw [last.cues, first.cues]
      rfl
    · rw [last.cursor, first.cursor]
      rfl

inductive Effect.Touches (before : GameState) : Effect → GameState → Prop
  | neither {effect : Effect} {after : GameState} (time : after.time = before.time)
      (inventory : after.inventory = before.inventory)
      (itemLocations : after.itemLocations = before.itemLocations) : Touches before effect after
  | advances {hours : Number} {time : Clock}
      (advances : before.time.advance (.number hours) = .ok time) :
      Touches before (.advanceTime hours) { before with time }
  | adds {item : String} {after : GameState} (adds : before.addItem item = .ok after) :
      Touches before (.addItem item) after
  | removes {item : String} : Touches before (.removeItem item) (before.dropItem item)
  | moves {item location : String} : Touches before (.moveItem item location)
      { before.dropItem item with
        itemLocations := before.itemLocations.insert item location }

theorem touches_of_apply {effect : Effect}
    (applies : effect.apply state roller = .ok next rolled) : effect.Touches state next := by
  replace applies := (apply_eq_ok.mp applies).2
  have updated {id : String} {change : CharacterState → Except Failure CharacterState}
      (updates : (liftM (state.updateCharacter id change) : Rolling GameState) roller =
        .ok next rolled) : effect.Touches state next := by
    obtain ⟨characters, rfl⟩ := updateCharacter_eq (ok_of_lifted updates)
    exact .neither rfl rfl rfl
  cases effect with
  | addVariable | roll =>
    obtain ⟨_, _, _, returns⟩ := Play.ok_of_bind applies
    cases returns
    exact .neither rfl rfl rfl
  | addItem item => exact .adds (ok_of_lifted applies)
  | removeItem item =>
    cases applies
    exact .removes
  | moveItem item location =>
    cases applies
    exact .moves
  | advanceTime hours =>
    obtain ⟨_, _, advances, returns⟩ := Play.ok_of_bind applies
    cases returns
    exact .advances (ok_of_lifted advances)
  | addJournalEntry entry =>
    simp only [Effect.handle] at applies
    split at applies <;> cases applies <;> exact .neither rfl rfl rfl
  | setCharacterLocation | addToParty | removeFromParty | setRelationship | addRelationship
  | setCharacterStat | addCharacterStat => exact updated applies
  | _ =>
    cases applies
    exact .neither rfl rfl rfl

def GameState.at (state : GameState) (cursor : Option Cursor) : GameState :=
  { state with cursor }

theorem updateCharacter_at (cursor : Option Cursor) (id : String)
    (change : CharacterState → Except Failure CharacterState) :
    (state.at cursor).updateCharacter id change =
      (·.at cursor) <$> state.updateCharacter id change := by
  have same : (state.at cursor).characters = state.characters := rfl
  simp only [GameState.updateCharacter, same]
  cases state.characters.find? id with
  | none => rfl
  | some character =>
    simp only
    cases change character <;> rfl

theorem addItem_at (cursor : Option Cursor) (item : Value) :
    (state.at cursor).addItem item = (·.at cursor) <$> state.addItem item := by
  have same : (state.at cursor).inventory = state.inventory := rfl
  simp only [GameState.addItem, GameState.carryItem, same]
  split
  · rfl
  · cases item.key <;> rfl

theorem lift_at {result : Except Failure GameState} (cursor : Option Cursor)
    (returns : (liftM result : Rolling GameState) roller = .ok next rolled) :
    (liftM ((·.at cursor) <$> result) : Rolling GameState) roller =
      .ok (next.at cursor) rolled := by
  cases result with
  | ok a =>
    cases returns
    rfl
  | error failure => cases returns

theorem apply_at {effect : Effect} (stays : effect.steers = false) (cursor : Option Cursor)
    (applies : effect.apply state roller = .ok next rolled) :
    effect.apply (state.at cursor) roller = .ok (next.at cursor) rolled := by
  obtain ⟨written, applies⟩ := apply_eq_ok.mp applies
  refine apply_eq_ok.mpr ⟨written, ?_⟩
  have updated {id : String} {change : CharacterState → Except Failure CharacterState}
      (updates : (liftM (state.updateCharacter id change) : Rolling GameState) roller =
        .ok next rolled) :
      (liftM ((state.at cursor).updateCharacter id change) : Rolling GameState) roller =
        .ok (next.at cursor) rolled := by
    rw [updateCharacter_at]
    exact lift_at cursor updates
  cases effect with
  | startDialogue dialogue => cases stays
  | endDialogue => cases stays
  | addVariable name value =>
    obtain ⟨bindings, _, adds, returns⟩ := Play.ok_of_bind applies
    cases returns
    exact Play.bind_of_ok adds
  | addItem item =>
    simp only [Effect.handle, addItem_at]
    exact lift_at cursor applies
  | advanceTime hours =>
    obtain ⟨time, _, advances, returns⟩ := Play.ok_of_bind applies
    cases returns
    exact Play.bind_of_ok advances
  | addJournalEntry entry =>
    have same : (state.at cursor).journal = state.journal := rfl
    simp only [Effect.handle, same] at applies ⊢
    split at applies <;> cases applies <;> simp_all <;> rfl
  | setCharacterLocation character location => exact updated applies
  | addToParty character => exact updated applies
  | removeFromParty character => exact updated applies
  | setRelationship character value => exact updated applies
  | addRelationship character value => exact updated applies
  | setCharacterStat character stat value => exact updated applies
  | addCharacterStat character stat value => exact updated applies
  | roll name minimum maximum =>
    obtain ⟨total, _, rolls, returns⟩ := Play.ok_of_bind applies
    cases returns
    exact Play.bind_of_ok rolls
  | _ =>
    cases applies
    rfl

theorem applyAll_at {effects : List Effect} (stays : ∀ effect ∈ effects, effect.steers = false)
    (cursor : Option Cursor) (applies : Effect.applyAll state effects roller = .ok next rolled) :
    Effect.applyAll (state.at cursor) effects roller = .ok (next.at cursor) rolled := by
  induction effects generalizing state roller with
  | nil =>
    cases applies
    rfl
  | cons effect rest ih =>
    obtain ⟨between, middle, early, late⟩ := Play.ok_of_bind applies
    have staysFirst : effect.steers = false := stays effect List.mem_cons_self
    have first := apply_at staysFirst cursor early
    have last := ih (fun other listed => stays other (List.mem_cons_of_mem _ listed)) late
    show (Effect.apply (state.at cursor) effect >>= fun next =>
      Effect.applyAll next rest) roller = _
    rw [Play.bind_of_ok first, last]

end Fabula
