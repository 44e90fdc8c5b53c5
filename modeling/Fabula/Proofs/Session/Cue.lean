import Fabula.Proofs.Rules.Application
import Fabula.Proofs.Session.CallMeaning
import Fabula.Proofs.Session.Saving
/-!
# Cues are shown once

A cue is pending from when it is set until the next view, which shows it and clears it. So a view
shows the cues that were pending before the call, followed by those that the call itself has set.
Main statements:

* `cues_of_path`: the cues that deeds leave;
* `cues_shown`: the cues that a view shows.
-/

namespace Fabula
variable {game : Game}

namespace Deed

def effects : Deed → List Effect
  | .apply effects => effects
  | _ => []

def interludes : Deed → List Value
  | .apply effects => effects.filterMap Effect.interlude?
  | .fire interlude => [interlude.id]
  | _ => []

end Deed

namespace Cues

def after (pending : Cues) (deeds : List Deed) : Cues where
  notifications :=
    pending.notifications ++ (deeds.flatMap Deed.effects).filterMap Effect.message?
  sounds := pending.sounds ++ (deeds.flatMap Deed.effects).filterMap Effect.sound?
  video := ((deeds.flatMap Deed.effects).filterMap Effect.video?).getLastD pending.video
  interlude := (deeds.flatMap Deed.interludes).getLastD pending.interlude

theorem after_nil (pending : Cues) : pending.after [] = pending := by
  simp [after]

theorem after_append (pending : Cues) (deeds later : List Deed) :
    pending.after (deeds ++ later) = (pending.after deeds).after later := by
  simp [after, List.getLastD_eq_getLast?, List.getLast?_append]

theorem after_apply_append (pending : Cues) (effects later : List Effect) :
    pending.after [.apply (effects ++ later)] =
      (pending.after [.apply effects]).after [.apply later] := by
  simp [after, Deed.effects, Deed.interludes, List.getLastD_eq_getLast?, List.getLast?_append]

theorem cue_eq (pending : Cues) (effect : Effect) :
    effect.cue pending = pending.after [.apply [effect]] := by
  cases effect <;>
    simp [after, Effect.cue, Deed.effects, Deed.interludes, Effect.message?, Effect.sound?,
      Effect.video?, Effect.interlude?, List.filterMap_cons]

theorem foldl_cue (effects : List Effect) (pending : Cues) :
    effects.foldl Effect.cue pending = pending.after [.apply effects] := by
  induction effects generalizing pending with
  | nil => simp [after, Deed.effects, Deed.interludes]
  | cons effect rest ih =>
    rw [List.foldl_cons, ih, cue_eq, ← after_apply_append, List.singleton_append]

end Cues

theorem cues_of_deed {deed : Deed} {before after : GameState}
    (does : deed.Meaning game before after) : after.cues = before.cues.after [deed] := by
  have silent {deed : Deed} (effects : deed.effects = []) (interludes : deed.interludes = [])
      (same : after.cues = before.cues) : after.cues = before.cues.after [deed] := by
    simp [Cues.after, effects, interludes, same]
  cases does with
  | apply applies => rw [(meaning_of_applyAll applies).cues, Cues.foldl_cue]
  | fire => simp [Cues.after, Deed.effects, Deed.interludes, GameState.cues]
  | carry carries =>
    obtain ⟨_, _, rfl⟩ := carryItem_eq carries
    exact silent rfl rfl rfl
  | command updates => exact silent rfl rfl (Command.meaning_of_update updates).1
  | _ => exact silent rfl rfl rfl

theorem cues_of_path {before after : GameState} {deeds : List Deed}
    (path : Path game before deeds after) : after.cues = before.cues.after deeds := by
  induction path with
  | nil state => exact state.cues.after_nil.symm
  | cons does _ ih => rw [ih, cues_of_deed does, ← Cues.after_append, List.singleton_append]

/-- Whether a view shows cues, with its texts resolved. An interlude is shown where its id counts as
present and is known. -/
structure View.ShowsCues (game : Game) (resolve : Resolver) (cues : Cues) (view : View) : Prop where
  notifications : cues.notifications.mapM resolve = .ok view.notifications
  sounds : view.sounds = cues.sounds
  video : view.video = cues.video
  interlude : ofInterlude game.registry game.settings resolve cues.interlude = .ok view.interlude
  hidden : view.interlude = none ↔ cues.interlude.isPresent = false ∨
    game.registry.interludes.lookup cues.interlude = .ok none

namespace View
variable {registry : Registry} {settings : Settings} {resolve : Resolver} {state : GameState}

theorem ofInterlude_eq_none {pending : Value} {shown : Option InterludeView}
    (returns : ofInterlude registry settings resolve pending = .ok shown) :
    shown = none ↔ pending.isPresent = false ∨ registry.interludes.lookup pending = .ok none := by
  unfold ofInterlude at returns
  cases present : pending.isPresent with
  | false =>
    simp only [present, Bool.not_false, if_true] at returns
    cases returns
    simp
  | true =>
    simp only [present, Bool.not_true, Bool.false_eq_true, if_false] at returns
    cases found : registry.interludes.lookup pending with
    | error failure => simp [found, bind, Except.bind] at returns
    | ok known =>
      cases known with
      | none =>
        simp only [found, bind, Except.bind] at returns
        cases returns
        simp
      | some interlude =>
        cases text : resolve interlude.text with
        | error failure => simp [found, text, bind, Except.bind] at returns
        | ok text =>
          simp only [found, text, bind, Except.bind] at returns
          cases returns
          simp

theorem ofWorld_cues (dialogue : Option DialogueView) (choices : List ChoiceView) :
    Returns (fun view => state.notifications.mapM resolve = .ok view.notifications ∧
        view.sounds = state.sounds ∧ view.video = state.video ∧
        ofInterlude registry settings resolve state.interlude = .ok view.interlude)
      (ofWorld registry settings state resolve dialogue choices) := by
  simp only [ofWorld, returns_bind, returns_pure]
  intro _ _ _ _ _ _ _ _ _ _ _ _ _ _ _ _ _ _ notifications resolved interlude shown
  exact ⟨resolved, trivial, trivial, shown⟩

theorem cues_of_build {roller rolled : Roller} {view : View}
    (builds : build game.registry game.settings state roller = .ok view rolled) :
    ∃ resolve, resolver game.registry state = .ok resolve ∧
      ShowsCues game resolve state.cues view := by
  obtain ⟨resolve, _, resolves, builds⟩ := Play.ok_of_bind builds
  obtain ⟨place, _, _, builds⟩ := Play.ok_of_bind builds
  obtain ⟨notifications, sounds, video, interlude⟩ :=
    ofWorld_cues _ _ view (ok_of_lifted builds)
  exact ⟨resolve, ok_of_lifted resolves, notifications, sounds, video, interlude,
    ofInterlude_eq_none interlude⟩

end View

/-- Runs of returning calls, with the cues that are pending: those that the start has left, until a
call answers with a view. -/
def Game.awaiting (game : Game) : RunKind Cues where
  Begins pending session := pending = session.state.cues ∧ ∃ now roller notes state,
    Session.start (game.at now) roller notes state = .ok session
  Goes pending turn next := turn.IsIn game ∧ turn.Returns ∧
    (turn.Shows ∧ next = .none ∨ ¬ turn.Shows ∧ next = pending)

def CueRun (game : Game) (pending : Cues) (session : Session) : Prop :=
  Run game.awaiting pending session

/-- The cues that count as set before a call: those that are pending, unless the call begins a new
game or brings the cues of a saved state. -/
inductive Call.CuesBefore (game : Game) (pending : Cues) : Call → Cues → Prop
  | newGame (setup : Setup) : CuesBefore game pending (.action (.newGame setup)) .none
  | load (save : Save) : CuesBefore game pending (.action (.load save)) save.state.cues
  | loadRecord {data : Value} {save : Save} (read : Save.ofRecord game.now.text data = .ok save) :
      CuesBefore game pending (.action (.loadRecord data)) save.state.cues
  | other {call : Call} (goesOn : call.resets = false) : CuesBefore game pending call pending

theorem Call.Opening.cuesBefore {call : Call} {before start : GameState} {opening : List Deed}
    (opens : call.Opening game before opening start) :
    call.CuesBefore game before.cues start.cues := by
  cases opens with
  | newGame setup => exact .newGame setup
  | load save => exact .load save
  | loadRecord read => exact .loadRecord read
  | other goesOn => exact .other goesOn

theorem CueRun.cues {pending : Cues} {session : Session} (awaits : CueRun game pending session) :
    session.state.cues = pending := by
  refine Run.keeps (I := fun pending session => session.state.cues = pending) awaits ?_ ?_
    fun _ _ _ => False.elim
  · rintro _ _ ⟨rfl, _⟩
    rfl
  · rintro _ turn _ ⟨_, ⟨reply, returns⟩, ⟨⟨view, shown⟩, rfl⟩ | ⟨plain, rfl⟩⟩ same
    · obtain ⟨_, _, _, _, told⟩ := meaning_of_call shown
      rw [told.clears]
      rfl
    · rwa [(Answering.call _).state_of_plain _ _ _ returns fun view shows =>
        plain ⟨view, shows ▸ returns⟩]

theorem Reachable.cueRun {session : Session} (reached : Reachable game session) :
    ∃ pending, CueRun game pending session := by
  refine Run.keeps (I := fun _ session => ∃ pending, CueRun game pending session) reached ?_ ?_
    fun _ _ _ => False.elim
  · exact fun _ session started => ⟨_, .begin ⟨rfl, started⟩⟩
  · rintro _ turn _ ⟨within, returns⟩ ⟨pending, awaits⟩
    by_cases shows : turn.Shows
    · exact ⟨_, .turn awaits ⟨within, returns, .inl ⟨shows, rfl⟩⟩⟩
    · exact ⟨_, .turn awaits ⟨within, returns, .inr ⟨shows, rfl⟩⟩⟩

/-- Every cue is shown once. A view shows the cues that the call finds, followed by those that its
own deeds have set in their order, with texts resolved for the state that the call leaves. No cue is
pending afterwards. -/
theorem cues_shown {session next : Session} {call : Call} {view : View}
    (reached : Reachable game session)
    (returns : Play.call game call session = .ok (.view view) next) :
    ∃ pending found opening deeds start shown resolve,
      CueRun game pending session ∧ call.CuesBefore game pending found ∧
        CallMeaning game call session next view opening deeds start shown ∧
        View.resolver game.registry next.state = .ok resolve ∧
        View.ShowsCues game resolve (found.after deeds) view ∧ next.state.cues = .none := by
  obtain ⟨pending, awaits⟩ := reached.cueRun
  obtain ⟨opening, deeds, start, shown, told⟩ := meaning_of_call returns
  obtain ⟨roller, rolled, builds⟩ := told.shows
  obtain ⟨resolve, resolves, shows⟩ := View.cues_of_build builds
  rw [cues_of_path told.path] at shows
  have finds : call.CuesBefore game pending start.cues := awaits.cues ▸ told.opens.cuesBefore
  refine ⟨pending, _, opening, deeds, start, shown, resolve, awaits, finds, told, ?_, shows, ?_⟩
  · rw [told.clears]
    exact resolves
  · rw [told.clears]
    rfl

def greeting : Call :=
  .action (.debug [.notify "Welcome", .playSound "bell", .roll "luck" 1 6] "greet")

theorem guide_greets : ∃ view next,
    Play.call guideGame greeting guideSession = .ok (.view view) next := by
  have returns : (outcome (Play.debug guideGame
      [.notify "Welcome", .playSound "bell", .roll "luck" 1 6] "greet") guideSession).1.isOk := by
    decide +kernel
  obtain ⟨view, returned⟩ := ok_of_outcome returns
  exact ⟨view, _, Play.bind_of_ok returned⟩

theorem cues_shown_guide : ∃ view next pending found opening deeds start shown resolve,
    Reachable guideGame guideSession ∧
      Play.call guideGame greeting guideSession = .ok (.view view) next ∧
      CueRun guideGame pending guideSession ∧ greeting.CuesBefore guideGame pending found ∧
      CallMeaning guideGame greeting guideSession next view opening deeds start shown ∧
      View.resolver guideGame.registry next.state = .ok resolve ∧
      View.ShowsCues guideGame resolve (found.after deeds) view ∧ next.state.cues = .none := by
  obtain ⟨view, next, returns⟩ := guide_greets
  have reached := Reachable.start guide_started
  obtain ⟨pending, found, opening, deeds, start, shown, resolve, shows⟩ :=
    cues_shown reached returns
  exact ⟨view, next, pending, found, opening, deeds, start, shown, resolve, reached, returns,
    shows⟩

/-- An interlude can be authored with the id zero. Its arrival sets it, but no view shows it. -/
def dreamContent : Value :=
  .object [("interludes", .list [.object [("id", .int 0), ("text", "You dream."),
    ("trigger_location", "bed")]])]

def dream : Interlude where
  id := .int 0
  background := ""
  text := "You dream."
  banner := .null
  music := .null
  voice := .null
  sounds := []
  scroll := .null
  scrollSpeed := .null
  triggerLocation := "bed"
  conditions := []
  effects := []

def dreamRegistry : Registry :=
  { guideRegistry with
    characters := ∅
    dialogues := ∅
    interludes := ⟨[(.number (.int 0), dream)]⟩ }

def dreamGame : Game :=
  { guideGame with registry := dreamRegistry }

def dreamSession : Session :=
  .new dreamGame guideRoller 0

def bedtime : Setup :=
  ⟨"bed", .start, ∅, ∅, []⟩

def dreamTelling : Except Failure View × Account :=
  outcome (do
    Telling.lead dreamGame (.newGame bedtime)
    Telling.finish dreamGame "new_game") ⟨dreamSession, []⟩

theorem dream_read : Registry.ofRecord dreamContent = .ok dreamGame.registry := rfl

theorem eq_int_of_int? {value : Value} {n : Int} (found : value.int? = some n) :
    value = .int n := by
  cases value with
  | number number =>
    cases number with
    | int m =>
      cases found
      rfl
    | float x => cases found
  | _ => cases found

/-- The interlude of id zero is known and fires, and the view does not show it. -/
theorem cues_shown_dream : Registry.ofRecord dreamContent = .ok dreamGame.registry ∧
    Reachable dreamGame dreamSession ∧ ∃ view next deeds,
    Telling.call dreamGame (.action (.newGame bedtime)) ⟨dreamSession, []⟩ =
        .ok (.view view) ⟨next, deeds⟩ ∧
      deeds.flatMap Deed.interludes = [.int 0] ∧
      dreamGame.registry.interludes.lookup (.int 0) = .ok (some dream) ∧
      view.interlude = none := by
  have started : Session.start dreamGame guideRoller 0 none = .ok dreamSession := rfl
  have returns : dreamTelling.1.isOk := by decide +kernel
  have fires : (dreamTelling.2.deeds.flatMap Deed.interludes).map Value.int? = [some 0] := by
    decide +kernel
  have hides : dreamTelling.1.toOption.all (·.interlude.isNone) := by decide +kernel
  obtain ⟨view, tells⟩ := ok_of_outcome returns
  have answer : dreamTelling.1 = .ok view := congrArg Prod.fst (outcome_of_ok tells)
  obtain ⟨⟨next, deeds⟩, last⟩ : ∃ account, dreamTelling.2 = account := ⟨_, rfl⟩
  rw [last] at fires
  obtain ⟨id, fired, found⟩ := List.map_eq_singleton_iff.mp fires
  refine ⟨dream_read, .start started, view, next, deeds, ?_, ?_, rfl, ?_⟩
  · have tells : (Telling.lead dreamGame (.newGame bedtime) >>= fun _ =>
        Telling.finish dreamGame "new_game") ⟨dreamSession, []⟩ = .ok view ⟨next, deeds⟩ :=
      tells.trans (congrArg _ last)
    obtain ⟨_, led, leads, finishes⟩ := Play.ok_of_bind tells
    show (Telling.lead dreamGame (.newGame bedtime) >>= fun _ =>
      Telling.finish dreamGame "new_game" >>= fun view => pure (Reply.view view)) _ = _
    rw [Play.bind_of_ok leads, Play.bind_of_ok finishes]
    rfl
  · rw [fired, eq_int_of_int? found]
  · simpa [answer, Except.toOption] using hides

end Fabula
