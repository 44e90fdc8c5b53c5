import Fabula.Proofs.Session.Course
/-!
# Visits

The deeds of a call follow a grammar. A call begins with something of its own: the effects of a
choice with a visit of its target, the effects that it is given, or a hop. Then it enters dialogues,
where it visits the start nodes, and fires interludes. A visit applies the effects of a node and may
hop on. `Adds` is the rule of a logic for this: it has one lemma for each function of a session.
Main statement:

* `Telling.Reports.call`: the deeds of every call follow the grammar.
-/

namespace Fabula
variable {α β : Type} {game : Game}

def Node.targets (node : Node) : List Value :=
  node.branches.map Branch.next ++ [node.next]

def Deed.idle : Deed → Bool
  | .apply _ | .arrive _ _ | .hop _ _ | .fire _ => false
  | _ => true

namespace Dialogue

/-- What is done where a node is arrived at. Its effects are applied, and then it may hop on if it
has no choices. -/
inductive Visit (dialogue : Dialogue) (node : Node) : List Deed → Prop
  | stay : Visit dialogue node [.arrive dialogue node, .apply node.effects]
  | hop {target : Value} (leaf : node.choices = []) (listed : target ∈ node.targets) :
      Visit dialogue node [.arrive dialogue node, .apply node.effects, .hop dialogue target]

/-- What is done where a choice is taken. Its target is not visited if it is not there or if the
effects of the choice start a dialogue. -/
inductive ChoiceVisit (dialogue : Dialogue) (choice : Choice) : List Deed → Prop
  | apply : ChoiceVisit dialogue choice [.apply choice.effects]
  | visit {target : Node} {visit : List Deed} (found : dialogue.findNode? choice.next = some target)
      (visited : dialogue.Visit target visit) :
      ChoiceVisit dialogue choice (.apply choice.effects :: visit)

end Dialogue

/-- What is done where dialogues are entered and interludes fire, among deeds that are idle. -/
inductive Visits : List Deed → Prop
  | nil : Visits []
  | idle {deed : Deed} {rest : List Deed} (idle : deed.idle) (visits : Visits rest) :
      Visits (deed :: rest)
  | enter {dialogue : Dialogue} {node : Node} {visit rest : List Deed}
      (starts : dialogue.start? = some node) (visited : dialogue.Visit node visit)
      (visits : Visits rest) : Visits (visit ++ rest)
  | fire {interlude : Interlude} {rest : List Deed} (visits : Visits rest) :
      Visits (.fire interlude :: .apply interlude.effects :: rest)

inductive Call.OwnDeeds (registry : Registry) (state : GameState) : Call → List Deed → Prop
  | nothing {call : Call} : OwnDeeds registry state call []
  | debug {effects : List Effect} {label : Value} :
      OwnDeeds registry state (.action (.debug effects label)) [.apply effects]
  | choose {id : Value} {dialogue : Dialogue} {node : Node} {choice : Choice} {deeds : List Deed}
      (current : View.currentNode? registry state.cursor = .ok (some (dialogue, node)))
      (chosen : node.findChoice? id = some choice) (takes : dialogue.ChoiceVisit choice deeds) :
      OwnDeeds registry state (.action (.selectChoice id)) deeds
  | hop {dialogue : Dialogue} {node : Node} {target : Value}
      (current : View.currentNode? registry state.cursor = .ok (some (dialogue, node)))
      (leaf : node.choices = []) (listed : target ∈ node.targets) :
      OwnDeeds registry state (.action .continueDialogue) [.hop dialogue target]

theorem Visits.append {deeds later : List Deed} (visits : Visits deeds) (more : Visits later) :
    Visits (deeds ++ later) := by
  induction visits with
  | nil => exact more
  | idle idle _ ih => exact .idle idle ih
  | enter starts visited _ ih =>
    rw [List.append_assoc]
    exact .enter starts visited ih
  | fire _ ih => exact .fire ih

namespace Telling

def Adds (telling : Telling α) (K : α → List Deed → Prop) : Prop :=
  ∀ account a last, telling account = .ok a last →
    ∃ deeds, last.deeds = account.deeds ++ deeds ∧ K a deeds

namespace Adds
variable {K : α → List Deed → Prop} {M : β → List Deed → Prop}

theorem imp {telling : Telling α} {more : α → List Deed → Prop} (adds : Adds telling K)
    (weaken : ∀ a deeds, K a deeds → more a deeds) : Adds telling more := by
  intro account a last returns
  obtain ⟨deeds, told, known⟩ := adds account a last returns
  exact ⟨deeds, told, weaken a deeds known⟩

theorem bind {first : Telling α} {next : α → Telling β} {L : α → β → List Deed → Prop}
    (early : Adds first K) (rest : ∀ a, Adds (next a) (L a))
    (join : ∀ a b deeds later, K a deeds → L a b later → M b (deeds ++ later)) :
    Adds (first >>= next) M := by
  intro account b last returns
  obtain ⟨a, between, starts, returns⟩ := Play.ok_of_bind returns
  obtain ⟨deeds, told, known⟩ := early account a between starts
  obtain ⟨later, toldLater, knownLater⟩ := rest a between b last returns
  refine ⟨deeds ++ later, ?_, join a b deeds later known knownLater⟩
  rw [toldLater, told, List.append_assoc]

theorem pure {a : α} (done : K a []) : Adds (Pure.pure a) K := by
  rintro account _ _ ⟨⟩
  exact ⟨[], (List.append_nil _).symm, done⟩

theorem silent {computation : Play α} (done : ∀ a, K a []) :
    Adds (silently computation) K := by
  intro account a last returns
  obtain ⟨next, _, rfl⟩ := ok_of_silently returns
  exact ⟨[], (List.append_nil _).symm, done a⟩

theorem put {deed : Deed} {state : GameState} {K : Unit → List Deed → Prop}
    (done : K () [deed]) : Adds (put deed state) K := by
  rintro account _ _ ⟨⟩
  exact ⟨[deed], rfl, done⟩

theorem after_known {computation : Play α} {next : α → Telling β} {F : α → Prop}
    (answers : ∀ session a last, computation session = .ok a last → F a)
    (rest : ∀ a, F a → Adds (next a) M) :
    Adds (silently computation >>= next) M := by
  intro account b last returns
  obtain ⟨a, between, asked, returns⟩ := Play.ok_of_bind returns
  obtain ⟨session, asks, rfl⟩ := ok_of_silently asked
  exact rest a (answers _ _ _ asks) ⟨session, account.deeds⟩ b last returns

theorem after {computation : Play α} {next : α → Telling β} (rest : ∀ a, Adds (next a) M) :
    Adds (silently computation >>= next) M :=
  after_known (F := fun _ => True) (fun _ _ _ _ => trivial) fun a _ => rest a

theorem after_lift {result : Except Failure α} {next : α → Telling β}
    (rest : ∀ a, result = .ok a → Adds (next a) M) : Adds (liftM result >>= next) M := by
  intro account b last told
  obtain ⟨a, between, asked, returns⟩ := Play.ok_of_bind told
  obtain ⟨answer, rfl⟩ := ok_of_lift asked
  exact rest a answer between b last returns

theorem after_deed {first : Telling Unit} {next : Unit → Telling β} {deed : Deed}
    (does : Adds first fun _ deeds => deeds = [deed])
    (rest : Adds (next ()) fun b later => M b (deed :: later)) :
    Adds (first >>= next) M :=
  .bind does (L := fun _ b later => M b (deed :: later)) (fun _ => rest) <| by
    rintro _ b _ later rfl known
    exact known

theorem after_visits {first : Telling α} {next : α → Telling β}
    (early : Adds first fun _ => Visits) (rest : ∀ a, Adds (next a) fun _ => Visits) :
    Adds (first >>= next) fun _ => Visits :=
  .bind early rest fun _ _ _ _ => .append

theorem setCursor (deed : Deed) (cursor : Option Cursor) :
    Adds (setCursor deed cursor) fun _ deeds => deeds = [deed] :=
  .after fun _ => .put rfl

theorem alter (deed : Deed) (change : GameState → Rolling GameState) (reason : String) :
    Adds (alter game deed change reason) fun _ deeds => deeds = [deed] := by
  refine .after fun before => .after fun after => .after_deed (.put rfl) ?_
  split
  · exact .silent fun _ => rfl
  · exact .pure rfl

theorem perform (effects : List Effect) (reason : String) :
    Adds (perform game effects reason) fun _ deeds => deeds = [.apply effects] :=
  .alter _ _ _

theorem advanceClock (hours : Int) (reason : String) :
    Adds (advanceClock game hours reason) fun _ deeds => deeds = [.wait hours] :=
  .after fun _ => .after_lift fun _ _ => .after_deed (.put rfl) (.silent fun _ => rfl)

theorem idle {telling : Telling α} {deed : Deed} (does : Adds telling fun _ deeds => deeds = [deed])
    (idle : deed.idle) : Adds telling fun _ => Visits := by
  refine does.imp ?_
  rintro _ _ rfl
  exact .idle idle .nil

end Adds
end Telling

theorem Play.target_of_findTarget {node : Node} {session next : Session} {target : Value}
    (returns : findTarget game node session = .ok (some target) next) : target ∈ node.targets := by
  have itself {value : Value} (given : value.given? = some target) : value = target := by
    cases value <;> cases given <;> rfl
  obtain ⟨found, between, finds, returns⟩ := ok_of_bind returns
  obtain ⟨_, _, _, finds⟩ := ok_of_bind finds
  cases found with
  | some branch =>
    obtain ⟨given, _⟩ := EStateM.Result.ok.inj returns
    rw [← itself given]
    exact List.mem_append_left _ (List.mem_map_of_mem (mem_of_findM? finds))
  | none =>
    obtain ⟨given, _⟩ := EStateM.Result.ok.inj returns
    cases present : node.next.isPresent with
    | true =>
      rw [Value.orElse, if_pos present] at given
      exact List.mem_append_right _ (List.mem_singleton.mpr (itself given).symm)
    | false =>
      rw [Value.orElse, if_neg (by simp [present])] at given
      cases given

def Dialogue.Hops (dialogue : Dialogue) (node : Node) (deeds : List Deed) : Prop :=
  deeds = [.leave] ∨ ∃ target ∈ node.targets, deeds = [.hop dialogue target]

def Dialogue.Arrives (dialogue : Dialogue) (node : Node) (deeds : List Deed) : Prop :=
  ∃ visit rest, dialogue.Visit node visit ∧ Visits rest ∧ deeds = visit ++ rest

def Dialogue.Reaches (dialogue : Dialogue) (choice : Choice) (deeds : List Deed) : Prop :=
  deeds = [.leave] ∨
    ∃ target, dialogue.findNode? choice.next = some target ∧ dialogue.Arrives target deeds

namespace Telling.Adds

theorem hop (dialogue : Dialogue) (node : Node) :
    Adds (hop game dialogue node) fun _ => dialogue.Hops node := by
  have leaves : Adds endDialogue fun _ => dialogue.Hops node :=
    (setCursor _ _).imp fun _ _ => .inl
  refine .after_known (F := fun found => ∀ target, found = some target →
    target ∈ node.targets) ?_ fun found known => ?_
  · rintro session _ next returns target rfl
    exact Play.target_of_findTarget returns
  · cases found with
    | none => exact leaves
    | some target =>
      dsimp only
      split
      · exact (setCursor _ _).imp fun _ _ hopped => .inr ⟨target, known target rfl, hopped⟩
      · exact leaves

def Follows (told : Telling Bool) : Prop :=
  Adds told fun followed deeds => Visits deeds ∧ (followed = false → deeds = [])

theorem arrive {told : Telling Bool} (follows : Follows told) (dialogue : Dialogue)
    (node : Node) : Adds (arrive game told dialogue node) fun _ => dialogue.Arrives node := by
  -- A node hops on only if nothing has followed its effects, so the hop comes right after them.
  refine .after_deed (.setCursor _ _) (.after_deed (.perform _ _) (.bind follows
    (L := fun followed _ later => later = [] ∨
      followed = false ∧ node.choices = [] ∧ dialogue.Hops node later) (fun followed => ?_) ?_))
  · cases followed with
    | true => exact .pure (.inl rfl)
    | false =>
      refine .after fun state => ?_
      split
      · next stays =>
        have leaf := List.isEmpty_iff.mp (Bool.and_eq_true_iff.mp stays).1
        exact (hop dialogue node).imp fun _ _ hops => .inr ⟨rfl, leaf, hops⟩
      · exact .pure (.inl rfl)
  · rintro followed _ deeds later ⟨visits, idle⟩ (rfl | ⟨unfollowed, leaf, hops⟩)
    · exact ⟨_, deeds, .stay, visits, by simp⟩
    · obtain rfl := idle unfollowed
      obtain rfl | ⟨target, listed, rfl⟩ := hops
      · exact ⟨_, [.leave], .stay, .idle rfl .nil, rfl⟩
      · exact ⟨_, [], .hop leaf listed, .nil, rfl⟩

theorem enter {told : Telling Bool} (follows : Follows told) (id : Value) :
    Adds (enter game told id) fun _ => Visits := by
  refine .after_lift fun found looked => ?_
  cases found with
  | some place =>
    refine (arrive follows place.1 place.2).imp ?_
    rintro _ _ ⟨visit, rest, visited, visits, rfl⟩
    exact .enter (Play.start_of_findStart looked).2 visited visits
  | none =>
    refine .after fun waiting => ?_
    split
    · exact .idle (.setCursor _ _) rfl
    · exact .pure .nil

theorem followWithin (limit : Nat) : Follows (followWithin game limit) := by
  -- What is entered follows with one start less.
  induction limit with
  | zero =>
    refine .after fun waiting => ?_
    split
    · exact .pure ⟨.nil, fun _ => rfl⟩
    · exact .after_deed (.setCursor _ _) (.pure ⟨.idle rfl .nil, nofun⟩)
  | succ limit ih =>
    refine .after fun waiting => ?_
    cases waiting with
    | none => exact .pure ⟨.nil, fun _ => rfl⟩
    | some id =>
      refine .bind (enter ih id) (L := fun _ followed later => later = [] ∧ followed = true)
        (fun _ => .pure ⟨rfl, rfl⟩) ?_
      rintro _ _ deeds _ visits ⟨rfl, rfl⟩
      exact ⟨by rwa [List.append_nil], nofun⟩

theorem follow : Follows (follow game) :=
  followWithin _

theorem fireDialogue (location : Value) : Adds (fireDialogue game location) fun _ => Visits := by
  refine .after fun found => ?_
  cases found with
  | some dialogue => exact enter follow dialogue.id
  | none => exact .pure .nil

theorem fireInterlude (location : Value) : Adds (fireInterlude game location) fun _ => Visits := by
  refine .after fun found => ?_
  cases found with
  | some interlude =>
    refine .after fun state => .after_deed (.put rfl) ((perform _ _).imp ?_)
    rintro _ _ rfl
    exact .fire .nil
  | none => exact .pure .nil

theorem fireTriggers : Adds (fireTriggers game) fun _ => Visits :=
  .after fun _ => .after_visits (fireDialogue _) fun _ => fireInterlude _

theorem finish (trigger : String) : Adds (finish game trigger) fun _ => Visits :=
  .after_visits (follow.imp fun _ _ known => known.1) fun _ => .after fun _ => .after fun _ =>
    .after fun _ => .after fun _ => .after_deed (.put rfl) (.pure (.idle rfl .nil))

theorem load (save : Save) : Adds (load game save) fun _ => Visits :=
  .after fun _ => .put (.idle rfl .nil)

theorem travelAlong (travelMap : TravelMap) (origin destination : Marker) (location : Value) :
    Adds (travelAlong game travelMap origin destination location) fun _ => Visits :=
  .after_lift fun _ _ => .after fun _ => .after_visits (.put (.idle rfl .nil)) fun _ =>
    .after_visits (.idle (advanceClock _ _) rfl) fun _ => fireTriggers

theorem take (dialogue : Dialogue) (choice : Choice) (id : Value) :
    Adds (take game dialogue choice id) fun _ deeds => ∃ led later, deeds = led ++ later ∧
      dialogue.ChoiceVisit choice led ∧ Visits later := by
  refine .after_deed (.perform _ _) (.bind follow (L := fun followed _ later =>
    if followed then later = [] else dialogue.Reaches choice later) (fun followed => ?_) ?_)
  · cases followed with
    | true => exact .pure rfl
    | false =>
      have leaves : Adds endDialogue fun _ => dialogue.Reaches choice :=
        (setCursor _ _).imp fun _ _ => .inl
      by_cases present : choice.next.isPresent
      · simp only [present, if_true, Bool.false_eq_true, if_false]
        cases found : dialogue.findNode? choice.next with
        | none => exact leaves
        | some target =>
          exact (arrive follow dialogue target).imp fun _ _ arrives => .inr ⟨target, found, arrives⟩
      · simpa [present] using leaves
  · rintro followed _ deeds later ⟨visits, idle⟩ reaches
    cases followed with
    | true =>
      obtain rfl : later = [] := reaches
      exact ⟨_, deeds, by simp, .apply, visits⟩
    | false =>
      obtain rfl := idle rfl
      obtain rfl | ⟨target, found, visit, rest, visited, more, rfl⟩ := reaches
      · exact ⟨_, [.leave], rfl, .apply, .idle rfl .nil⟩
      · exact ⟨.apply choice.effects :: visit, rest, by simp, .visit found visited, more⟩

end Telling.Adds

namespace Telling

def Reports (game : Game) (call : Call) (telling : Telling α) : Prop :=
  ∀ account a last, telling account = .ok a last → ∃ led later,
    last.deeds = account.deeds ++ (led ++ later) ∧
      call.OwnDeeds game.registry account.session.state led ∧ Visits later

namespace Reports
variable {asked : Call}

theorem of_visits {telling : Telling α} (adds : Adds telling fun _ => Visits) :
    Reports game asked telling := by
  intro account a last returns
  obtain ⟨later, told, visits⟩ := adds account a last returns
  exact ⟨[], later, told, .nothing, visits⟩

theorem bind {first : Telling α} {next : α → Telling β} (early : Reports game asked first)
    (rest : ∀ a, Adds (next a) fun _ => Visits) : Reports game asked (first >>= next) := by
  intro account b last returns
  obtain ⟨a, between, starts, returns⟩ := Play.ok_of_bind returns
  obtain ⟨led, later, told, leads, visits⟩ := early account a between starts
  obtain ⟨more, toldMore, visitsMore⟩ := rest a between b last returns
  refine ⟨led, later ++ more, ?_, leads, visits.append visitsMore⟩
  rw [toldMore, told]
  simp only [List.append_assoc]

theorem after_current {name : String} {arguments : List (String × Value)}
    {next : Option (Dialogue × Node) → Telling α}
    (nowhere : Adds (next none) fun _ => Visits)
    (there : ∀ account : Account, ∀ dialogue node,
      View.currentNode? game.registry account.session.state.cursor = .ok (some (dialogue, node)) →
        ∀ a last, next (some (dialogue, node)) account = .ok a last → ∃ led later,
          last.deeds = account.deeds ++ (led ++ later) ∧
            asked.OwnDeeds game.registry account.session.state led ∧ Visits later) :
    Reports game asked (do
      Play.logAction game name arguments
      next (← Play.currentNode game)) := by
  intro account a last returns
  obtain ⟨logged, same, told, returns⟩ := ok_of_stays (.logAction _ _) returns
  obtain ⟨found, _, asked, returns⟩ := Play.ok_of_bind returns
  obtain ⟨session, asks, rfl⟩ := ok_of_silently asked
  obtain ⟨current, rfl⟩ := Play.current_of_ok asks
  rw [← same, ← told]
  cases found with
  | none => exact of_visits nowhere ⟨_, _⟩ a last returns
  | some place => exact there ⟨_, _⟩ place.1 place.2 current a last returns

theorem lead (action : Action) : Reports game (.action action) (lead game action) := by
  cases action with
  | newGame setup =>
    exact .of_visits (.after fun _ => .after_visits (.put (.idle rfl .nil)) fun _ =>
      .after fun _ => .fireTriggers)
  | load save => exact .of_visits (.load save)
  | loadRecord data => exact .of_visits (.after_lift fun save _ => .load save)
  | save => exact .of_visits (.pure .nil)
  | selectChoice id =>
    refine .after_current (.pure .nil) fun account dialogue node current a last returns => ?_
    dsimp only at returns
    cases chosen : node.findChoice? id with
    | none =>
      simp only [chosen] at returns
      cases returns
      exact ⟨[], [], by simp, .nothing, .nil⟩
    | some choice =>
      simp only [chosen] at returns
      obtain ⟨_, told, led, later, rfl, takes, visits⟩ := Adds.take dialogue choice id _ _ _ returns
      exact ⟨led, later, told, .choose current chosen takes, visits⟩
  | talkTo id =>
    refine .of_visits (.after fun _ => .after_lift fun found _ => ?_)
    cases found with
    | none => exact .pure .nil
    | some character =>
      dsimp only
      split
      · exact .enter .follow _
      · exact .pure .nil
  | continueDialogue =>
    refine .after_current (.pure .nil) fun account dialogue node current a last returns => ?_
    dsimp only at returns
    split at returns
    · next leaf =>
      obtain ⟨_, told, rfl | ⟨target, listed, rfl⟩⟩ := Adds.hop dialogue node _ _ _ returns
      · exact ⟨[], [.leave], told, .nothing, .idle rfl .nil⟩
      · exact ⟨_, [], told, .hop current (List.isEmpty_iff.mp leaf) listed, .nil⟩
    · cases returns
      exact ⟨[], [], by simp, .nothing, .nil⟩
  | takeItem item =>
    refine .of_visits (.after fun _ => .after fun state => .after_lift fun place _ => ?_)
    dsimp only
    split
    · exact .after_lift fun carried _ => .put (.idle rfl .nil)
    · exact .pure .nil
  | travelTo location =>
    refine .of_visits (.after fun _ => .after fun state => ?_)
    split
    · split
      · exact .travelAlong _ _ _ _
      · exact .pure .nil
    · exact .pure .nil
  | writeNote title text =>
    exact .of_visits (.after fun _ => .after fun _ => .after fun _ => .after fun _ =>
      .put (.idle rfl .nil))
  | deleteNote id =>
    exact .of_visits (.after fun _ => .after fun _ => .put (.idle rfl .nil))
  | setLocale locale =>
    exact .of_visits (.after fun _ => .after_lift fun _ _ => .after fun _ =>
      .put (.idle rfl .nil))
  | look => exact .of_visits (.pure .nil)
  | debug effects label =>
    intro account a last returns
    obtain ⟨logged, _, told, returns⟩ := ok_of_stays (.logAction _ _) returns
    obtain ⟨_, applied, rfl⟩ := Adds.perform effects _ logged a last returns
    exact ⟨_, [], by rw [applied, told]; rfl, .debug, .nil⟩

theorem act (action : Action) : Reports game (.action action) (Telling.act game action) := by
  have ends {action : Action} : Reports game (.action action) (do
      Telling.lead game action
      return Reply.view (← finish game (trigger action))) :=
    .bind (.lead action) fun _ => .after_visits (.finish _) fun _ => .pure .nil
  cases action with
  | save => exact .of_visits (.after fun _ => .pure .nil)
  | _ => exact ends

theorem change (label : String) (command : Command) :
    Adds (Telling.change game label command) fun _ => Visits :=
  .after fun _ => .after_visits (.idle (.alter _ _ _) rfl) fun _ =>
    .after_visits (.finish _) fun _ => .pure .nil

theorem run (command : Command) : Adds (Telling.run game command) fun _ => Visits := by
  cases command with
  | setFlag | clearFlag | setVariable | setQuestStage => exact change _ _
  | teleport location =>
    refine .after_lift fun found _ => ?_
    cases found with
    | none => exact .silent fun _ => .nil
    | some known => exact change _ _
  | triggerDialogue dialogue =>
    refine .after_lift fun found _ => ?_
    cases found with
    | none => exact .silent fun _ => .nil
    | some place => exact change _ _
  | addItem item =>
    refine .after fun state => ?_
    split
    · exact .silent fun _ => .nil
    · exact change _ _
  | removeItem item =>
    refine .after fun state => ?_
    split
    · exact change _ _
    · exact .silent fun _ => .nil
  | getVariable | inspect => exact .silent fun _ => .nil
  | inspectState =>
    show Adds (silently (Play.run game .inspectState)) _
    exact .silent fun _ => .nil
  | inspectRegistry =>
    show Adds (silently (Play.run game .inspectRegistry)) _
    exact .silent fun _ => .nil

theorem runLine (line : String) : Adds (Telling.runLine game line) fun _ => Visits := by
  refine .after_lift fun words _ => ?_
  cases words with
  | nil => exact .silent fun _ => .nil
  | cons name words =>
    dsimp only
    split
    · exact .silent fun _ => .nil
    · refine .after_lift fun arguments _ => ?_
      cases Command.of? name arguments with
      | some command => exact .after fun _ => run command
      | none => exact .silent fun _ => .nil

theorem call (call : Call) : Reports game call (Telling.call game call) := by
  cases call with
  | action action => exact .act action
  | command command => exact .of_visits (run command)
  | line line => exact .of_visits (runLine line)

end Reports
end Telling

end Fabula
