import Fabula.Proofs.Script.Reading
import Fabula.Proofs.Session.Hop
import Fabula.Proofs.Session.Visit
/-!
# Arrivals and hops

A call comes to a node by arriving there or by a hop. It arrives at the start of a dialogue that it
enters and at the target of a choice that it takes, and each time the effects of the node are
applied, once and at once. A hop only moves the cursor: nothing is applied at its target. Main
statements:

* `Attended.of_ownDeeds`: what follows arrivals and hops;
* `arrival_of_deed`: in no other way does the cursor come to a node;
* `visits_of_call`: what a call applies at the nodes that it comes to.
-/

namespace Fabula
variable {game : Game}

def Pauses (deeds : List Deed) : Prop :=
  ∀ effects, deeds.head? ≠ some (.apply effects)

/-- Whether the effects of a node are applied wherever it is arrived at, once and at once, and none
where a hop comes to it. -/
structure Attended (deeds : List Deed) : Prop where
  arrive {early late : List Deed} {dialogue : Dialogue} {node : Node}
    (split : deeds = early ++ .arrive dialogue node :: late) :
    ∃ rest, late = .apply node.effects :: rest ∧ Pauses rest
  hop {early late : List Deed} {dialogue : Dialogue} {target : Value}
    (split : deeds = early ++ .hop dialogue target :: late) : Pauses late

namespace Attended
variable {rest : List Deed}

theorem nil : Attended [] where
  arrive split := by simp at split
  hop split := by simp at split

theorem cons {deed : Deed} (attended : Attended rest)
    (arrives : ∀ dialogue node, deed = .arrive dialogue node →
      ∃ more, rest = .apply node.effects :: more ∧ Pauses more)
    (hops : ∀ dialogue target, deed = .hop dialogue target → Pauses rest) :
    Attended (deed :: rest) where
  arrive {early late dialogue node} split := by
    cases early with
    | nil =>
      obtain ⟨rfl, rfl⟩ := List.cons.inj split
      exact arrives dialogue node rfl
    | cons _ early => exact attended.arrive (List.cons.inj split).2
  hop {early late dialogue target} split := by
    cases early with
    | nil =>
      obtain ⟨rfl, rfl⟩ := List.cons.inj split
      exact hops dialogue target rfl
    | cons _ early => exact attended.hop (List.cons.inj split).2

theorem apply (attended : Attended rest) (effects : List Effect) :
    Attended (.apply effects :: rest) :=
  attended.cons (fun _ _ other => by cases other) fun _ _ other => by cases other

theorem hopped (attended : Attended rest) (pauses : Pauses rest) (dialogue : Dialogue)
    (target : Value) : Attended (.hop dialogue target :: rest) :=
  attended.cons (fun _ _ other => by cases other) fun _ _ _ => pauses

theorem arrived (attended : Attended rest) (pauses : Pauses rest) (dialogue : Dialogue)
    (node : Node) : Attended (.arrive dialogue node :: .apply node.effects :: rest) := by
  refine (attended.apply _).cons ?_ fun _ _ other => by cases other
  rintro _ _ ⟨⟩
  exact ⟨rest, rfl, pauses⟩

theorem visited {dialogue : Dialogue} {node : Node} {visit : List Deed} (attended : Attended rest)
    (pauses : Pauses rest) (visited : dialogue.Visit node visit) :
    Attended (visit ++ rest) ∧ Pauses (visit ++ rest) := by
  have begins {more : List Deed} : Pauses (.arrive dialogue node :: more) := by simp [Pauses]
  cases visited with
  | stay => exact ⟨attended.arrived pauses dialogue node, begins⟩
  | @hop target leaf listed =>
    have hops : Pauses (.hop dialogue target :: rest) := by simp [Pauses]
    exact ⟨(attended.hopped pauses dialogue target).arrived hops dialogue node, begins⟩

theorem of_visits {deeds : List Deed} (visits : Visits deeds) :
    Attended deeds ∧ Pauses deeds := by
  induction visits with
  | nil => exact ⟨.nil, by simp [Pauses]⟩
  | @idle deed rest idle _ ih =>
    refine ⟨ih.1.cons ?_ ?_, ?_⟩
    · rintro _ _ rfl
      cases idle
    · rintro _ _ rfl
      cases idle
    · rintro effects head
      cases head
      cases idle
  | enter _ visited _ ih => exact ih.1.visited ih.2 visited
  | fire _ ih =>
    refine ⟨(ih.1.apply _).cons ?_ ?_, by simp [Pauses]⟩
    · rintro _ _ ⟨⟩
    · rintro _ _ ⟨⟩

theorem of_ownDeeds {registry : Registry} {state : GameState} {call : Call} {led later : List Deed}
    (leads : call.OwnDeeds registry state led) (visits : Visits later) :
    Attended (led ++ later) := by
  obtain ⟨attended, pauses⟩ := of_visits visits
  cases leads with
  | nothing => exact attended
  | debug => exact attended.apply _
  | choose _ _ takes =>
    cases takes with
    | apply => exact attended.apply _
    | visit _ visited => exact (attended.visited pauses visited).1.apply _
  | hop => exact attended.hopped pauses _ _

end Attended

theorem place_of_steer {effects : List Effect} {cursor : Option Cursor} {place : Cursor}
    (steered : effects.foldl Effect.steer cursor = some place) :
    cursor = some place ∨ place.needsStart := by
  induction effects generalizing cursor with
  | nil => exact .inl steered
  | cons effect rest ih =>
    obtain steered | starts := ih steered
    · cases effect with
      | startDialogue dialogue =>
        cases steered
        exact .inr (by simp [Cursor.starting, Cursor.needsStart])
      | endDialogue => cases steered
      | _ => exact .inl steered
    · exact .inr starts

theorem arrival_of_deed {deed : Deed} {before after : GameState} {place : Cursor}
    (does : deed.Meaning game before after) (placed : after.cursor = some place)
    (moved : before.cursor ≠ some place) (entered : place.needsStart = false) :
    (∃ dialogue node, deed = .arrive dialogue node ∧ place = ⟨dialogue.id, node.id⟩) ∨
      ∃ dialogue target, deed = .hop dialogue target ∧ place = ⟨dialogue.id, target⟩ := by
  cases does with
  | apply applies =>
    rw [(meaning_of_applyAll applies).cursor] at placed
    obtain same | starts := place_of_steer placed
    · exact absurd same moved
    · simp [entered] at starts
  | arrive =>
    cases placed
    exact .inl ⟨_, _, rfl, rfl⟩
  | hop =>
    cases placed
    exact .inr ⟨_, _, rfl, rfl⟩
  | leave | depart => cases placed
  | carry carries =>
    obtain ⟨_, _, rfl⟩ := carryItem_eq carries
    exact absurd placed moved
  | @command command _ _ updates =>
    rw [(Command.meaning_of_update updates).2] at placed
    cases command with
    | triggerDialogue dialogue =>
      cases placed
      simp [Cursor.starting, Cursor.needsStart] at entered
    | _ => exact absurd placed moved
  | fire | wait | write | delete | translate => exact absurd placed moved

namespace Script

/-- Whether a node is that of a section of a source and has the effects of all its clauses. -/
def Describes (source : String) (node : Node) : Prop :=
  ∃ header parts, Layout (tokenize source.toList) header parts ∧ ∃ part ∈ parts, ∃ id clauses,
    part.opener.Phrase "NODE" [id] ∧ Items id part.tokens clauses ∧ node.id = .text id ∧
      node.effects = clauses.flatMap Clause.effects

theorem describes_of_compile {id : Value} {source : String} {dialogue : Dialogue} {node : Node}
    (compiles : compile id source = .ok dialogue) (listed : node ∈ dialogue.nodes) :
    Describes source node := by
  obtain ⟨layout, _, _, sections, _, _⟩ := readTokens_eq_ok.mp compiles
  obtain ⟨part, member, isNode⟩ := exists_of_mem sections listed
  obtain ⟨opener, items, _, _, _⟩ := isNode
  exact ⟨_, _, layout, part, member, _, _, opener, items, rfl, rfl⟩

end Script

/-- What is known where deeds that lead from one state to another come to a node. Where it is
arrived at, its effects are applied to the state with the cursor there, once and at once; if the
dialogue is compiled, they are those that its source describes. A hop moves the cursor and applies
nothing. In no other way does the cursor come to a node. -/
structure NodeArrivals (game : Game) (start : GameState) (deeds : List Deed) (shown : GameState) :
    Prop where
  arrive {early late : List Deed} {dialogue : Dialogue} {node : Node}
    (split : deeds = early ++ .arrive dialogue node :: late) :
    ∃ before after roller rolled rest, Path game start early before ∧
      late = .apply node.effects :: rest ∧
      Effect.applyAll { before with cursor := some ⟨dialogue.id, node.id⟩ } node.effects roller =
        .ok after rolled ∧
      Path game after rest shown ∧ Pauses rest
  compiled {early late : List Deed} {dialogue : Dialogue} {node : Node}
    (split : deeds = early ++ .arrive dialogue node :: late) {id : Value} {source : String}
    (compiles : Script.compile id source = .ok dialogue) : Script.Describes source node
  hop {early late : List Deed} {dialogue : Dialogue} {target : Value}
    (split : deeds = early ++ .hop dialogue target :: late) :
    ∃ before, Path game start early before ∧
      Path game { before with cursor := some ⟨dialogue.id, target⟩ } late shown ∧ Pauses late
  only {early late : List Deed} {deed : Deed} {before after : GameState} {place : Cursor}
    (split : deeds = early ++ deed :: late) (does : deed.Meaning game before after)
    (placed : after.cursor = some place) (moved : before.cursor ≠ some place)
    (entered : place.needsStart = false) :
    (∃ dialogue node, deed = .arrive dialogue node ∧ place = ⟨dialogue.id, node.id⟩) ∨
      ∃ dialogue target, deed = .hop dialogue target ∧ place = ⟨dialogue.id, target⟩

theorem Pauses.of_append {deeds later : List Deed} (pauses : Pauses (deeds ++ later)) :
    Pauses deeds := by
  cases deeds with
  | nil => exact nofun
  | cons deed rest => exact pauses

theorem Attended.inner {opening deeds : List Deed}
    (attended : Attended (opening ++ deeds ++ [.clear])) : Attended deeds where
  arrive {early late dialogue node} split := by
    have whole : opening ++ deeds ++ [.clear] =
        (opening ++ early) ++ .arrive dialogue node :: (late ++ [.clear]) := by simp [split]
    obtain ⟨rest, last, pauses⟩ := attended.arrive whole
    cases late with
    | nil => cases last
    | cons deed late =>
      obtain ⟨rfl, rfl⟩ := List.cons.inj last
      exact ⟨late, rfl, pauses.of_append⟩
  hop {early late dialogue target} split := by
    have whole : opening ++ deeds ++ [.clear] =
        (opening ++ early) ++ .hop dialogue target :: (late ++ [.clear]) := by simp [split]
    exact (attended.hop whole).of_append

theorem nodeArrivals_of_path {start shown : GameState} {deeds : List Deed}
    (path : Path game start deeds shown) (attended : Attended deeds) :
    NodeArrivals game start deeds shown where
  arrive {early late dialogue node} split := by
    obtain ⟨rest, rfl, pauses⟩ := attended.arrive split
    rw [split] at path
    obtain ⟨before, first, path⟩ := path.split
    cases path with
    | cons arrives path =>
      cases arrives
      cases path with
      | cons applies path =>
        cases applies with
        | apply applies => exact ⟨before, _, _, _, rest, first, rfl, applies, path, pauses⟩
  compiled {early late dialogue node} split id source compiles := by
    rw [split] at path
    obtain ⟨before, _, path⟩ := path.split
    cases path with
    | cons arrives _ =>
      cases arrives with
      | arrive _ listed => exact Script.describes_of_compile compiles listed
  hop {early late dialogue target} split := by
    have pauses := attended.hop split
    rw [split] at path
    obtain ⟨before, first, path⟩ := path.split
    cases path with
    | cons hops path =>
      cases hops
      exact ⟨before, first, path, pauses⟩
  only _ := arrival_of_deed

/-- A call that returns either shows no view and leaves the state alone, or it does something of
its own and then visits nodes, and what is known where its deeds come to a node holds throughout. -/
theorem visits_of_call {call : Call} {session next : Session} {reply : Reply}
    (returns : Play.call game call session = .ok reply next) :
    ((∀ view, reply ≠ .view view) ∧ next.state = session.state) ∨
      ∃ view opening deeds start shown led later, reply = .view view ∧
        CallMeaning game call session next view opening deeds start shown ∧
        opening ++ deeds ++ [.clear] = led ++ later ∧
        call.OwnDeeds game.registry session.state led ∧ Visits later ∧
        NodeArrivals game start deeds shown := by
  by_cases plain : ∀ view, reply ≠ .view view
  · exact .inl ⟨plain, (Answering.call call).state_of_plain _ _ _ returns plain⟩
  · obtain ⟨view, shows⟩ := not_forall.mp plain
    obtain rfl := not_not.mp shows
    obtain ⟨opening, deeds, start, shown, told⟩ := meaning_of_call returns
    obtain ⟨led, later, all, leads, visits⟩ := Telling.Reports.call call _ _ _ told.tells
    have attended : Attended (opening ++ deeds ++ [.clear]) := by
      rw [show opening ++ deeds ++ [.clear] = led ++ later from all]
      exact .of_ownDeeds leads visits
    exact .inr ⟨view, opening, deeds, start, shown, led, later, rfl, told, all, leads, visits,
      nodeArrivals_of_path told.path attended.inner⟩

/-- The keeper's dialogue starts on a porch, which leads to a hall and from there to a yard. Each
sets a flag, and only the yard has a choice. -/
def gateContent : Value :=
  .object [
    ("characters", .list [.object [("id", "keeper"), ("dialogue", "gate")]]),
    ("dialogues", .list [.object [("id", "gate"), ("nodes", .list [
      .object [("id", "porch"), ("effects", .list ["SET flag porch"]), ("next", "hall")],
      .object [("id", "hall"), ("effects", .list ["SET flag hall"]), ("next", "yard")],
      .object [("id", "yard"), ("effects", .list ["SET flag yard"]),
        ("choices", .list [.object [("id", "bye")]])]])]])]

def porch : Node :=
  { guideNode with id := "porch", choices := [], effects := [.setFlag "porch"], next := "hall" }

def hall : Node :=
  { guideNode with id := "hall", choices := [], effects := [.setFlag "hall"], next := "yard" }

def yard : Node :=
  { guideNode with id := "yard", effects := [.setFlag "yard"] }

def gate : Dialogue :=
  ⟨"gate", "porch", [porch, hall, yard], .null, []⟩

def gateGame : Game :=
  { guideGame with
    registry := { guideRegistry with
      characters := ⟨[(.text "keeper", ⟨"keeper", "keeper", "", "", "", "gate", ∅⟩)]⟩
      dialogues := ⟨[(.text "gate", gate)]⟩ } }

def gateSession : Session :=
  .new gateGame guideRoller 0

def hallSession : Session :=
  (outcome (Play.talkTo gateGame "keeper") gateSession).2

def yardSession : Session :=
  (outcome (Play.continueDialogue gateGame) hallSession).2

theorem gate_read : Registry.ofRecord gateContent = .ok gateGame.registry := rfl

theorem gate_talks : ∃ view,
    Play.call gateGame (.action (.talkTo "keeper")) gateSession = .ok (.view view) hallSession := by
  have returns : (outcome (Play.talkTo gateGame "keeper") gateSession).1.isOk := by decide +kernel
  obtain ⟨view, talks⟩ := ok_of_outcome returns
  exact ⟨view, Play.bind_of_ok talks⟩

theorem visits_of_call_gate : ∃ view opening deeds start shown led later,
    Play.call gateGame (.action (.talkTo "keeper")) gateSession = .ok (.view view) hallSession ∧
      CallMeaning gateGame (.action (.talkTo "keeper")) gateSession hallSession view opening deeds
        start
        shown ∧
      opening ++ deeds ++ [.clear] = led ++ later ∧
      Call.OwnDeeds gateGame.registry gateSession.state (.action (.talkTo "keeper")) led ∧
      Visits later ∧ NodeArrivals gateGame start deeds shown := by
  obtain ⟨view, talks⟩ := gate_talks
  obtain ⟨plain, _⟩ | ⟨_, opening, deeds, start, shown, led, later, same, known⟩ :=
    visits_of_call talks
  · exact absurd rfl (plain view)
  · cases same
    exact ⟨view, opening, deeds, start, shown, led, later, talks, known⟩

/-- Talking to the keeper leads from the porch to the hall, and continuing leads to the yard. The
flag of the porch is set then, but neither that of the hall nor that of the yard. -/
theorem hops_unattended : Registry.ofRecord gateContent = .ok gateGame.registry ∧
    (∃ view, Play.call gateGame (.action (.talkTo "keeper")) gateSession =
      .ok (.view view) hallSession) ∧
    (∃ view, Play.call gateGame (.action .continueDialogue) hallSession =
      .ok (.view view) yardSession) ∧
    hallSession.state.cursor = some ⟨"gate", "hall"⟩ ∧ gate.findNode? "hall" = some hall ∧
    yardSession.state.cursor = some ⟨"gate", "yard"⟩ ∧ gate.findNode? "yard" = some yard ∧
    hall.effects = [.setFlag "hall"] ∧ yard.effects = [.setFlag "yard"] ∧
    (∀ flag state roller after rolled,
      Effect.applyAll state [.setFlag flag] roller = .ok after rolled →
        (after.flags.find? (.text flag)).isSome) ∧
    (yardSession.state.flags.find? (.text "porch")).isSome ∧
    hallSession.state.flags.find? (.text "hall") = none ∧
    yardSession.state.flags.find? (.text "hall") = none ∧
    yardSession.state.flags.find? (.text "yard") = none := by
  have continues : ∃ view, Play.call gateGame (.action .continueDialogue) hallSession =
      .ok (.view view) yardSession := by
    have returns : (outcome (Play.continueDialogue gateGame) hallSession).1.isOk := by
      decide +kernel
    obtain ⟨view, continued⟩ := ok_of_outcome returns
    exact ⟨view, Play.bind_of_ok continued⟩
  have inHall : Cursor.sameOption hallSession.state.cursor (some ⟨"gate", "hall"⟩) := by
    decide +kernel
  have inYard : Cursor.sameOption yardSession.state.cursor (some ⟨"gate", "yard"⟩) := by
    decide +kernel
  have flags : (yardSession.state.flags.find? (.text "porch")).isSome ∧
      (hallSession.state.flags.find? (.text "hall")).isNone ∧
      (yardSession.state.flags.find? (.text "hall")).isNone ∧
      (yardSession.state.flags.find? (.text "yard")).isNone := by
    decide +kernel
  simp only [Option.isNone_iff_eq_none] at flags
  refine ⟨gate_read, gate_talks, continues, eq_of_sameOption_texts inHall, rfl,
    eq_of_sameOption_texts inYard, rfl, rfl, rfl, ?_, flags⟩
  rintro flag state roller _ _ ⟨⟩
  simp [GameState.setFlag]

end Fabula
