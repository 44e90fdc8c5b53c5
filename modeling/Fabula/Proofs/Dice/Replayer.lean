import Mathlib.Data.List.Basic
import Fabula.Proofs.Dice.Rolling
/-!
# Replaying and rolling on

A roller that replays has two sources of numbers: first its recording, then a live one. The live
source is that of a plain roller which is asked only for the draws that are not replayed; replayed
draws do not move it. Main statements:

* `totals_spent`: a roller whose recording is used up or stopped draws like a plain one;
* `totals_replaying`: before that it hands out the recording;
* `recording_after`, `draws_after`: what it knows about both afterwards;
* `replays_then_rolls`: all of this for a new roller and any calls.
-/

namespace Fabula

/-- What a draw is answered with if nobody listens to it. -/
def Draw.answer (draw : Draw) : Except Failure Value :=
  if draw.isWritable then .ok draw.total else .error (.unsuitable .unwritable)

namespace Roller

structure Ask where
  a : Int
  b : Int
  reason : Value

namespace Ask

def entry (ask : Ask) (total : Value) : Draw :=
  ⟨min ask.a ask.b, max ask.a ask.b, total, ask.reason⟩

def Admits (ask : Ask) (total : Value) : Prop :=
  ∃ n : Int, total = .int n ∧ min ask.a ask.b ≤ n ∧ n ≤ max ask.a ask.b

theorem answer_entry {ask : Ask} {total : Value} (admits : ask.Admits total)
    (bounded : (ask.entry total).isBounded) (told : ask.reason.isWritable) :
    (ask.entry total).answer = .ok total := by
  obtain ⟨n, rfl, above, below⟩ := admits
  have bounds : Number.isWritable (.int (min ask.a ask.b)) ∧
      Number.isWritable (.int (max ask.a ask.b)) := Bool.and_eq_true_iff.mp bounded
  have written := Number.isWritable_of_between above below bounds.1 bounds.2
  rw [Draw.answer, Draw.isWritable, bounded]
  simp only [entry, Value.int, Value.isWritable, written, told, Bool.and_self, if_true]

end Ask

inductive Call where
  | draw (ask : Ask)
  | reseed (seed : Value) (entropy : Nat)
  | stop
  | clear

namespace Call

def answer? (roller : Roller) : Call → Option (Except Failure Value)
  | .draw ask => some (outcome (Rolling.roll ask.a ask.b ask.reason) roller).1
  | _ => none

def next (roller : Roller) : Call → Roller
  | .draw ask => (outcome (Rolling.roll ask.a ask.b ask.reason) roller).2
  | .reseed seed entropy => (outcome (Rolling.reseed seed entropy) roller).2
  | .stop => roller.stopReplay
  | .clear => roller.clearLog

def total? (roller : Roller) : Call → Option Value
  | .draw ask => some (roller.roll ask.a ask.b ask.reason).1
  | _ => none

def keeps (kept : Nat) : Call → Nat
  | .draw _ => kept + 1
  | .clear => 0
  | _ => kept

end Call

def after (roller : Roller) (calls : List Call) : Roller :=
  calls.foldl Call.next roller

theorem after_cons (roller : Roller) (call : Call) (rest : List Call) :
    roller.after (call :: rest) = (call.next roller).after rest := rfl

def answers (roller : Roller) : List Call → List (Except Failure Value)
  | [] => []
  | call :: rest => (call.answer? roller).toList ++ answers (call.next roller) rest

def totals (roller : Roller) : List Call → List Value
  | [] => []
  | call :: rest => (call.total? roller).toList ++ totals (call.next roller) rest

def asks : List Call → List Ask
  | [] => []
  | .draw ask :: rest => ask :: asks rest
  | .reseed .. :: rest | .stop :: rest | .clear :: rest => asks rest

/-- How many draws are made before the first stop. -/
def early : List Call → Nat
  | [] | .stop :: _ => 0
  | .draw _ :: rest => early rest + 1
  | .reseed .. :: rest | .clear :: rest => early rest

/-- How many draws are made after the last clearing. -/
def kept (calls : List Call) : Nat :=
  calls.foldl Call.keeps 0

/-- The draws and seeds that are left without the first so many draws. -/
def live : Nat → List Call → List Call
  | _, [] => []
  | skipped + 1, .draw _ :: rest => live skipped rest
  | 0, .draw ask :: rest => .draw ask :: live 0 rest
  | skipped, .reseed seed entropy :: rest => .reseed seed entropy :: live skipped rest
  | skipped, .stop :: rest | skipped, .clear :: rest => live skipped rest

variable {roller plain : Roller} {seed : Value} {entropy : Nat}

theorem next_draw (ask : Ask) (roller : Roller) :
    (Call.draw ask).next roller = (roller.roll ask.a ask.b ask.reason).2 := by
  rw [Call.next, outcome_roll]

def reseeded (seed : Value) (entropy : Nat) (source : Twister) : Twister :=
  match seed.seed entropy with
  | .ok n => .ofSeed n
  | .error _ => source

theorem next_reseed (seed : Value) (entropy : Nat) (roller : Roller) :
    (Call.reseed seed entropy).next roller =
      { roller with seed, source := reseeded seed entropy roller.source } := by
  simp only [Call.next, Rolling.reseed, reseeded]
  cases seed.seed entropy <;> rfl

theorem next_reseed_recording (seed : Value) (entropy : Nat) (roller : Roller) :
    ((Call.reseed seed entropy).next roller).recording = roller.recording := by
  rw [next_reseed]

theorem next_reseed_source (same : plain.source = roller.source) (seed : Value) (entropy : Nat) :
    ((Call.reseed seed entropy).next plain).source =
      ((Call.reseed seed entropy).next roller).source := by
  rw [next_reseed, next_reseed, same]

theorem announce_unheard (unheard : roller.refusal = none) (draw : Draw) :
    (fun _ => draw.total) <$> roller.announce draw = draw.answer := by
  simp only [announce, unheard, Draw.answer]
  cases draw.isWritable <;> rfl

theorem answer_draw (unheard : roller.refusal = none) (ask : Ask) :
    (outcome (Rolling.roll ask.a ask.b ask.reason) roller).1 =
      (ask.entry (roller.roll ask.a ask.b ask.reason).1).answer := by
  rw [outcome_roll]
  exact announce_unheard unheard (ask.entry _)

theorem next_refusal (unheard : roller.refusal = none) (call : Call) :
    (call.next roller).refusal = none := by
  cases call with
  | draw ask => rw [next_draw, roll_refusal, unheard]
  | reseed seed entropy => rw [next_reseed, unheard]
  | stop => exact unheard
  | clear => exact unheard

theorem answers_eq (unheard : roller.refusal = none) (calls : List Call) :
    answers roller calls =
      (List.zipWith Ask.entry (asks calls) (totals roller calls)).map Draw.answer := by
  induction calls generalizing roller with
  | nil => rfl
  | cons call rest ih =>
    rw [answers, totals, ih (next_refusal unheard call)]
    cases call with
    | draw ask => rw [Call.answer?, answer_draw unheard, Call.total?]; rfl
    | reseed | stop | clear => rfl

def Spent (roller : Roller) : Prop :=
  ∀ recording, roller.recording = some recording →
    recording.stopped = true ∨ recording.stream.length ≤ recording.position

theorem spent_of_none (unrecorded : roller.recording = none) : roller.Spent := by
  intro recording recorded
  cases unrecorded.symm.trans recorded

theorem stopReplay_spent (roller : Roller) : roller.stopReplay.Spent := by
  intro recording recorded
  obtain ⟨_, _, rfl⟩ := Option.map_eq_some_iff.mp recorded
  exact .inl rfl

theorem draw_spent (spent : roller.Spent) (low high : Int) :
    (roller.draw low high).1 = .int (roller.drawLive low high).1 ∧
      (roller.draw low high).2.source = (roller.drawLive low high).2.source ∧
      (roller.draw low high).2.Spent := by
  obtain ⟨seed, source, log, recording, refusal⟩ := roller
  cases recording with
  | none => exact ⟨rfl, rfl, spent⟩
  | some recording =>
    obtain ⟨stream, position, overruns, stopped⟩ := recording
    cases stopped with
    | true => exact ⟨rfl, rfl, spent⟩
    | false =>
      have past : stream.length ≤ position := by simpa using spent _ rfl
      have nothing : stream[position]? = none := List.getElem?_eq_none past
      simp only [draw, drawLive, nothing]
      refine ⟨rfl, rfl, ?_⟩
      intro recording recorded
      cases recorded
      exact .inr past

theorem next_spent (spent : roller.Spent) (call : Call) : (call.next roller).Spent := by
  cases call with
  | draw ask =>
    rw [next_draw]
    exact (draw_spent spent _ _).2.2
  | reseed seed entropy =>
    rw [next_reseed]
    exact spent
  | stop => exact stopReplay_spent roller
  | clear => exact spent

theorem drawLive_source (same : plain.source = roller.source) (low high : Int) :
    (plain.drawLive low high).1 = (roller.drawLive low high).1 ∧
      (plain.drawLive low high).2.source = (roller.drawLive low high).2.source := by
  simp [drawLive, same]

theorem roll_spent (spent : roller.Spent) (plainly : plain.Spent)
    (same : plain.source = roller.source) (a b : Int) (reason : Value) :
    (plain.roll a b reason).1 = (roller.roll a b reason).1 ∧
      (plain.roll a b reason).2.source = (roller.roll a b reason).2.source := by
  obtain ⟨total, source, _⟩ := draw_spent spent (min a b) (max a b)
  obtain ⟨total', source', _⟩ := draw_spent plainly (min a b) (max a b)
  obtain ⟨sameTotal, sameSource⟩ := drawLive_source same (min a b) (max a b)
  show (plain.draw _ _).1 = (roller.draw _ _).1 ∧
    (plain.draw _ _).2.source = (roller.draw _ _).2.source
  rw [total, total', sameTotal, source, source', sameSource]
  exact ⟨rfl, rfl⟩

theorem totals_spent (spent : roller.Spent) (plainly : plain.Spent)
    (same : plain.source = roller.source) (calls : List Call) :
    totals roller calls = totals plain (live 0 calls) := by
  induction calls generalizing roller plain with
  | nil => rfl
  | cons call rest ih =>
    have goesOn := next_spent spent call
    cases call with
    | draw ask =>
      obtain ⟨handed, moved⟩ := roll_spent spent plainly same ask.a ask.b ask.reason
      rw [← next_draw, ← next_draw] at moved
      simp only [live, totals, Call.total?, handed]
      rw [ih goesOn (next_spent plainly _) moved]
    | reseed seed entropy =>
      simp only [live, totals, Call.total?]
      rw [ih goesOn (next_spent plainly _) (next_reseed_source same seed entropy)]
    | stop => exact ih goesOn plainly same
    | clear => exact ih goesOn plainly same

theorem roll_replaying {stream : List Value} {position overruns : Nat} {total : Value}
    (recorded : roller.recording = some ⟨stream, position, overruns, false⟩)
    (found : stream[position]? = some total) (a b : Int) (reason : Value) :
    (roller.roll a b reason).1 = total ∧
      (roller.roll a b reason).2.source = roller.source ∧
      (roller.roll a b reason).2.recording = some ⟨stream, position + 1, overruns, false⟩ := by
  simp [roll, draw, recorded, found]

theorem totals_replaying {stream : List Value} {position overruns : Nat}
    (recorded : roller.recording = some ⟨stream, position, overruns, false⟩)
    (plainly : plain.Spent) (same : plain.source = roller.source) (calls : List Call) :
    let replayed := min (early calls) (stream.length - position)
    totals roller calls =
      (stream.drop position).take replayed ++ totals plain (live replayed calls) := by
  induction calls generalizing roller plain position overruns with
  | nil => simp [totals, live, early]
  | cons call rest ih =>
    -- A recording that is used up is the live case; otherwise the next draw is replayed and `plain`
    -- stays where it is.
    by_cases past : stream.length ≤ position
    · have none : stream.length - position = 0 := by omega
      have spent : roller.Spent := by
        intro recording found
        cases recorded.symm.trans found
        exact .inr past
      simp [none, totals_spent spent plainly same]
    cases call with
    | draw ask =>
      have inside : position < stream.length := by omega
      obtain ⟨handed, still, goesOn⟩ :=
        roll_replaying recorded (List.getElem?_eq_getElem inside) ask.a ask.b ask.reason
      rw [← next_draw] at still goesOn
      have one : min (early rest + 1) (stream.length - position) =
          min (early rest) (stream.length - (position + 1)) + 1 := by omega
      simp only [early, one, totals, Call.total?, handed, live]
      rw [ih goesOn plainly (same.trans still.symm), List.drop_eq_getElem_cons inside]
      rfl
    | reseed seed entropy =>
      simp only [early, totals, Call.total?, live]
      rw [ih ((next_reseed_recording seed entropy roller).trans recorded) (next_spent plainly _)
        (next_reseed_source same seed entropy)]
      rfl
    | stop =>
      have spent : ((Call.stop).next roller).Spent := stopReplay_spent roller
      simpa [early, totals, Call.total?, live] using totals_spent spent plainly same rest
    | clear =>
      simp only [early, totals, Call.total?, live]
      exact ih recorded plainly same

theorem asks_draws (draws : List Ask) : asks (draws.map .draw) = draws := by
  induction draws with
  | nil => rfl
  | cons ask rest ih => exact congrArg (ask :: ·) ih

theorem early_draws (draws : List Ask) : early (draws.map .draw) = draws.length := by
  induction draws with
  | nil => rfl
  | cons ask rest ih => exact congrArg (· + 1) ih

theorem live_draws (draws : List Ask) : live draws.length (draws.map .draw) = [] := by
  induction draws with
  | nil => rfl
  | cons ask rest ih => exact ih

theorem answers_recording {stream : List Value}
    (recorded : roller.recording = some (.replayed [] stream)) (unheard : roller.refusal = none)
    {draws : List Ask} (enough : draws.length = stream.length) :
    answers roller (draws.map .draw) = (List.zipWith Ask.entry draws stream).map Draw.answer := by
  let plain : Roller := { roller with recording := none }
  have plainly : plain.Spent := spent_of_none rfl
  have replayed := totals_replaying recorded plainly rfl (draws.map .draw)
  simp only [early_draws, enough, List.nil_append, List.length_nil, Nat.sub_zero, Nat.min_self,
    List.drop_zero, List.take_length] at replayed
  rw [answers_eq unheard, replayed, ← enough, live_draws, totals, List.append_nil, asks_draws]

theorem asks_live (skipped : Nat) (calls : List Call) :
    asks (live skipped calls) = (asks calls).drop skipped := by
  induction calls generalizing skipped with
  | nil => simp [asks, live]
  | cons call rest ih =>
    cases call with
    | draw ask =>
      cases skipped with
      | zero => exact congrArg (ask :: ·) (ih 0)
      | succ skipped => exact ih skipped
    | reseed | stop | clear => exact ih skipped

theorem totals_length (roller : Roller) (calls : List Call) :
    (totals roller calls).length = (asks calls).length := by
  induction calls generalizing roller with
  | nil => rfl
  | cons call rest ih =>
    cases call with
    | draw ask => exact congrArg (· + 1) (ih _)
    | reseed | stop | clear => exact ih _

theorem drawLive_within {low high : Int} (inOrder : low ≤ high) (roller : Roller) :
    low ≤ (roller.drawLive low high).1 ∧ (roller.drawLive low high).1 ≤ high := by
  have positive : 0 < (high - low + 1).toNat := by omega
  have below := Twister.belowWithin_lt positive Twister.attempts roller.source
  show low ≤ low + ((roller.source.below (high - low + 1).toNat).1 : Int) ∧
    low + ((roller.source.below (high - low + 1).toNat).1 : Int) ≤ high
  rw [Twister.below]
  omega

theorem totals_admitted (spent : roller.Spent) (calls : List Call) :
    List.Forall₂ Ask.Admits (asks calls) (totals roller calls) := by
  induction calls generalizing roller with
  | nil => exact .nil
  | cons call rest ih =>
    have others := ih (next_spent spent call)
    cases call with
    | draw ask =>
      have admitted : ask.Admits (roller.roll ask.a ask.b ask.reason).1 := by
        have inOrder : min ask.a ask.b ≤ max ask.a ask.b := by omega
        exact ⟨_, (draw_spent spent _ _).1, drawLive_within inOrder roller⟩
      exact .cons admitted others
    | reseed | stop | clear => exact others

section Recording
variable {stream : List Value} {position overruns : Nat}

theorem recording_stopped (recorded : roller.recording = some ⟨stream, position, overruns, true⟩)
    (calls : List Call) :
    (roller.after calls).recording = some ⟨stream, position, overruns, true⟩ := by
  induction calls generalizing roller with
  | nil => exact recorded
  | cons call rest ih =>
    apply ih
    cases call with
    | draw ask => simp [next_draw, roll, draw, recorded, drawLive]
    | reseed seed entropy => exact (next_reseed_recording seed entropy roller).trans recorded
    | stop => simp [Call.next, stopReplay, recorded]
    | clear => exact recorded

theorem recording_after (recorded : roller.recording = some ⟨stream, position, overruns, false⟩)
    (calls : List Call) :
    ∃ stopped, (roller.after calls).recording =
      some ⟨stream, position + min (early calls) (stream.length - position),
        overruns + (early calls - (stream.length - position)), stopped⟩ := by
  induction calls generalizing roller position overruns with
  | nil => exact ⟨false, by simp [after, early, recorded]⟩
  | cons call rest ih =>
    cases call with
    | draw ask =>
      by_cases inside : position < stream.length
      · have moved := (roll_replaying recorded (List.getElem?_eq_getElem inside)
          ask.a ask.b ask.reason).2.2
        rw [← next_draw] at moved
        obtain ⟨stopped, reached⟩ := ih moved
        refine ⟨stopped, ?_⟩
        rw [after_cons, reached]
        simp only [early, Option.some.injEq, Recording.mk.injEq, and_true, true_and]
        omega
      · have nothing : stream[position]? = none := List.getElem?_eq_none (by omega)
        have moved : ((Call.draw ask).next roller).recording =
            some ⟨stream, position, overruns + 1, false⟩ := by
          simp [next_draw, roll, draw, recorded, nothing, drawLive]
        obtain ⟨stopped, reached⟩ := ih moved
        refine ⟨stopped, ?_⟩
        rw [after_cons, reached]
        simp only [early, Option.some.injEq, Recording.mk.injEq, and_true, true_and]
        omega
    | reseed seed entropy => exact ih ((next_reseed_recording seed entropy roller).trans recorded)
    | stop =>
      have stopped : (roller.stopReplay).recording = some ⟨stream, position, overruns, true⟩ := by
        simp [stopReplay, recorded]
      exact ⟨true, (recording_stopped stopped rest).trans (by simp [early])⟩
    | clear => exact ih recorded

end Recording

theorem kept_le (logged : Nat) (calls : List Call) :
    calls.foldl Call.keeps logged ≤ logged + (asks calls).length := by
  induction calls generalizing logged with
  | nil => simp [asks]
  | cons call rest ih =>
    have bound := ih (call.keeps logged)
    cases call with
    | draw ask =>
      simp only [List.foldl_cons, Call.keeps, asks, List.length_cons] at bound ⊢
      omega
    | reseed | stop => exact bound
    | clear =>
      simp only [List.foldl_cons, Call.keeps, asks] at bound ⊢
      omega

theorem draws_after (roller : Roller) (calls : List Call) :
    (roller.after calls).draws =
      (roller.draws ++ List.zipWith Ask.entry (asks calls) (totals roller calls)).drop
        (roller.draws.length + (asks calls).length -
          calls.foldl Call.keeps roller.draws.length) := by
  induction calls generalizing roller with
  | nil => simp [after, asks]
  | cons call rest ih =>
    have later := ih (call.next roller)
    cases call with
    | draw ask =>
      have made : ((Call.draw ask).next roller).draws =
          roller.draws ++ [ask.entry (roller.roll ask.a ask.b ask.reason).1] := by
        rw [next_draw, roll_draws]
        rfl
      rw [made, List.length_append, List.append_assoc] at later
      rw [after_cons, asks, List.length_cons, ← Nat.add_assoc, Nat.add_right_comm, later]
      rfl
    | reseed seed entropy =>
      have still : ((Call.reseed seed entropy).next roller).draws = roller.draws := by
        rw [next_reseed]
      rw [still] at later
      exact later
    | stop => exact later
    | clear =>
      have bound := kept_le 0 rest
      have past : roller.draws.length + (asks rest).length - rest.foldl Call.keeps 0 =
          roller.draws.length + ((asks rest).length - rest.foldl Call.keeps 0) := by omega
      show (roller.clearLog.after rest).draws = List.drop (roller.draws.length +
        (asks rest).length - rest.foldl Call.keeps 0) (roller.draws ++ _)
      rw [past, List.drop_length_add_append]
      simpa [Call.next, clearLog, asks, totals, Call.total?] using later

theorem replaying_ofSeed (stream : List Value) {n : Nat} (seeded : seed.seed entropy = .ok n) :
    ∃ plain, ofSeed seed entropy = .ok plain ∧
      replaying stream seed entropy = .ok { plain with recording := some (.ofStream stream) } ∧
      plain.draws = [] ∧ plain.recording = none ∧ plain.refusal = none := by
  have started : ofSeed seed entropy = .ok ⟨seed, .ofSeed n, [], none, none⟩ := by
    rw [ofSeed, seeded]
    rfl
  refine ⟨_, started, ?_, rfl, rfl, rfl⟩
  rw [replaying, started]
  rfl

/-- Of the draws that are made before the first stop, a new roller that replays hands out the
recording for as many as it lasts, whatever their bounds are. For the others it hands out what a
plain roller does that starts alike and is asked only for these and for the same seeds, and that is
within their bounds. What it knows of its recording afterwards is what happened.

A draw is answered unless it cannot be written, and it is logged unless its bounds cannot be: an
integer can be written if it has at most 4300 digits. -/
theorem replays_then_rolls (stream : List Value) {n : Nat} (seeded : seed.seed entropy = .ok n)
    (calls : List Call) :
    ∃ replayer plain, replaying stream seed entropy = .ok replayer ∧
      ofSeed seed entropy = .ok plain ∧
      let replayed := min (early calls) stream.length
      ∃ totals others,
        totals = stream.take replayed ++ others ∧ totals.length = (asks calls).length ∧
        List.Forall₂ Ask.Admits ((asks calls).drop replayed) others ∧
        let draws := List.zipWith Ask.entry (asks calls) totals
        answers replayer calls = draws.map Draw.answer ∧
        answers plain (live replayed calls) = (draws.drop replayed).map Draw.answer ∧
        (replayer.after calls).log =
          (draws.drop (draws.length - kept calls)).filter (·.isBounded) ∧
        ∃ recording, (replayer.after calls).recording = some recording ∧
          recording.position = replayed ∧ recording.remaining = stream.length - replayed ∧
          recording.overruns = early calls - stream.length := by
  obtain ⟨plain, started, replaying, undrawn, unrecorded, unheard⟩ :=
    replaying_ofSeed stream seeded
  let replayer : Roller := { plain with recording := some (.ofStream stream) }
  have plainly : plain.Spent := spent_of_none unrecorded
  have recorded : replayer.recording = some ⟨stream, 0, 0, false⟩ := rfl
  have alsoUnheard : replayer.refusal = none := unheard
  obtain ⟨stopped, reached⟩ := recording_after recorded calls
  let replayed := min (early calls) stream.length
  let others := totals plain (live replayed calls)
  have whole : totals replayer calls = stream.take replayed ++ others := by
    simpa using totals_replaying recorded plainly rfl calls
  have counted := totals_length replayer calls
  -- The draws that are left are those of the plain roller.
  have rest : (List.zipWith Ask.entry (asks calls) (totals replayer calls)).drop replayed =
      List.zipWith Ask.entry (asks (live replayed calls)) others := by
    rw [List.drop_zipWith, whole, asks_live, List.drop_left' (by simp [replayed])]
  have drawn : (List.zipWith Ask.entry (asks calls) (totals replayer calls)).length =
      (asks calls).length := by
    rw [List.length_zipWith, counted, Nat.min_self]
  have made := draws_after replayer calls
  have none : replayer.draws = [] := undrawn
  rw [none, List.nil_append, List.length_nil, Nat.zero_add] at made
  refine ⟨replayer, plain, replaying, started, totals replayer calls, others, whole, counted, ?_,
    answers_eq alsoUnheard _, ?_, ?_, _, reached, ?_, ?_, ?_⟩
  · rw [← asks_live]
    exact totals_admitted plainly _
  · rw [rest]
    exact answers_eq unheard _
  · rw [log, made, drawn, kept]
  · simp
  · simp [Recording.remaining]
  · simp

def fiveDraws : List Call :=
  [.draw ⟨6, 1, "hit"⟩, .reseed (.int 9) 0, .draw ⟨100, 200, "luck"⟩, .draw ⟨1, 4, "past"⟩, .stop,
    .draw ⟨1, 8, "live"⟩, .clear, .draw ⟨20, 1, "last"⟩]

theorem replays_then_rolls_five :
    ∃ replayer plain, replaying [.int 4, .int 2] (.int 7) = .ok replayer ∧
      ofSeed (.int 7) = .ok plain ∧ ∃ past free last : Int,
        (1 ≤ past ∧ past ≤ 4) ∧ (1 ≤ free ∧ free ≤ 8) ∧ (1 ≤ last ∧ last ≤ 20) ∧
        answers replayer fiveDraws =
          [.ok (.int 4), .ok (.int 2), .ok (.int past), .ok (.int free), .ok (.int last)] ∧
        answers plain [.reseed (.int 9) 0, .draw ⟨1, 4, "past"⟩, .draw ⟨1, 8, "live"⟩,
          .draw ⟨20, 1, "last"⟩] = [.ok (.int past), .ok (.int free), .ok (.int last)] ∧
        (replayer.after fiveDraws).log = [⟨1, 20, .int last, "last"⟩] ∧
        ∃ recording, (replayer.after fiveDraws).recording = some recording ∧
          recording.position = 2 ∧ recording.remaining = 0 ∧ recording.overruns = 1 := by
  have seeded : (Value.int 7).seed 0 = .ok 7 := rfl
  obtain ⟨replayer, plain, replaying, started, _, others, rfl, _, admitted, answered, alike, logged,
    recording, recorded, position, remaining, overruns⟩ :=
    replays_then_rolls [.int 4, .int 2] seeded fiveDraws
  have admitted : List.Forall₂ Ask.Admits
    [⟨1, 4, "past"⟩, ⟨1, 8, "live"⟩, ⟨20, 1, "last"⟩] others := admitted
  obtain _ | ⟨atPast, _ | ⟨atFree, _ | ⟨atLast, _ | _⟩⟩⟩ := admitted
  have hit : (Ask.entry ⟨6, 1, "hit"⟩ (.int 4)).answer = .ok (.int 4) :=
    Ask.answer_entry ⟨4, rfl, by decide, by decide⟩ (by decide +kernel) rfl
  have luck : (Ask.entry ⟨100, 200, "luck"⟩ (.int 2)).answer = .ok (.int 2) :=
    if_pos (by decide +kernel)
  have bounded (a b : Int) (reason : Value) (total : Value)
      (low : Number.isWritable (.int (min a b))) (high : Number.isWritable (.int (max a b))) :
      (Ask.entry ⟨a, b, reason⟩ total).isBounded := by
    simp only [Draw.isBounded, Ask.entry, low, high, Bool.and_self]
  have past := Ask.answer_entry atPast (bounded _ _ _ _ (by decide +kernel) (by decide +kernel)) rfl
  have free := Ask.answer_entry atFree (bounded _ _ _ _ (by decide +kernel) (by decide +kernel)) rfl
  have last := Ask.answer_entry atLast (bounded _ _ _ _ (by decide +kernel) (by decide +kernel)) rfl
  obtain ⟨pastTotal, rfl, above, below⟩ := atPast
  obtain ⟨freeTotal, rfl, above', below'⟩ := atFree
  obtain ⟨lastTotal, rfl, above'', below''⟩ := atLast
  refine ⟨replayer, plain, replaying, started, pastTotal, freeTotal, lastTotal, ⟨above, below⟩,
    ⟨above', below'⟩, ⟨above'', below''⟩, ?_, ?_, ?_, recording, recorded, position, remaining,
    overruns⟩
  · rw [← hit, ← luck, ← past, ← free, ← last]
    exact answered
  · rw [← past, ← free, ← last]
    exact alike
  · rw [logged]
    exact List.filter_cons_of_pos (bounded 20 1 "last" _ (by decide +kernel) (by decide +kernel))

end Roller
end Fabula
