import Fabula.Proofs.Script.Overlong
import Fabula.Proofs.Session.Ledger
import Fabula.Proofs.Session.Looks
/-!
# Command lines

A line either spells a command with arguments that fit it, which is logged and then run, or it does
nothing at all. Whether it spells one is found out first, and that can go wrong: the line can end
inside a quotation or behind a backslash, and the value of a variable can be an integer of too many
digits. Main statements:

* `Text.shellWords_eq_error_iff`: which lines cannot be split into words;
* `line_answered`: how every line is answered.
-/

namespace Fabula
variable {game : Game} {session : Session} {line name : String} {words : List String}
  {arguments : List Value} {command : Command}

namespace Text

def ShellPlace.next : ShellPlace → Char → ShellPlace
  | .plain, c =>
    if c == '\\' then .escaped else if c == '"' || c == '\'' then .quoted c else .plain
  | .quoted mark, c =>
    if c == mark then .plain
    else if c == '\\' && mark == '"' then .escapedInQuotes else .quoted mark
  | .escaped, _ => .plain
  | .escapedInQuotes, _ => .quoted '"'

def ShellPlace.fault? : ShellPlace → Option ShellFault
  | .plain => none
  | .quoted _ => some .openQuotation
  | .escaped | .escapedInQuotes => some .danglingEscape

def shellEnd (line : String) : ShellPlace :=
  line.toList.foldl ShellPlace.next .plain

theorem ShellPlace.next_of_blank {c : Char} (blank : isShellBlank c) :
    ShellPlace.plain.next c = .plain := by
  simp only [isShellBlank, Bool.or_eq_true, beq_iff_eq] at blank
  rcases blank with ((rfl | rfl) | rfl) | rfl <;> rfl

theorem shellWordsFrom_eq_error_iff {place : ShellPlace} {word : Option (List Char)}
    {text : List Char} {fault : ShellFault} :
    shellWordsFrom place word text = .error fault ↔
      (text.foldl ShellPlace.next place).fault? = some fault := by
  fun_induction shellWordsFrom place word text with
  | case1 | case2 | case3 | case4 | case5 => simp [ShellPlace.fault?]
  | case6 c rest blank ih => rw [List.foldl_cons, ShellPlace.next_of_blank blank, ih]
  | case7 c rest blank chars ih =>
    rw [List.foldl_cons, ShellPlace.next_of_blank blank, ← ih]
    cases shellWordsFrom .plain none rest <;> simp [bind, Except.bind, pure, Except.pure]
  | case13 mark word c rest stays plain ih =>
    have same : (ShellPlace.quoted mark).next c = .quoted mark := by
      rw [ShellPlace.next, if_neg stays, if_neg plain]
    rw [List.foldl_cons, same, ih]
  | _ => simp_all [ShellPlace.next]

theorem shellWords_eq_error_iff {fault : ShellFault} :
    shellWords line = .error fault ↔ (shellEnd line).fault? = some fault :=
  shellWordsFrom_eq_error_iff

end Text

/-- Whether a line spells a command, with arguments that fit it. -/
def Spells (line name : String) (arguments : List Value) (command : Command) : Prop :=
  ∃ words, Text.shellWords line = .ok (name :: words) ∧
    Command.argumentsOfWords name words = .ok arguments ∧
    Command.of? name arguments = some command

/-- Whether it cannot be found out what a line spells: it ends inside a quotation or behind a
backslash, or it gives a variable an integer of too many digits. -/
inductive Garbled (line : String) : Failure → Prop
  | unfinished {fault : Text.ShellFault} (ends : (Text.shellEnd line).fault? = some fault) :
      Garbled line (.unsuitable (.commandLine fault))
  | overlong {variableName word : String} {count : Nat}
      (reads : Text.shellWords line = .ok ["set_variable", variableName, word])
      (long : Numeral.Overlong word.toList count) : Garbled line (.overlong count)

namespace Command

theorem listed_of_of? (fits : of? name arguments = some command) : name ∈ names := by
  unfold of? at fits
  split at fits
  case h_13 => cases fits
  all_goals simp [names]

theorem argumentsOfWords_eq_error_iff {failure : Failure} :
    argumentsOfWords name words = .error failure ↔
      ∃ variableName word count, name = "set_variable" ∧ words = [variableName, word] ∧
        Numeral.Overlong word.toList count ∧ failure = .overlong count := by
  unfold argumentsOfWords
  split
  · next variableName word =>
    -- The word of a value is read like that of any scalar argument.
    have same : Parameter.ofWord ⟨"value", .scalar⟩ none word = liftM (Value.ofWord word) := by
      cases read : Value.ofWord word <;> simp only [Parameter.ofWord, read]
    have refused : (liftM (Value.ofWord word) : Except Failure Value) = .error failure ↔
        ∃ count, Numeral.Overlong word.toList count ∧ failure = .overlong count := by
      rw [← same, Parameter.scalar_eq_error_iff]
      simp only [ofText?_eq_error_iff]
      constructor
      · rintro ⟨_, ⟨count, rfl, long⟩, rfl⟩
        exact ⟨count, long, rfl⟩
      · rintro ⟨count, long, rfl⟩
        exact ⟨_, ⟨count, rfl, long⟩, rfl⟩
    rw [error_of_bind_iff, or_iff_left (by rintro ⟨_, _, ⟨⟩⟩), refused]
    simp
  · next other =>
    refine iff_of_false (by rintro ⟨⟩) ?_
    rintro ⟨variableName, word, _, rfl, rfl, _⟩
    exact other _ _ rfl rfl

end Command

namespace Play

def heed (game : Game) (name : String) (arguments : List Value) : Play Reply :=
  match Command.of? name arguments with
  | some command => logCommand game name arguments >>= fun _ => run game command
  | none => nothing

theorem runLine_of_words (reads : Text.shellWords line = .ok (name :: words)) (session : Session) :
    runLine game line session =
      (liftM (Command.argumentsOfWords name words) >>= heed game name) session := by
  have split : commandWords line = .ok (name :: words) := by rw [commandWords, reads]; rfl
  by_cases listed : name ∈ Command.names
  · have known : (!Command.names.contains name) = false := by simpa using listed
    rw [runLine, split]
    show (if !Command.names.contains name then _ else _ : Play Reply) session = _
    rw [known]
    rfl
  · -- What is no command has no arguments that fit it.
    have unknown : (!Command.names.contains name) = true := by simpa using listed
    have missed (arguments : List Value) : Command.of? name arguments = none :=
      Option.eq_none_iff_forall_ne_some.mpr fun _ fits => listed (Command.listed_of_of? fits)
    cases means : Command.argumentsOfWords name words with
    | error failure =>
      obtain ⟨_, _, _, rfl, _⟩ := Command.argumentsOfWords_eq_error_iff.mp means
      exact absurd (by decide) listed
    | ok arguments =>
      rw [runLine, split]
      show (if !Command.names.contains name then _ else _ : Play Reply) session =
        heed game name arguments session
      rw [unknown, heed, missed]
      rfl

theorem runLine_of_spells (spells : Spells line name arguments command) (session : Session) :
    runLine game line session =
      (logCommand game name arguments >>= fun _ => run game command) session := by
  obtain ⟨words, reads, means, fits⟩ := spells
  rw [runLine_of_words reads, means]
  show heed game name arguments session = _
  rw [heed, fits]

theorem runLine_of_garbled {failure : Failure} (garbled : Garbled line failure)
    (session : Session) : runLine game line session = .error failure session := by
  cases garbled with
  | @unfinished fault ends =>
    have split : commandWords line = .error (.unsuitable (.commandLine fault)) := by
      rw [commandWords, Text.shellWords_eq_error_iff.mpr ends]
      rfl
    rw [runLine, split]
    rfl
  | overlong reads long =>
    rw [runLine_of_words reads, Command.argumentsOfWords_eq_error_iff.mpr
      ⟨_, _, _, rfl, rfl, long, rfl⟩]
    rfl

theorem runLine_of_nothing
    (silent : ∀ name arguments command, ¬ Spells line name arguments command)
    (clear : ∀ failure, ¬ Garbled line failure) (session : Session) :
    runLine game line session = .ok (.value .null) session := by
  cases reads : Text.shellWords line with
  | error fault => exact absurd (.unfinished (Text.shellWords_eq_error_iff.mp reads)) (clear _)
  | ok words =>
    cases words with
    | nil =>
      have split : commandWords line = .ok [] := by rw [commandWords, reads]; rfl
      rw [runLine, split]
      rfl
    | cons name words =>
      rw [runLine_of_words reads]
      cases means : Command.argumentsOfWords name words with
      | error failure =>
        obtain ⟨_, _, _, rfl, rfl, long, rfl⟩ := Command.argumentsOfWords_eq_error_iff.mp means
        exact absurd (.overlong reads long) (clear _)
      | ok arguments =>
        cases fits : Command.of? name arguments with
        | some command => exact absurd ⟨words, reads, means, fits⟩ (silent _ _ _)
        | none =>
          show heed game name arguments session = _
          rw [heed, fits]
          rfl

end Play

theorem RunLog.record_of_sound {log : RunLog} (sound : log.Sound) {shown : Value}
    (clock : log.clock = some (.ok shown)) (event : Event) :
    ∃ logged next, log.record event = .ok (logged, next) ∧
      logged.happening = event.happening ∧ logged.context = event.context ∧
        next.events = log.events ++ [logged] := by
  obtain ⟨running, n, counts⟩ := sound
  have sum : log.sequence.sum (.int 1) = .ok (.int (n + 1)) := by rw [counts]; rfl
  simp only [record, running, sum, clock, bind, Except.bind, pure, Except.pure, Option.getD_some]
  exact ⟨_, _, rfl, rfl, rfl, rfl⟩

def commandContext (name : String) (arguments : List Value) : Value :=
  .object [("event_name", "debug_command"), ("command", .text name), ("arguments", .list arguments)]

theorem RunLog.skip_events (log : RunLog) : log.skip.events = log.events := by
  unfold skip
  cases log.sequence.sum (.int 1) <;> rfl

namespace Play

theorem logCommand_eq (name : String) (arguments : List Value) (session : Session) :
    logCommand game name arguments session =
      match session.clockedLog.record
        (RunLog.unlogged game.now (commandContext name arguments) .custom) with
      | .ok logged => .ok () { session with log := logged.2 }
      | .error failure => .error failure { session with log := session.log.skip } := by
  have logs : logCommand game name arguments = record fun log =>
      log.record (RunLog.unlogged game.now (commandContext name arguments) .custom) := rfl
  have asked : (get : Play Session) session = .ok session session := rfl
  rw [logs, record, bind_of_ok asked]
  cases session.clockedLog.record
    (RunLog.unlogged game.now (commandContext name arguments) .custom) <;> rfl

theorem logCommand_shown (game : Game) (sound : session.log.Sound) {text : String}
    (clock : session.state.time.text = .ok text) (name : String) (arguments : List Value) :
    ∃ log event, logCommand game name arguments session = .ok () { session with log } ∧
      event.kind = .custom ∧ event.context = commandContext name arguments ∧
        log.events = session.log.events ++ [event] := by
  have shown : session.clockedLog.clock = some (.ok (.text text)) := by
    rw [Session.clockedLog, clock]
    rfl
  have clocked : session.clockedLog.Sound := ⟨sound.running, sound.counts⟩
  obtain ⟨event, log, records, happening, context, events⟩ :=
    RunLog.record_of_sound clocked shown
    (RunLog.unlogged game.now (commandContext name arguments) .custom)
  refine ⟨log, event, ?_, ?_, context, events⟩
  · rw [logCommand_eq, records]
  · rw [Event.kind, happening]
    rfl

theorem logCommand_hidden (game : Game) (sound : session.log.Sound) {failure : Failure}
    (clock : session.state.time.text = .error failure) (name : String) (arguments : List Value) :
    ∃ log, logCommand game name arguments session = .error failure { session with log } ∧
      log.events = session.log.events := by
  have hidden : session.clockedLog.clock = some (.error failure) := by
    rw [Session.clockedLog, clock]
    rfl
  refine ⟨session.log.skip, ?_, RunLog.skip_events _⟩
  have clocked : session.clockedLog.Sound := ⟨sound.running, sound.counts⟩
  rw [logCommand_eq, RunLog.record_hidden clocked hidden]

end Play

theorem Reachable.sound (reached : Reachable game session) : session.log.Sound := by
  refine Run.keeps (I := fun _ session => session.log.Sound) reached ?_ ?_ fun _ _ _ => False.elim
  · rintro _ _ ⟨now, roller, notes, state, started⟩
    exact start_sound started
  · exact fun _ turn _ _ sound => (call_regular turn.game turn.call).replays.sound sound

/-- A line that spells a command with arguments that fit it has that command logged as one custom
event, unless the time cannot be written, and then run. A line that is garbled fails, and every
other line is answered with nothing. Neither leaves a trace. -/
theorem line_answered (reached : Reachable game session) (line : String) :
    (∀ name arguments command, Spells line name arguments command →
      name ∈ Command.names ∧
      (∀ text, session.state.time.text = .ok text → ∃ log event,
        event.kind = .custom ∧ event.context = commandContext name arguments ∧
          log.events = session.log.events ++ [event] ∧
          Play.call game (.line line) session = Play.run game command { session with log }) ∧
      ∀ failure, session.state.time.text = .error failure → ∃ log,
        log.events = session.log.events ∧
          Play.call game (.line line) session = .error failure { session with log }) ∧
    (∀ failure, Garbled line failure →
      Play.call game (.line line) session = .error failure session) ∧
    ((∀ name arguments command, ¬ Spells line name arguments command) →
      (∀ failure, ¬ Garbled line failure) →
      Play.call game (.line line) session = .ok (.value .null) session) := by
  have sound := reached.sound
  refine ⟨fun name arguments command spells =>
      ⟨?_, fun text clock => ?_, fun failure clock => ?_⟩,
    fun failure garbled => Play.runLine_of_garbled garbled session,
    fun silent clear => Play.runLine_of_nothing silent clear session⟩
  · obtain ⟨words, _, _, fits⟩ := spells
    exact Command.listed_of_of? fits
  · obtain ⟨log, event, logs, kind, context, events⟩ :=
      Play.logCommand_shown game sound clock name arguments
    exact ⟨log, event, kind, context, events,
      (Play.runLine_of_spells spells session).trans (Play.bind_of_ok logs)⟩
  · obtain ⟨log, fails, events⟩ :=
      Play.logCommand_hidden game sound clock name arguments
    exact ⟨log, events,
      (Play.runLine_of_spells spells session).trans (Play.bind_of_error fails)⟩

theorem line_answered_guide : Reachable guideGame guideSession ∧
    (∃ log event, event.kind = .custom ∧ log.events = guideSession.log.events ++ [event] ∧
      Play.call guideGame (.line "set_flag 'the lamp'") guideSession =
        Play.run guideGame (.setFlag "the lamp") { guideSession with log }) ∧
    Play.call guideGame (.line "set_flag the\\") guideSession =
      .error (.unsuitable (.commandLine .danglingEscape)) guideSession ∧
    Play.call guideGame (.line "fly away") guideSession = .ok (.value .null) guideSession := by
  have reached := Reachable.start guide_started
  have spelled : Spells "set_flag 'the lamp'" "set_flag" ["the lamp"] (.setFlag "the lamp") :=
    ⟨["the lamp"], by decide, rfl, rfl⟩
  have shown : guideSession.state.time.text.isOk := by decide +kernel
  obtain ⟨text, day⟩ := ok_of_isOk shown
  obtain ⟨log, event, kind, _, events, runs⟩ :=
    ((line_answered reached "set_flag 'the lamp'").1 _ _ _ spelled).2.1 _ day
  have apart : Text.shellWords "fly away" = .ok ["fly", "away"] := by decide
  refine ⟨reached, ⟨log, event, kind, events, runs⟩,
    (line_answered reached _).2.1 _ (.unfinished (by decide)),
    (line_answered reached "fly away").2.2 ?_ ?_⟩
  · rintro name arguments command ⟨words, reads, _, fits⟩
    rw [apart] at reads
    cases reads
    exact absurd (Command.listed_of_of? fits) (by decide)
  · rintro failure (⟨ends⟩ | ⟨reads, _⟩)
    · have ended : (Text.shellEnd "fly away").fault? = none := by decide
      rw [ended] at ends
      cases ends
    · rw [apart] at reads
      simp at reads

/-- A line that ends inside a quotation is not answered with nothing. -/
theorem unclosed_line_fails : Reachable guideGame guideSession ∧
    Play.call guideGame (.line "set_flag \"met") guideSession =
      .error (.unsuitable (.commandLine .openQuotation)) guideSession :=
  ⟨.start guide_started, Play.runLine_of_garbled (.unfinished (by decide)) _⟩

end Fabula
