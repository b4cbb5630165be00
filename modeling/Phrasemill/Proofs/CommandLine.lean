import Mathlib
import Phrasemill.CommandLine.Run
import Phrasemill.Proofs.CommandLine.Directory
import Phrasemill.Proofs.Session.Runs

/-!
# Command lines and sessions

A command line runs a text as `generate` does. Both process the statements in order, but a command line
puts out the lines of each at once, reports faults and may go on after them. So what it puts out and
reports can be told from the results of the session (`goes_runStatements`), and up to the first fault
these are the lines that `generate` gives (`execute_follows_generate`).

This is said of a directory in memory, whatever its log writes. The lines are to go where they can be
seen afterwards, to standard output or to a file, and every file that the command line names can be
used. Standard error then begins with the warning about rules that could not be loaded, if there is one.
-/

namespace Phrasemill.CommandLine

/-- From the directory on the run goes on with a result, and leaves the second directory. -/
def Goes {α : Type} (action : Running (StateM Directory) α) (d : Directory) (a : α)
    (d' : Directory) : Prop :=
  StateT.run (ExceptT.run action) d = (.ok a, d')

section Runs

variable {α β : Type} {action : Running (StateM Directory) α} {d d' d'' : Directory} {a : α}

theorem Goes.run_bind (h : Goes action d a d') (next : α → Running (StateM Directory) β) :
    StateT.run (ExceptT.run (action >>= next)) d = StateT.run (ExceptT.run (next a)) d' := by
  rw [Goes] at h
  rw [ExceptT.run_bind, StateT.run_bind, h]
  rfl

theorem Goes.bind (h : Goes action d a d') {next : α → Running (StateM Directory) β} {b : β}
    (h' : Goes (next a) d' b d'') : Goes (action >>= next) d b d'' := by
  rw [Goes, h.run_bind]
  exact h'

theorem goes_pure (a : α) (d : Directory) : Goes (pure a) d a d := rfl

theorem goes_onFile (path : String) (used : StateM Directory (Except FileFault α))
    (h : used.run d = (.ok a, d')) : Goes (onFile path used) d a d' := by
  show (((used.run d).1.mapError _, (used.run d).2) : Except Abort α × Directory) = _
  rw [h]
  rfl

theorem goes_putLines (place : String) (lines : List String) (keeps : d.sink.Keeps) :
    ∃ d', Goes (putLines Directory.host place lines) d () d' ∧ d.Shows d' lines [] := by
  induction lines generalizing d with
  | nil => exact ⟨d, rfl, Directory.shows_nothing keeps⟩
  | cons line lines ih =>
    obtain ⟨middle, put, shows⟩ := Directory.shows_putLine keeps line
    obtain ⟨last, goes, more⟩ := ih shows.keeps
    exact ⟨last, (goes_onFile place (Directory.host.putLine line) put).bind goes, shows.trans more⟩

/-- What a run has come to after these results. -/
def Progress.behind (progress : Progress) (results : List Result) : Progress where
  lines := progress.lines + (results.flatMap Result.lines).length
  failed := progress.failed || !(results.filterMap Result.fault?).isEmpty

theorem Progress.behind_nil (progress : Progress) : progress.behind [] = progress := by
  rw [behind]
  simp only [List.flatMap_nil, List.filterMap_nil, List.isEmpty_nil, Bool.not_true, Bool.or_false]
  rfl

theorem Progress.behind_error (progress : Progress) (fault : Fault) (results : List Result) :
    progress.behind (.error fault :: results) =
      { progress with failed := true : Progress }.behind results := by
  have failed : (results.cons (.error fault)).filterMap Result.fault? =
      fault :: results.filterMap Result.fault? := rfl
  rw [behind, behind, failed, List.isEmpty_cons, Bool.not_false, Bool.or_true, Bool.true_or]
  rfl

theorem Progress.behind_ok (progress : Progress) (lines : Option (List String))
    (results : List Result) :
    progress.behind (.ok lines :: results) =
      { progress with lines := progress.lines + (lines.getD []).length : Progress }.behind results := by
  simp only [behind, List.flatMap_cons, List.length_append, Nat.add_assoc]
  rfl

theorem goes_runStatements (place : String) (keepGoing : Bool) (p : Program) (s : Session)
    (progress : Progress) (keeps : d.sink.Keeps) :
    ∃ d', Goes (runStatements Directory.host place keepGoing p s progress) d
        (progress.behind (s.results keepGoing p)) d' ∧
      d.Shows d' ((s.results keepGoing p).flatMap Result.lines)
        (((s.results keepGoing p).filterMap Result.fault?).map Fault.message) := by
  induction p generalizing s d progress with
  | nil =>
    rw [Session.results, Progress.behind_nil]
    exact ⟨d, rfl, Directory.shows_nothing keeps⟩
  | cons statement p ih =>
    rw [runStatements, Session.results]
    cases s.process statement with
    | mk result left =>
      cases result with
      | ok lines =>
        cases lines with
        | none =>
          rw [Progress.behind_ok]
          exact ih left progress keeps
        | some lines =>
          obtain ⟨middle, goes, shows⟩ := goes_putLines place lines keeps
          obtain ⟨last, goes_on, more⟩ :=
            ih left { progress with lines := progress.lines + lines.length } shows.keeps
          rw [Progress.behind_ok]
          exact ⟨last, goes.bind goes_on, shows.trans more⟩
      | error fault =>
        have reports := Directory.shows_report keeps fault.message
        have goes : Goes (monadLift (Directory.host.report fault.message)) d ()
            (d.reported fault.message) := rfl
        rw [Progress.behind_error]
        cases keepGoing with
        | false =>
          rw [if_neg Bool.false_ne_true, Progress.behind_nil]
          exact ⟨_, rfl, reports⟩
        | true =>
          obtain ⟨last, goes_on, more⟩ := ih left { progress with failed := true } reports.keeps
          rw [if_pos rfl]
          exact ⟨last, goes.bind goes_on, reports.trans more⟩

/-- What a run does from its first statement on. -/
def toEnd (options : Options) (p : Program) (s : Session) : Running (StateM Directory) Progress := do
  let place := options.output.getD "<stdout>"
  let start ← Directory.host.now
  let progress ← runStatements Directory.host place options.keepGoing p s {}
  onFile place Directory.host.flush
  if options.time then
    Directory.host.report
      s!"Generated {progress.lines} lines in {← Directory.host.secondsSince start}s"
  return progress

/-- Statements are run, all lines get where they go, and the time may be reported. -/
theorem goes_toEnd (options : Options) (p : Program) (s : Session) (keeps : d.sink.Keeps) :
    let results := s.results options.keepGoing p
    let progress := ({} : Progress).behind results
    ∃ d', Goes (toEnd options p s) d progress d' ∧
      d.Shows d' (results.flatMap Result.lines)
        ((results.filterMap Result.fault?).map Fault.message ++
          if options.time then [s!"Generated {progress.lines} lines in #s"] else []) ∧
      d'.pending = "" := by
  intro results progress
  let place := options.output.getD "<stdout>"
  obtain ⟨ran, goes, shows⟩ := goes_runStatements place options.keepGoing p s {} keeps
  obtain ⟨flushed, flush, kept, nothing⟩ := Directory.shows_flush shows.keeps
  have all := shows.trans kept
  rw [List.append_nil, List.append_nil] at all
  have started : Goes (monadLift Directory.host.now) d 0 d := rfl
  have flush_goes := goes_onFile place Directory.host.flush flush
  unfold toEnd
  cases options.time with
  | false =>
    refine ⟨flushed, started.bind (goes.bind (flush_goes.bind rfl)), ?_, nothing⟩
    rw [if_neg Bool.false_ne_true, List.append_nil]
    exact all
  | true =>
    let report := s!"Generated {progress.lines} lines in #s"
    have report_eq : s!"Generated {progress.lines} lines in " ++ "#" ++ "s" = report := by
      simp only [report, String.append_assoc]
      rfl
    have timed : Goes (do
          Directory.host.report
            s!"Generated {progress.lines} lines in {← Directory.host.secondsSince 0}s"
          return progress) flushed progress (flushed.reported report) := by
      rw [← report_eq]
      rfl
    have shown := all.trans (Directory.shows_report all.keeps report)
    rw [List.append_nil] at shown
    exact ⟨_, started.bind (goes.bind (flush_goes.bind timed)), shown, nothing⟩

end Runs

/-! ### Command lines -/

/-- The rules that a text can use beside its own, if they can be read. -/
def RulesChoice.text (d : Directory) : RulesChoice → Except FileFault (Option String)
  | .standard => .ok (some standardRules)
  | .none => .ok Option.none
  | .file path => (d.readText path).map some

/-- What the log writes of rules that are loaded: nothing if all of them could be. -/
def Directory.warning (d : Directory) : Except Failure Unit → String
  | .ok _ => ""
  | .error failure => d.logged (.ofRules failure)

/-- From the first directory on the output that is asked for, if any, can be opened, which leaves the
second one. -/
def Options.Opens (options : Options) (d opened : Directory) : Prop :=
  match options.output with
  | some path => d.openOutput path = (.ok (), opened)
  | none => opened = d

/-- A command line with a seed that has a text run by a single worker, in a directory where nothing has
been put out yet. Every file that is named can be used, and lines can be seen where they go. -/
structure Ready (d : Directory) (words : List String) (options : Options) (seed : UInt64)
    (source : String) (rules : Option String) : Prop where
  fresh : d.Fresh
  understood : Options.ofWords words = .ok options
  seeded : options.seed = some seed
  single : (Workers.ofCount options.processes).resolve d.processors = 1
  input : d.readText options.input = .ok source
  rules : options.rules.text d = .ok rules
  output : ∃ opened, options.Opens d opened ∧ opened.sink.Keeps

section Commands

variable {d : Directory} {words : List String} {options : Options} {seed : UInt64}
  {source : String} {rules : Option String}

/-- Whatever has been reported, the lines have a place before the first statement, and it is empty. -/
theorem Ready.exists_opened (ready : Ready d words options seed source rules) (stderr : String) :
    ∃ opened : Directory, options.Opens { d with stderr } opened ∧
      opened.sink.Keeps ∧ opened.Empty ∧ opened.stderr = stderr := by
  obtain ⟨opened, opens, keeps⟩ := ready.output
  refine ⟨{ opened with stderr }, ?_, keeps, ?_, rfl⟩
  · unfold Options.Opens at opens ⊢
    split at opens
    · rw [Directory.openOutput_congr_stderr, opens]
    · rw [opens]
  · have empty : opened.Empty := by
      unfold Options.Opens at opens
      split at opens
      · exact Directory.empty_of_openOutput ready.fresh opens
      · exact opens ▸ ready.fresh.empty
    exact ⟨empty.output, empty.pending⟩

theorem Ready.goes_input (ready : Ready d words options seed source rules) :
    Goes (onFile options.input (Directory.host.readText options.input)) d source d := by
  refine goes_onFile _ _ ?_
  show (d.readText options.input, _) = _
  rw [ready.input]

theorem Ready.goes_rules (ready : Ready d words options seed source rules) :
    Goes (rulesText Directory.host options.rules) d rules d := by
  have text := ready.rules
  cases choice : options.rules with
  | standard =>
    rw [choice] at text
    cases text
    rfl
  | none =>
    rw [choice] at text
    cases text
    rfl
  | file path =>
    rw [choice, RulesChoice.text] at text
    cases read : d.readText path with
    | error fault =>
      rw [read] at text
      cases text
    | ok further =>
      rw [read] at text
      cases text
      have here : Goes (onFile path (Directory.host.readText path)) d further d := by
        refine goes_onFile _ _ ?_
        show (d.readText path, _) = _
        rw [read]
      exact here.bind rfl

/-- A session is begun, whatever came of its rules; of these the log has a warning at most. -/
theorem goes_startSession (settings : Settings) (rules : Option String) (d : Directory) :
    Goes (startSession Directory.host settings rules) d (Session.startWith settings rules).2
      { d with stderr := d.stderr ++ d.warning (Session.startWith settings rules).1 } := by
  rw [startSession]
  cases Session.startWith settings rules with
  | mk loaded session =>
    cases loaded with
    | ok done =>
      rw [Directory.warning, String.append_empty]
      rfl
    | error failure => rfl

/-- The lines that are put out of those that are generated. -/
def Options.shown (options : Options) (lines : List String) : List String :=
  if options.noOutput then [] else lines

/-- What is reported about the time. -/
def Options.timing (options : Options) (lines : List String) : List String :=
  if options.time then [s!"Generated {(options.shown lines).length} lines in #s"] else []

/-- What a single worker runs by, whether lines are made or not. -/
def Options.settings (options : Options) (seed : UInt64) (materialize : Bool) : Settings where
  workers := 1
  threshold := options.threshold
  materialize := materialize
  seed := seed

/-- A command line that puts nothing out does all else that it would do. -/
theorem results_startWith (options : Options) (seed : UInt64) (rules : Option String)
    (p : Program) :
    let started := Session.startWith (options.settings seed !options.noOutput) rules
    let all := Session.startWith (options.settings seed true) rules
    started.1 = all.1 ∧
      (started.2.results options.keepGoing p).flatMap Result.lines =
        options.shown ((all.2.results options.keepGoing p).flatMap Result.lines) ∧
      (started.2.results options.keepGoing p).filterMap Result.fault? =
        (all.2.results options.keepGoing p).filterMap Result.fault? := by
  intro started all
  cases silent : options.noOutput with
  | false =>
    simp only [started, all, silent, Options.shown]
    exact ⟨rfl, rfl, rfl⟩
  | true =>
    have started_eq : started = (all.1, all.2.silent) := by
      simp only [started, silent]
      exact Session.startWith_silent (options.settings seed true) rules
    have faults : Result.fault? ∘ Result.silent = Result.fault? := funext Result.fault?_silent
    rw [started_eq, Session.results_silent, Options.shown, if_pos silent, List.flatMap_map,
      List.filterMap_map, faults]
    simp only [Result.lines_silent, List.flatMap_eq_nil_iff, implies_true, and_self]

/-- Once its texts are read, its rules loaded and its output open, all that is left of a run is to go to
its end. -/
theorem Ready.goes_runText (ready : Ready d words options seed source rules) {program : Program}
    (parsed : Program.parse source = .ok program) {opened d' : Directory} {progress : Progress}
    {loaded : Except Failure Unit} {s : Session}
    (started : Session.startWith (options.settings seed !options.noOutput) rules = (loaded, s))
    (opens : options.Opens { d with stderr := d.warning loaded } opened)
    (goes : Goes (toEnd options program s) opened progress d') :
    Goes (runText Directory.host options) d progress d' := by
  have parses : Goes (ExceptT.mk (pure ((Program.parse source).mapError Abort.text))) d program d := by
    rw [parsed]
    rfl
  have counted : Goes (monadLift Directory.host.processors) d d.processors d := rfl
  unfold runText
  refine ready.goes_input.bind (parses.bind (ready.goes_rules.bind ?_))
  rw [ready.seeded]
  refine (goes_pure seed _).bind (counted.bind ?_)
  rw [ready.single]
  have begins := goes_startSession (options.settings seed !options.noOutput) rules d
  rw [started, ready.fresh.stderr, String.empty_append] at begins
  refine begins.bind ?_
  dsimp only
  unfold Options.Opens at opens
  split
  · next path output =>
    rw [output] at opens
    exact (goes_onFile path (Directory.host.openOutput path) opens).bind goes
  · next no_path =>
    split at opens
    · next path output => exact absurd output (no_path path)
    · rw [← opens]
      exact goes

/-- A text that can be parsed is run to its end, or to its first fault if it is not to keep going. -/
theorem exists_goes_runText (ready : Ready d words options seed source rules)
    {program : Program} (parsed : Program.parse source = .ok program) :
    let started := Session.startWith (options.settings seed true) rules
    let results := started.2.results options.keepGoing program
    let lines := results.flatMap Result.lines
    let faults := results.filterMap Result.fault?
    ∃ progress d', Goes (runText Directory.host options) d progress d' ∧
      progress.failed = !faults.isEmpty ∧ d'.output = ended (options.shown lines) ∧
      d'.stderr = d.warning started.1 ++ ended (faults.map Fault.message ++ options.timing lines) := by
  intro started results lines faults
  let s := (Session.startWith (options.settings seed !options.noOutput) rules).2
  obtain ⟨loaded_eq, lines_eq, faults_eq⟩ := results_startWith options seed rules program
  obtain ⟨opened, opens, keeps, empty, stderr⟩ := ready.exists_opened (d.warning started.1)
  rw [← loaded_eq] at opens
  obtain ⟨d', goes, shows, nothing⟩ := goes_toEnd options program s keeps
  refine ⟨_, d', ready.goes_runText parsed rfl opens goes, ?_, ?_, ?_⟩
  · show (false || !_) = _
    rw [faults_eq, Bool.false_or]
  · have put_out := shows.output
    rw [nothing, empty.output, empty.pending, String.append_empty, String.empty_append,
      String.empty_append] at put_out
    rw [put_out, lines_eq]
  · have reported := shows.stderr
    have count : (({} : Progress).behind (s.results options.keepGoing program)).lines =
        (options.shown lines).length := by
      rw [Progress.behind, lines_eq]
      exact Nat.zero_add _
    rw [stderr, faults_eq, count] at reported
    exact reported

theorem run_execute_of_ok {d d' : Directory} {progress : Progress}
    (understood : Options.ofWords words = .ok options)
    (goes : Goes (runText Directory.host options) d progress d') :
    StateT.run (execute Directory.host words) d = (if progress.failed then 1 else 0, d') := by
  rw [execute, understood]
  dsimp only
  rw [StateT.run_bind, goes]
  rfl

theorem run_execute_of_error {d d' : Directory} {reason : Abort}
    (understood : Options.ofWords words = .ok options)
    (stops : StateT.run (ExceptT.run (runText Directory.host options)) d = (.error reason, d')) :
    StateT.run (execute Directory.host words) d = (1, d'.reported reason.message) := by
  rw [execute, understood]
  dsimp only
  rw [StateT.run_bind, stops]
  rfl

/-- A command line puts out the lines that `generate` gives and succeeds. If the text cannot be parsed,
it puts out nothing, reports that and fails. If a statement faults, it puts out the lines of those
before it, reports the fault and fails; when it is to keep going, it does so from the state that the
fault left, puts out what comes of the others and reports their faults. All this is the same if nothing
is to be put out, but for the lines. Before all reports stands what the log writes of rules that could
not be loaded, which happens only after the text has been parsed. -/
theorem execute_follows_generate (ready : Ready d words options seed source rules) :
    let settings := options.settings seed true
    let started := Session.startWith settings rules
    let o := StateT.run (execute Directory.host words) d
    match generate source settings rules with
    | .ok lines =>
      o.1 = 0 ∧ o.2.output = ended (options.shown lines) ∧
        o.2.stderr = d.warning started.1 ++ ended (options.timing lines)
    | .error (.text fault) => o.1 = 1 ∧ o.2.output = "" ∧ o.2.stderr = ended [fault.message]
    | .error (.statement fault) =>
      ∃ before failing later lines reached left,
        Program.parse source = .ok (before ++ failing :: later) ∧
        started.2.runProgram before = (.ok lines, reached) ∧
        reached.process failing = (.error fault, left) ∧
        let more := if options.keepGoing then (left.processAll later).1 else []
        let all := lines ++ more.flatMap Result.lines
        o.1 = 1 ∧ o.2.output = ended (options.shown all) ∧
          o.2.stderr = d.warning started.1 ++
            ended (fault.message :: (more.filterMap Result.fault?).map Fault.message ++
              options.timing all) := by
  intro settings started o
  cases parsed : Program.parse source with
  | error fault =>
    have stops : StateT.run (ExceptT.run (runText Directory.host options)) d =
        (.error (.text fault), d) := by
      unfold runText
      rw [ready.goes_input.run_bind, parsed]
      rfl
    have o_eq : o = (1, _) := run_execute_of_error ready.understood stops
    rw [generate_of_parse_error parsed, o_eq]
    refine ⟨rfl, ready.fresh.empty.output, ?_⟩
    rw [ended_cons, ended_nil, String.append_empty, Directory.reported, ready.fresh.stderr,
      String.empty_append]
    rfl
  | ok program =>
    obtain ⟨progress, d', goes, failed, output, stderr⟩ := exists_goes_runText ready parsed
    have o_eq : o = _ := run_execute_of_ok ready.understood goes
    rw [o_eq, failed, generate_of_parse_ok parsed]
    cases run : started.2.runProgram program with
    | mk result last =>
      cases result with
      | ok lines =>
        obtain ⟨lines_eq, no_fault⟩ := Session.results_of_ok run options.keepGoing
        rw [lines_eq] at output stderr
        rw [no_fault] at stderr ⊢
        exact ⟨rfl, output, stderr⟩
      | error fault =>
        obtain ⟨before, failing, later, lines, reached, left, rfl, ran, fails⟩ :=
          Session.exists_of_runProgram_error (congrArg Prod.fst run)
        obtain ⟨lines_eq, faults_eq⟩ :=
          Session.results_of_error ran fails options.keepGoing later
        rw [lines_eq] at output stderr
        rw [faults_eq] at stderr ⊢
        exact ⟨before, failing, later, lines, reached, left, rfl, ran, fails, rfl, output, stderr⟩

/-- Two statements of which the first one faults, in a run that is to keep going, with a text of rules
that faults as well. -/
theorem execute_follows_generate_of_undefined :
    let source := "print(1, x)\nprint(1, 6)"
    let rules := "print(1, y)"
    let d : Directory := {
      files := [("in", source.toUTF8), ("my", rules.toUTF8)]
      processors := 4
      logged := fun warning => s!"WARN {warning.message} error={warning.error}\n" }
    let words := ["-k", "--seed", "7", "-p", "1", "-b", "my", "in", "out"]
    let options : Options :=
      { input := "in", output := some "out", seed := some 7, processes := 1, rules := .file "my",
        keepGoing := true }
    let o := StateT.run (execute Directory.host words) d
    Ready d words options 7 source (some rules) ∧
      generate source (options.settings 7 true) (some rules) =
        .error (.statement (.ruleNotFound "x" 1)) ∧
      o.1 = 1 ∧ o.2.output = "6\n" ∧
      o.2.stderr = "WARN one or more default rules may not be available " ++
        "error=Error on line 1: No such rule found 'y'.\nError on line 1: No such rule found 'x'.\n" := by
  intro source rules d words options o
  let undefined (name : String) := Statement.print 1 (.reference name 1) 1
  let six := Statement.print 1 (.literal (.integer 6) 2) 2
  have parsed : Program.parse source = .ok [undefined "x", six] := by cbv
  have rules_parsed : Program.parse rules = .ok [undefined "y"] := by cbv
  have ready : Ready d words options 7 source (some rules) := by
    refine ⟨⟨rfl, rfl, rfl⟩, ?_, rfl, rfl, ?_, ?_, ?_⟩
    · rfl
    · cbv
    · cbv
    · exact ⟨{ d with sink := .file "out" "" }, by cbv, trivial⟩
  let first := Session.start (options.settings 7 true)
  let second : Session := { first with master := first.master.fork.2 }
  let third : Session := { second with master := second.master.fork.2 }
  have throws (name : String) (unnamed : Category.ofName? name = none) :
      Expr.evaluate ∅ 1 [] (.reference name 1) = throw (.ruleNotFound name 1) := by
    rw [Expr.evaluate_reference _ 1 [] unnamed]
    rfl
  have loading_fails : first.process (undefined "y") = (.error (.ruleNotFound "y" 1), second) := by
    have throws : (first.grammar.resolve (.reference "y" 1)).evaluate first.grammar 1 [] =
        throw (.ruleNotFound "y" 1) := throws "y" (by decide)
    rw [Session.process_print, Session.generate_of_workers_le_one (le_refl 1), throws]
    rfl
  have fails : second.process (undefined "x") = (.error (.ruleNotFound "x" 1), third) := by
    have throws : (second.grammar.resolve (.reference "x" 1)).evaluate second.grammar 1 [] =
        throw (.ruleNotFound "x" 1) := throws "x" (by decide)
    rw [Session.process_print, Session.generate_of_workers_le_one (le_refl 1), throws]
    rfl
  have goes_on : (third.processAll [six]).1 = [.ok (some ["6"])] := by
    have value : (third.grammar.resolve (.literal (.integer 6) 2)).evaluate third.grammar 1 [] =
        pure (.constant (.integer 6) 1) := Expr.evaluate_literal _ 1 [] (.integer 6) 2
    rw [Session.processAll_cons, Session.process_print,
      Session.generate_of_workers_le_one (le_refl 1), value]
    rfl
  have started : Session.startWith (options.settings 7 true) (some rules) =
      (.error (.statement (.ruleNotFound "y" 1)), second) := by
    rw [Session.startWith, Session.load, Session.run, rules_parsed]
    dsimp only
    rw [Session.runProgram_of_error loading_fails]
    rfl
  have generated : generate source (options.settings 7 true) (some rules) =
      .error (.statement (.ruleNotFound "x" 1)) := by
    rw [generate_of_parse_ok parsed, started, Session.runProgram_of_error fails]
    rfl
  have follows := execute_follows_generate ready
  dsimp only at follows
  rw [generated, started] at follows
  obtain ⟨before, failing, later, lines, reached, left, program_eq, ran, failed, status, output,
    stderr⟩ := follows
  rw [parsed] at program_eq
  cases before with
  | cons statement before =>
    obtain ⟨rfl, -⟩ := List.cons.inj (Except.ok.inj program_eq)
    rw [Session.runProgram_of_error fails] at ran
    cases ran
  | nil =>
    obtain ⟨rfl, rfl⟩ := List.cons.inj (Except.ok.inj program_eq)
    cases ran
    cases fails.symm.trans failed
    rw [if_pos rfl, goes_on] at output stderr
    exact ⟨ready, generated, status, output, stderr⟩

end Commands

end Phrasemill.CommandLine
