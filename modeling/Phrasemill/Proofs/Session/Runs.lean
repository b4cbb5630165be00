import Mathlib
import Phrasemill.Proofs.Session

/-!
# Programs that stop at a fault and programs that go on

What comes of a program, statement by statement, whether its first fault ends it or not
(`Session.results`). Up to the first fault there is no difference: a program that is run to its first
fault has put out the lines that came of the statements before (`Session.results_append`), and it
leaves the state that the others would be run from. Whether lines are made of what is generated decides
about the lines alone (`Session.results_silent`).
-/

namespace Phrasemill

/-- What comes of a statement. -/
abbrev Result := Except Fault (Option (List String))

namespace Result

def lines : Result → List String
  | .ok lines => lines.getD []
  | .error _ => []

def fault? : Result → Option Fault
  | .ok _ => none
  | .error fault => some fault

/-- The result of a statement whose lines are not made. -/
def silent (r : Result) : Result := r.map (Option.map fun _ => [])

@[simp] theorem lines_silent (r : Result) : r.silent.lines = [] := by
  cases r with
  | ok lines => cases lines <;> rfl
  | error fault => rfl

@[simp] theorem fault?_silent (r : Result) : r.silent.fault? = r.fault? := by
  cases r <;> rfl

end Result

namespace Session

/-- What comes of the statements of a program. The first fault ends it unless it is to keep going. -/
def results (keepGoing : Bool) : Program → Session → List Result
  | [], _ => []
  | statement :: p, s =>
    match s.process statement with
    | (.ok lines, s) => .ok lines :: s.results keepGoing p
    | (.error fault, s) => .error fault :: if keepGoing then s.results keepGoing p else []

theorem results_true (p : Program) (s : Session) : s.results true p = (s.processAll p).1 := by
  induction p generalizing s with
  | nil => rfl
  | cons statement p ih =>
    rw [results, processAll_cons]
    cases s.process statement with
    | mk result left =>
      cases result with
      | ok lines => exact congrArg _ (ih left)
      | error fault => exact congrArg _ (ih left)

/-! ### The first fault -/

theorem runProgram_of_error {statement : Statement} {s left : Session} {fault : Fault}
    (here : s.process statement = (.error fault, left)) (p : Program) :
    s.runProgram (statement :: p) = (.error fault, left) := by
  rw [runProgram, here]

theorem runProgram_of_ok {statement : Statement} {s left : Session} {lines : Option (List String)}
    (here : s.process statement = (.ok lines, left)) (p : Program) :
    s.runProgram (statement :: p) =
      ((left.runProgram p).1.map (lines.getD [] ++ ·), (left.runProgram p).2) := by
  rw [runProgram, here]
  dsimp only
  cases left.runProgram p with
  | mk result last => cases result <;> rfl

/-- A program that faults has a statement that does, and none before it. -/
theorem exists_of_runProgram_error {p : Program} {s : Session} {fault : Fault}
    (faulted : (s.runProgram p).1 = .error fault) :
    ∃ before failing later lines reached left, p = before ++ failing :: later ∧
      s.runProgram before = (.ok lines, reached) ∧
      reached.process failing = (.error fault, left) := by
  induction p generalizing s with
  | nil => cases faulted
  | cons statement p ih =>
    cases here : s.process statement with
    | mk result after =>
      cases result with
      | error first =>
        rw [runProgram_of_error here] at faulted
        cases faulted
        exact ⟨[], statement, p, [], s, after, rfl, rfl, here⟩
      | ok first =>
        rw [runProgram_of_ok here] at faulted
        have later_faulted : (after.runProgram p).1 = .error fault := by
          cases rest : (after.runProgram p).1 with
          | error later => rw [rest] at faulted; exact faulted
          | ok lines => rw [rest] at faulted; cases faulted
        obtain ⟨before, failing, later, lines, reached, left, rfl, run, fails⟩ := ih later_faulted
        refine ⟨statement :: before, failing, later, first.getD [] ++ lines, reached, left, rfl, ?_,
          fails⟩
        rw [runProgram_of_ok here, run]
        rfl

/-- Behind statements that do not fault a program goes on from the state they left. -/
theorem results_append {before : Program} {s reached : Session} {lines : List String}
    (run : s.runProgram before = (.ok lines, reached)) (keepGoing : Bool) (later : Program) :
    ∃ done, s.results keepGoing (before ++ later) = done ++ reached.results keepGoing later ∧
      done.flatMap Result.lines = lines ∧ done.filterMap Result.fault? = [] := by
  induction before generalizing s lines with
  | nil =>
    cases run
    exact ⟨[], rfl, rfl, rfl⟩
  | cons statement before ih =>
    cases here : s.process statement with
    | mk result after =>
      cases result with
      | error fault =>
        rw [runProgram_of_error here] at run
        cases run
      | ok first =>
        rw [runProgram_of_ok here] at run
        cases rest : after.runProgram before with
        | mk result last =>
          rw [rest] at run
          cases result with
          | error fault => cases run
          | ok more =>
            cases run
            obtain ⟨done, results_eq, lines_eq, no_fault⟩ := ih rest
            refine ⟨.ok first :: done, ?_, ?_, no_fault⟩
            · rw [List.cons_append, results, here, List.cons_append]
              exact congrArg _ results_eq
            · rw [List.flatMap_cons, lines_eq]
              rfl

/-- What comes of a program that is run to its end. -/
theorem results_of_ok {p : Program} {s reached : Session} {lines : List String}
    (run : s.runProgram p = (.ok lines, reached)) (keepGoing : Bool) :
    (s.results keepGoing p).flatMap Result.lines = lines ∧
      (s.results keepGoing p).filterMap Result.fault? = [] := by
  obtain ⟨done, results_eq, lines_eq, no_fault⟩ := results_append run keepGoing []
  rw [List.append_nil, results, List.append_nil] at results_eq
  rw [results_eq]
  exact ⟨lines_eq, no_fault⟩

/-- What comes of a program with a statement that faults: the lines of those before it, its fault, and,
if it is to keep going, what comes of the others from the state that the fault left. -/
theorem results_of_error {before : Program} {failing : Statement} {s reached left : Session}
    {lines : List String} {fault : Fault} (run : s.runProgram before = (.ok lines, reached))
    (fails : reached.process failing = (.error fault, left)) (keepGoing : Bool) (later : Program) :
    let more := if keepGoing then (left.processAll later).1 else []
    (s.results keepGoing (before ++ failing :: later)).flatMap Result.lines =
        lines ++ more.flatMap Result.lines ∧
      (s.results keepGoing (before ++ failing :: later)).filterMap Result.fault? =
        fault :: more.filterMap Result.fault? := by
  intro more
  obtain ⟨done, results_eq, lines_eq, no_fault⟩ := results_append run keepGoing (failing :: later)
  have rest : reached.results keepGoing (failing :: later) = .error fault :: more := by
    rw [results, fails]
    cases keepGoing with
    | true => exact congrArg _ (results_true later left)
    | false => rfl
  rw [results_eq, rest, List.flatMap_append, List.filterMap_append, lines_eq, no_fault]
  exact ⟨rfl, rfl⟩

/-! ### Sessions that make no lines -/

/-- The session with its lines turned off. -/
def silent (s : Session) : Session := { s with settings := { s.settings with materialize := false } }

theorem process_silent (statement : Statement) (s : Session) :
    s.silent.process statement =
      (Result.silent (s.process statement).1, (s.process statement).2.silent) := by
  cases statement with
  | define name body line => rfl
  | print count e line =>
    have generated : s.silent.generate e count =
        ((s.generate e count).1, (s.generate e count).2.silent) := rfl
    rw [process_print, process_print, generated]
    cases (s.generate e count).1 <;> rfl

theorem results_silent (keepGoing : Bool) (p : Program) (s : Session) :
    s.silent.results keepGoing p = (s.results keepGoing p).map Result.silent := by
  induction p generalizing s with
  | nil => rfl
  | cons statement p ih =>
    rw [results, results, process_silent]
    cases s.process statement with
    | mk result left =>
      cases result with
      | ok lines => exact congrArg _ (ih left)
      | error fault =>
        cases keepGoing with
        | true => exact congrArg _ (ih left)
        | false => rfl

theorem runProgram_silent (p : Program) (s : Session) :
    s.silent.runProgram p = ((s.runProgram p).1.map fun _ => [], (s.runProgram p).2.silent) := by
  induction p generalizing s with
  | nil => rfl
  | cons statement p ih =>
    have silent_here := process_silent statement s
    cases here : s.process statement with
    | mk result left =>
      rw [here] at silent_here
      cases result with
      | error fault =>
        rw [runProgram_of_error here, runProgram_of_error silent_here]
        rfl
      | ok lines =>
        rw [runProgram_of_ok here, runProgram_of_ok silent_here, ih]
        cases (left.runProgram p).1 <;> cases lines <;> rfl

/-- Loading a text does not depend on whether lines are made. -/
theorem load_silent (source : String) (s : Session) :
    s.silent.load source = ((s.load source).1, (s.load source).2.silent) := by
  rw [load, load, run, run]
  cases Program.parse source with
  | error fault => rfl
  | ok p =>
    dsimp only
    rw [runProgram_silent]
    cases s.runProgram p with
    | mk result left => cases result <;> rfl

theorem startWith_silent (settings : Settings) (rules : Option String) :
    startWith { settings with materialize := false } rules =
      ((startWith settings rules).1, (startWith settings rules).2.silent) := by
  cases rules with
  | none => rfl
  | some source => exact load_silent source (start settings)

end Session

theorem generate_of_parse_ok {source : String} {p : Program} (parsed : Program.parse source = .ok p)
    (settings : Settings) (rules : Option String) :
    generate source settings rules =
      ((Session.startWith settings rules).2.runProgram p).1.mapError .statement := by
  rw [generate, Session.run, parsed]
  dsimp only
  cases (Session.startWith settings rules).2.runProgram p with
  | mk result left => cases result <;> rfl

theorem generate_of_parse_error {source : String} {fault : SyntaxFault}
    (parsed : Program.parse source = .error fault) (settings : Settings) (rules : Option String) :
    generate source settings rules = .error (.text fault) := by
  rw [generate, Session.run, parsed]

end Phrasemill
