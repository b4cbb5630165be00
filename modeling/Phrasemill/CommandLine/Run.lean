import Phrasemill.CommandLine.Host
import Phrasemill.CommandLine.Options
import Phrasemill.Session

/-!
# Running a command line

The grammar text is read and parsed first, then the text with further rules is read, and only then is
the output opened, so that nothing is touched when a text cannot be used. Rules that cannot all be
loaded do not end the run: that is a matter for the log. Statements run in order and
put out their lines at once; a fault is reported and ends the run unless it is to keep going. In the
end all lines must have gone where they go, before the time is reported. The run succeeds, with status
0, if nothing went wrong; a refused command line has status 2, all else 1.
-/

namespace Phrasemill.CommandLine

/-- Why a run ends early. -/
inductive Abort where
  | text (fault : SyntaxFault)
  | file (path : String) (fault : FileFault)
  deriving DecidableEq

def Abort.message : Abort → String
  | text fault => fault.message
  | file path fault => s!"I/O error on '{path}': {fault.reason}"

/-- What has come out of the statements so far. -/
structure Progress where
  lines : Nat := 0
  failed : Bool := false

variable {m : Type → Type} [Monad m]

/-- A run that can end early. -/
abbrev Running (m : Type → Type) := ExceptT Abort m

/-- Ends the run if the file cannot be used. -/
def onFile {α : Type} (path : String) (action : m (Except FileFault α)) : Running m α :=
  ExceptT.mk do return (← action).mapError (Abort.file path)

/-- Puts out the lines of a statement. -/
def putLines (host : Host m) (place : String) : List String → Running m Unit
  | [] => pure ()
  | line :: lines => do
    onFile place (host.putLine line)
    putLines host place lines

/-- Runs statements from a session, each as soon as the lines of the one before are out. -/
def runStatements (host : Host m) (place : String) (keepGoing : Bool) :
    Program → Session → Progress → Running m Progress
  | [], _, progress => return progress
  | statement :: statements, session, progress =>
    match session.process statement with
    | (.ok none, session) => runStatements host place keepGoing statements session progress
    | (.ok (some lines), session) => do
      putLines host place lines
      runStatements host place keepGoing statements session
        { progress with lines := progress.lines + lines.length }
    | (.error fault, session) => do
      host.report fault.message
      let progress := { progress with failed := true }
      if keepGoing then runStatements host place keepGoing statements session progress
      else return progress

/-- What the log is told of rules that could not all be loaded. -/
def Warning.ofRules (failure : Failure) : Warning where
  message := "one or more default rules may not be available"
  error := failure.message

/-- Begins a session with further rules, and warns if they could not all be loaded. -/
def startSession (host : Host m) (settings : Settings) (rules : Option String) : Running m Session := do
  let (loaded, session) := Session.startWith settings rules
  if let .error failure := loaded then
    host.warn (.ofRules failure)
  return session

def rulesText (host : Host m) : RulesChoice → Running m (Option String)
  | .standard => return some standardRules
  | .none => return none
  | .file path => return some (← onFile path (host.readText path))

def runText (host : Host m) (options : Options) : Running m Progress := do
  let source ← onFile options.input (host.readText options.input)
  let program ← ExceptT.mk (pure ((Program.parse source).mapError Abort.text))
  let rules ← rulesText host options.rules
  let seed ← match options.seed with
    | some seed => pure seed
    | none => host.freshSeed
  -- Chunks are evaluated one after the other here, which takes no threads that could be refused.
  let settings : Settings := {
    workers := (Workers.ofCount options.processes).resolve (← host.processors)
    threshold := options.threshold
    materialize := !options.noOutput
    seed := seed }
  let session ← startSession host settings rules
  let place := options.output.getD "<stdout>"
  if let some path := options.output then
    onFile path (host.openOutput path)
  let start ← host.now
  let progress ← runStatements host place options.keepGoing program session {}
  onFile place host.flush
  if options.time then
    host.report s!"Generated {progress.lines} lines in {← host.secondsSince start}s"
  return progress

def usage : String :=
  "Usage: phrasemill [OPTIONS] <INPUT> [OUTPUT]\n\n"
    ++ "  -g, --no-output         generate without putting anything out\n"
    ++ "  -t, --time              report the time taken\n"
    ++ "  -p, --processes <N>     split large print statements among N workers (0: one each)\n"
    ++ "      --threshold <N>     split print statements from N repetitions on\n"
    ++ "      --seed <N>          make the output reproducible\n"
    ++ "  -b, --bootstrap <FILE>  load the rules of a file instead of the standard ones\n"
    ++ "      --no-bootstrap      load no rules\n"
    ++ "  -k, --keep-going        go on after a statement that faults\n"
    ++ "  -h, --help              show this text\n"
    ++ "  -V, --version           show the version"

def execute (host : Host m) (words : List String) : m UInt32 := do
  match Options.ofWords words with
  | .error .help =>
    let _ ← host.putLine usage
    return 0
  | .error .version =>
    let _ ← host.putLine "phrasemill 0.1.0"
    return 0
  | .error (.misuse reason) =>
    host.report s!"error: {reason.message}\n\n{usage}"
    return 2
  | .ok options =>
    match ← (runText host options).run with
    | .ok progress => return if progress.failed then 1 else 0
    | .error reason =>
      host.report reason.message
      return 1

end Phrasemill.CommandLine
