import Phrasemill.Partition
import Phrasemill.Settings
import Phrasemill.StandardRules
import Phrasemill.Statement.Parser

/-!
# Sessions

A session runs statements in order. It holds the grammar defined so far, the pool of unique
candidates and the master source, from which every print statement forks its randomness. A statement
that faults puts out nothing, but the randomness it took from the master source and the candidates it
drew are gone.

A session can begin with rules loaded from another text. Loading stops at its first fault without
the session failing: the rules before it stay, and lines it prints are dropped. Why it stopped is told
beside the session.
-/

namespace Phrasemill

/-- Why a text could not be run to its end. -/
inductive Failure where
  | text (fault : SyntaxFault)
  | statement (fault : Fault)
  deriving DecidableEq

def Failure.message : Failure → String
  | text fault => fault.message
  | statement fault => fault.message

structure Session where
  settings : Settings
  grammar : Grammar
  pool : Pool
  /-- What the randomness of the next statement is forked from. -/
  master : RandomSource

namespace Session

/-- A session without rules in which nothing has been drawn. -/
def start (settings : Settings) : Session where
  settings := settings
  grammar := ∅
  pool := ∅
  master := .ofSeed settings.seed

def partition (s : Session) : Partition where
  workers := s.settings.workers
  threshold := s.settings.threshold
  threads := s.settings.threads

def generate (e : Expr) (count : Nat) (s : Session) : Except Fault Batch × Session :=
  let outcome := s.partition.run s.grammar (s.grammar.resolve e) count s.master s.pool
  (outcome.result, { s with master := outcome.source, pool := outcome.pool })

def define (name : String) (body : Expr) (s : Session) : Session :=
  { s with grammar := s.grammar.define name body }

/-- The lines a batch puts out under the settings. -/
def linesOf (settings : Settings) (batch : Batch) : List String :=
  if settings.materialize then batch.toLines else []

/-- Runs a statement. A print statement has lines, a definition has none to put out. -/
def process (statement : Statement) (s : Session) : Except Fault (Option (List String)) × Session :=
  match statement with
  | .define name value _ => (.ok none, s.define name value)
  | .print count e _ =>
    match s.generate e count with
    | (.ok batch, s) => (.ok (some (linesOf s.settings batch)), s)
    | (.error fault, s) => (.error fault, s)

/-- Runs statements up to the first fault. -/
def runProgram : Program → Session → Except Fault (List String) × Session
  | [], s => (.ok [], s)
  | statement :: statements, s =>
    match s.process statement with
    | (.error fault, s) => (.error fault, s)
    | (.ok lines, s) =>
      match s.runProgram statements with
      | (.ok more, s) => (.ok (lines.getD [] ++ more), s)
      | (.error fault, s) => (.error fault, s)

/-- Runs every statement, whether the ones before it fault or not. -/
def processAll : Program → Session → List (Except Fault (Option (List String))) × Session
  | [], s => ([], s)
  | statement :: statements, s =>
    let (result, s) := s.process statement
    let (results, s) := s.processAll statements
    (result :: results, s)

/-- Runs a text, which is read completely before anything happens. -/
def run (source : String) (s : Session) : Except Failure (List String) × Session :=
  match Program.parse source with
  | .error fault => (.error (.text fault), s)
  | .ok program =>
    match s.runProgram program with
    | (.ok lines, s) => (.ok lines, s)
    | (.error fault, s) => (.error (.statement fault), s)

/-- Runs a text for its rules alone. -/
def load (source : String) (s : Session) : Except Failure Unit × Session :=
  let (result, s) := s.run source
  (result.map fun _ => (), s)

/-- A session that begins with the rules of a text, as far as they can be loaded, and what came of
loading them. -/
def startWith (settings : Settings) : Option String → Except Failure Unit × Session
  | none => (.ok (), start settings)
  | some source => (start settings).load source

end Session

/-- The lines of a text, run in a new session that begins with `rules`. -/
def generate (source : String) (settings : Settings) (rules : Option String := some standardRules) :
    Except Failure (List String) :=
  ((Session.startWith settings rules).2.run source).1

end Phrasemill
