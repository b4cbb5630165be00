import Phrasemill.CommandLine.Run

/-!
# The program

The real machine as a host of the command line. Nothing is decided here.
-/

namespace Phrasemill.CommandLine

def FileFault.ofError : IO.Error → FileFault
  | .noFileOrDirectory .. => .missing
  | .inappropriateType _ code details =>
    if code = 21 ∨ code = 0 - 21 then .isDirectory
    else if code = 20 ∨ code = 0 - 20 then .notDirectory
    else .other details
  | .invalidArgument _ code details =>
    if code = 36 ∨ code = 0 - 36 then .nameTooLong else .other details
  | .resourceExhausted _ code details =>
    if code = 28 ∨ code = 0 - 28 then .noSpace else .other details
  | error => .other (toString error)

/-- An action on a file, with the machine's refusal as a result. -/
def onMachine {α : Type} (action : IO α) : IO (Except FileFault α) := do
  try
    return .ok (← action)
  catch error =>
    return .error (.ofError error)

def secondsText (milliseconds : Nat) : String :=
  let thousandths := toString (1000 + milliseconds % 1000)
  toString (milliseconds / 1000) ++ "." ++ String.ofList (thousandths.toList.drop 1)

/-- How many numbers a list such as 0-3,8 names. -/
def countNumbers (ranges : String) : Nat :=
  (ranges.splitOn ",").foldl (fun counted range =>
    match (range.splitOn "-").map String.toNat? with
    | [some first, some last] => counted + (last + 1 - first)
    | [some _] => counted + 1
    | _ => counted) 0

/-- How many processors a program may use, from what the machine tells it about itself. -/
def allowedProcessors (status : String) : Nat :=
  (status.splitOn "\n").foldl (fun allowed line =>
    match line.splitOn "\t" with
    | ["Cpus_allowed_list:", ranges] => countNumbers ranges
    | _ => allowed) 1

/-- Whether warnings are to be seen. They are unless the environment asks for less. -/
def showsWarnings : IO Bool := do
  match ← IO.getEnv "PHRASEMILL_LOG" with
  | some level => return level ∉ ["off", "error"]
  | none => return true

/-- The machine, with lines going where `output` says. -/
def machine (output : IO.Ref IO.FS.Stream) : Host IO where
  readText path := do
    match ← onMachine (IO.FS.readBinFile path) with
    | .error fault => return .error fault
    | .ok bytes =>
      match String.fromUTF8? bytes with
      | some text => return .ok text
      | none => return .error .notText
  openOutput path := onMachine do
    output.set (.ofHandle (← IO.FS.Handle.mk path .write))
  putLine line := onMachine do
    (← output.get).putStr (line ++ "\n")
  flush := onMachine do
    (← output.get).flush
  report line := do
    (← IO.getStderr).putStr (line ++ "\n")
  warn warning := do
    if ← showsWarnings then
      (← IO.getStderr).putStr s!" WARN phrasemill: {warning.message} error={warning.error}\n"
  now := IO.monoNanosNow
  secondsSince start := do
    return secondsText (((← IO.monoNanosNow) - start + 500000) / 1000000)
  freshSeed := do
    let bytes ← IO.getRandomBytes 8
    return bytes.foldl (fun seed byte => seed * 256 + byte.toUInt64) 0
  processors := do
    match ← onMachine (IO.FS.readFile "/proc/self/status") with
    | .ok status => return allowedProcessors status
    | .error _ => return 1

end Phrasemill.CommandLine

/-- Runs the command line the program was started with. -/
def main (args : List String) : IO UInt32 := do
  let output ← IO.mkRef (← IO.getStdout)
  Phrasemill.CommandLine.execute (Phrasemill.CommandLine.machine output) args
