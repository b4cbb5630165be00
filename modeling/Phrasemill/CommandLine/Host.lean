/-!
# Hosts

What the command line needs from the machine it runs on, as a record of actions: files, the two
output streams, a log, a clock, and a seed for runs that name none. The command line itself is the same
whether the host is a real machine or a directory held in memory.
-/

namespace Phrasemill.CommandLine

/-- Why a file could not be used. -/
inductive FileFault where
  | missing
  | isDirectory
  | notDirectory
  | nameTooLong
  | noSpace
  | notText
  | other (reason : String)
  deriving DecidableEq

def FileFault.reason : FileFault → String
  | missing => "No such file or directory (os error 2)"
  | isDirectory => "Is a directory (os error 21)"
  | notDirectory => "Not a directory (os error 20)"
  | nameTooLong => "File name too long (os error 36)"
  | noSpace => "No space left on device (os error 28)"
  | notText => "stream did not contain valid UTF-8"
  | other reason => reason

/-- An entry of the log: something went wrong, and the run goes on. Entries of less weight, for which
a log has to be asked, are left out. -/
structure Warning where
  message : String
  /-- What went wrong. -/
  error : String

/-- The machine as the command line sees it. -/
structure Host (m : Type → Type) where
  readText (path : String) : m (Except FileFault String)
  /-- Makes a file empty and sends all later lines there. -/
  openOutput (path : String) : m (Except FileFault Unit)
  /-- Puts out a line, on standard output unless another place has been opened. -/
  putLine (line : String) : m (Except FileFault Unit)
  /-- Sees to it that all lines put out have gone where they go. -/
  flush : m (Except FileFault Unit)
  /-- Puts a line on standard error. -/
  report (line : String) : m Unit
  /-- Enters a warning in the log. In what form it is seen, if at all, is up to the machine. -/
  warn (warning : Warning) : m Unit
  /-- A moment of the clock. -/
  now : m Nat
  /-- The seconds since a moment, with three decimal places. -/
  secondsSince (start : Nat) : m String
  /-- A seed that nothing is known about. -/
  freshSeed : m UInt64
  /-- How many processors there are. -/
  processors : m Nat

end Phrasemill.CommandLine
