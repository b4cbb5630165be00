import Phrasemill.CommandLine.Host

/-!
# Directories in memory

A host without a machine: one directory of files, and the texts that have gone to the two output
streams. Standard input is empty. Time stands still and is written as a number sign. The log goes to
standard error, in a form of its own.

A path is walked part by part, from the directory or, if it begins with a slash, from the root. All
but the last part have to lead to a directory; the last one may also be a file, or a name that no file
has yet. The directory has no directories inside. Of what lies outside of it only this much is known:
that every directory has one above it, the root being its own, and a few directories and devices by
their names from the root.

Lines go to a file or a stream at once. To a device they go in blocks: they are gathered until the
next piece does not fit, or until they are flushed. That decides when the full device refuses them and
where they stand among the reports if both go to standard error.
-/

namespace Phrasemill.CommandLine

/-- A name that stands for an end of the machine. There is nothing to read from any of them. -/
inductive Device where
  | null
  /-- Standard input, which forgets what is put there. -/
  | stdin
  | stdout
  | stderr
  | full
  deriving DecidableEq

inductive Sink where
  | stdout
  /-- A file, and what has gone there. -/
  | file (name text : String)
  /-- A device, and what has been gathered for it. -/
  | device (device : Device) (gathered : String)

/-- A directory and the two output streams. -/
structure Directory where
  files : List (String × ByteArray)
  sink : Sink := .stdout
  stdout : String := ""
  stderr : String := ""
  processors : Nat := 1
  /-- How the log writes a warning: as nothing where it is told to keep quiet. -/
  logged : Warning → String

namespace Directory

/-- A directory that a walk can stand in. -/
inductive Location where
  /-- The directory whose files are known. -/
  | here
  /-- The directory that lies `levels + 1` levels above it. -/
  | above (levels : Nat)
  /-- The directory that the parts lead to from the root, the last part first. -/
  | fromRoot (parts : List String)

namespace Location

def parent : Location → Location
  | here => above 0
  | above levels => above (levels + 1)
  | fromRoot parts => fromRoot parts.tail

/-- What stands before the names of files of a directory. -/
def lead : Location → String
  | here => ""
  | above levels => String.join (List.replicate (levels + 1) "../")
  | fromRoot parts => "/" ++ String.join (parts.reverse.map (· ++ "/"))

/-- The directory of a name, where directories have directories inside. -/
def inside : Location → String → Location
  | fromRoot parts, name => fromRoot (name :: parts)
  | location, _ => location

end Location

inductive Place where
  | directory (location : Location)
  | file (name : String)
  | device (device : Device)
  /-- A name that no file has yet. -/
  | vacant (name : String)

/-- The directories that are known by their names from the root. -/
def directories : List String :=
  ["/bin", "/dev", "/dev/fd", "/etc", "/home", "/lib", "/opt", "/proc", "/proc/self",
    "/proc/self/fd", "/root", "/run", "/sbin", "/sys", "/tmp", "/usr", "/usr/bin", "/usr/lib", "/var",
    "/var/tmp"]

/-- The devices by their names from the root. -/
def devices : List (String × Device) :=
  [("/dev/null", .null), ("/dev/zero", .null), ("/dev/full", .full),
    ("/dev/stdin", .stdin), ("/dev/fd/0", .stdin), ("/proc/self/fd/0", .stdin),
    ("/dev/stdout", .stdout), ("/dev/fd/1", .stdout), ("/proc/self/fd/1", .stdout),
    ("/dev/stderr", .stderr), ("/dev/fd/2", .stderr), ("/proc/self/fd/2", .stderr)]

def contents? (d : Directory) (name : String) : Option ByteArray :=
  match d.sink with
  | .file file text => if file = name then some text.toUTF8 else d.files.lookup name
  | _ => d.files.lookup name

/-- What a part of a path leads to from a directory. -/
def step (d : Directory) (location : Location) (part : String) : Place :=
  let name := location.lead ++ part
  if part = "." then .directory location
  else if part = ".." then .directory location.parent
  else if name ∈ directories then .directory (location.inside part)
  else
    match devices.lookup name with
    | some device => .device device
    | none => if (d.contents? name).isSome then .file name else .vacant name

def partLimit : Nat := 255

def pathLimit : Nat := 4095

/-- Where the parts of a path lead from a directory. -/
def walk (d : Directory) (location : Location) : List String → Except FileFault Place
  | [] => .ok (.directory location)
  | part :: rest =>
    if partLimit < part.utf8ByteSize then .error .nameTooLong
    else
      match d.step location part with
      | .directory next => d.walk next rest
      | .vacant name => if rest.isEmpty then .ok (.vacant name) else .error .missing
      | place => if rest.isEmpty then .ok place else .error .notDirectory

def place (d : Directory) (path : String) : Except FileFault Place :=
  if pathLimit < path.utf8ByteSize then .error .nameTooLong
  else
    let start := if path.startsWith "/" then .fromRoot [] else .here
    d.walk start ((path.splitOn "/").filter (· ≠ ""))

/-- Reads a file as a text. A path that ends in a slash asks for a directory. -/
def readText (d : Directory) (path : String) : Except FileFault String := do
  match ← d.place path with
  | .directory _ => .error .isDirectory
  | .vacant _ => .error .missing
  | .file name =>
    if path.endsWith "/" then .error .notDirectory
    else
      match (d.contents? name).bind String.fromUTF8? with
      | some text => .ok text
      | none => .error .notText
  | .device _ => if path.endsWith "/" then .error .notDirectory else .ok ""

/-- Opens a file for the lines to come, a new one if there is none. No file can be made by a name
that ends in a slash. -/
def openOutput (d : Directory) (path : String) : Except FileFault Unit × Directory :=
  match d.place path with
  | .error fault => (.error fault, d)
  | .ok (.directory _) => (.error .isDirectory, d)
  | .ok (.file name) | .ok (.vacant name) =>
    if path.endsWith "/" then (.error .isDirectory, d)
    else (.ok (), { d with sink := .file name "" })
  | .ok (.device device) =>
    if path.endsWith "/" then (.error .isDirectory, d)
    else (.ok (), { d with sink := .device device "" })

/-- How many bytes are gathered at most. -/
def blockSize : Nat := 8192

/-- Adds a piece to what has been gathered: what goes out now, and what is gathered then. A piece that
does not fit sends out what was there before it; one as large as a block goes out itself. -/
def gather (gathered piece : String) : String × String :=
  if blockSize ≤ piece.utf8ByteSize then (gathered ++ piece, "")
  else if blockSize < gathered.utf8ByteSize + piece.utf8ByteSize then (gathered, piece)
  else ("", gathered ++ piece)

def send (d : Directory) (device : Device) (text : String) : Except FileFault Unit × Directory :=
  match device with
  | .null | .stdin => (.ok (), d)
  | .stdout => (.ok (), { d with stdout := d.stdout ++ text })
  | .stderr => (.ok (), { d with stderr := d.stderr ++ text })
  | .full => (if text = "" then .ok () else .error .noSpace, d)

def putLine (d : Directory) (line : String) : Except FileFault Unit × Directory :=
  match d with
  | ⟨files, .stdout, stdout, stderr, processors, logged⟩ =>
    (.ok (), ⟨files, .stdout, stdout ++ line ++ "\n", stderr, processors, logged⟩)
  | ⟨files, .file name text, stdout, stderr, processors, logged⟩ =>
    (.ok (), ⟨files, .file name (text ++ line ++ "\n"), stdout, stderr, processors, logged⟩)
  | ⟨files, .device device gathered, stdout, stderr, processors, logged⟩ =>
    let (first, gathered) := gather gathered line
    let (second, gathered) := gather gathered "\n"
    send ⟨files, .device device gathered, stdout, stderr, processors, logged⟩ device (first ++ second)

def flush (d : Directory) : Except FileFault Unit × Directory :=
  match d.sink with
  | .device device gathered => send { d with sink := .device device "" } device gathered
  | _ => (.ok (), d)

def host : Host (StateM Directory) where
  readText path := do return (← get).readText path
  openOutput path := modifyGet (·.openOutput path)
  putLine line := modifyGet (·.putLine line)
  flush := modifyGet flush
  report line := modify fun d => { d with stderr := d.stderr ++ line ++ "\n" }
  warn warning := modify fun d => { d with stderr := d.stderr ++ d.logged warning }
  now := return 0
  secondsSince _ := return "#"
  freshSeed := return 0
  processors := return (← get).processors

end Directory

end Phrasemill.CommandLine
