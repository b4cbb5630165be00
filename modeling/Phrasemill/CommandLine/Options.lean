import Phrasemill.Settings

/-!
# Command line options

A command line names a grammar text and, if lines are not to go to standard output, a file for them.
Options stand anywhere: short ones may be joined (`-kt`), a value follows its option or is attached
to it (`-p 2`, `-p2`, `-p=2`, `--seed=7`), and after `--` every word is a file. An option is given at
most once, a value does not begin with a minus sign, and a file name is not empty.

The words are read in order, and the first that is wrong, or asks for help, decides.
-/

namespace Phrasemill.CommandLine

inductive Switch where
  | noOutput
  | time
  | processes
  | threshold
  | seed
  | rules
  | noRules
  | keepGoing
  | help
  | version
  deriving DecidableEq

namespace Switch

def all : List Switch :=
  [noOutput, time, processes, threshold, seed, rules, noRules, keepGoing, help, version]

def long : Switch → String
  | noOutput => "no-output"
  | time => "time"
  | processes => "processes"
  | threshold => "threshold"
  | seed => "seed"
  | rules => "bootstrap"
  | noRules => "no-bootstrap"
  | keepGoing => "keep-going"
  | help => "help"
  | version => "version"

def short? : Switch → Option Char
  | noOutput => some 'g'
  | time => some 't'
  | processes => some 'p'
  | rules => some 'b'
  | keepGoing => some 'k'
  | help => some 'h'
  | version => some 'V'
  | threshold | seed | noRules => none

def takesValue : Switch → Bool
  | processes | threshold | seed | rules => true
  | noOutput | time | noRules | keepGoing | help | version => false

def ofLong? (name : List Char) : Option Switch := all.find? (·.long.toList == name)

def ofShort? (c : Char) : Option Switch := all.find? (·.short? == some c)

end Switch

inductive Misuse where
  | unknownOption (word : String)
  | missingValue (switch : Switch)
  | needlessValue (switch : Switch)
  | repeated (switch : Switch)
  | badValue (switch : Switch) (value : String)
  | emptyPath
  | missingInput
  | extraFile (word : String)
  | conflict (first second : Switch)
  deriving DecidableEq

def Misuse.message : Misuse → String
  | unknownOption word => s!"unexpected option '{word}'"
  | missingValue switch => s!"option '--{switch.long}' needs a value"
  | needlessValue switch => s!"option '--{switch.long}' takes no value"
  | repeated switch => s!"option '--{switch.long}' is given twice"
  | badValue switch value => s!"invalid value '{value}' for '--{switch.long}'"
  | emptyPath => "a file name is empty"
  | missingInput => "no grammar text is given"
  | extraFile word => s!"unexpected file '{word}'"
  | conflict first second => s!"'--{first.long}' and '--{second.long}' exclude each other"

/-- Which rules a text can use beside its own. -/
inductive RulesChoice where
  | standard
  | none
  | file (path : String)
  deriving DecidableEq

structure Options where
  input : String
  output : Option String := none
  /-- Whether lines are generated without being put out. -/
  noOutput : Bool := false
  time : Bool := false
  processes : Nat := 0
  threshold : Nat := defaultThreshold
  seed : Option UInt64 := none
  rules : RulesChoice := .standard
  /-- Whether statements after a fault are run. -/
  keepGoing : Bool := false

/-! ### Words -/

/-- What a word of the command line says. -/
inductive Entry where
  | flag (switch : Switch)
  | setting (switch : Switch) (value : String)
  | file (path : String)
  | refused (reason : Misuse)
  deriving DecidableEq

/-- The entries of joined short options, and the one that waits for its value. -/
def shortEntries (word : String) : List Char → List Entry × Option Switch
  | [] => ([], none)
  | c :: cs =>
    match Switch.ofShort? c with
    | none => ([.refused (.unknownOption word)], none)
    | some switch =>
      if switch.takesValue then
        match cs with
        | [] => ([], some switch)
        | '=' :: value => ([.setting switch (String.ofList value)], none)
        | value => ([.setting switch (String.ofList value)], none)
      else
        let (entries, waiting) := shortEntries word cs
        (.flag switch :: entries, waiting)

/-- The entry of a long option without its two dashes, or the option if it waits for its value. -/
def longEntries (word : String) (cs : List Char) : List Entry × Option Switch :=
  match Switch.ofLong? (cs.takeWhile (· != '=')), cs.dropWhile (· != '=') with
  | none, _ => ([.refused (.unknownOption word)], none)
  | some switch, [] => if switch.takesValue then ([], some switch) else ([.flag switch], none)
  | some switch, _ :: value =>
    if switch.takesValue then ([.setting switch (String.ofList value)], none)
    else ([.refused (.needlessValue switch)], none)

/-- What one word says by itself. -/
def wordEntries (word : String) : List Entry × Option Switch :=
  match word.toList with
  | '-' :: '-' :: cs => longEntries word cs
  | '-' :: c :: cs => shortEntries word (c :: cs)
  | _ => ([.file word], none)

/-- Whether a word can be the value of the option before it. -/
def isValue (word : String) : Bool :=
  match word.toList with
  | '-' :: _ :: _ => false
  | _ => true

/-- What the words of a command line say, in order. -/
def entries : List String → List Entry
  | [] => []
  | word :: words =>
    if word = "--" then words.map .file
    else
      match wordEntries word, words with
      | (said, none), words => said ++ entries words
      | (said, some switch), value :: words =>
        if isValue value then said ++ .setting switch value :: entries words
        else said ++ [.refused (.missingValue switch)]
      | (said, some switch), [] => said ++ [.refused (.missingValue switch)]

/-! ### Options -/

/-- Why the words do not lead to a run. -/
inductive Halt where
  | misuse (reason : Misuse)
  | help
  | version
  deriving DecidableEq

structure Draft where
  given : List Switch := []
  files : List String := []
  processes : Nat := 0
  threshold : Nat := defaultThreshold
  seed : Option UInt64 := none
  rulesFile : Option String := none

/-- A number of 64 bits in decimal digits, with or without a plus sign. -/
def number? (text : String) : Option Nat :=
  let digits := match text.toList with
    | '+' :: cs => cs
    | cs => cs
  if digits ≠ [] ∧ digits.all (fun c => '0' ≤ c && c ≤ '9') then
    let n := Nat.ofDigitChars 10 digits 0
    if n < UInt64.size then some n else none
  else none

namespace Draft

/-- Notes that an option is given, which must not have been before. -/
def note (d : Draft) (switch : Switch) : Except Halt Draft :=
  if switch ∈ d.given then .error (.misuse (.repeated switch))
  else .ok { d with given := switch :: d.given }

def set (d : Draft) (switch : Switch) (value : String) : Except Halt Draft :=
  let number (f : Nat → Draft) : Except Halt Draft :=
    match number? value with
    | some n => .ok (f n)
    | none => .error (.misuse (.badValue switch value))
  match switch with
  | .processes => number fun n => { d with processes := n }
  | .threshold => number fun n => { d with threshold := n }
  | .seed => number fun n => { d with seed := some (UInt64.ofNat n) }
  | .rules =>
    if value = "" then .error (.misuse .emptyPath) else .ok { d with rulesFile := some value }
  | _ => .error (.misuse (.needlessValue switch))

def add (d : Draft) : Entry → Except Halt Draft
  | .refused reason => .error (.misuse reason)
  | .flag .help => .error .help
  | .flag .version => .error .version
  | .flag switch => d.note switch
  | .setting switch value => do
    let d ← d.note switch
    d.set switch value
  | .file path =>
    if path = "" then .error (.misuse .emptyPath)
    else if d.files.length < 2 then .ok { d with files := d.files ++ [path] }
    else .error (.misuse (.extraFile path))

def finish (d : Draft) : Except Halt Options := do
  if .rules ∈ d.given ∧ .noRules ∈ d.given then
    throw (.misuse (.conflict .rules .noRules))
  let rules : RulesChoice := match d.rulesFile with
    | some path => .file path
    | none => if .noRules ∈ d.given then .none else .standard
  match d.files with
  | [] => throw (.misuse .missingInput)
  | input :: files =>
    return {
      input := input
      output := files.head?
      noOutput := .noOutput ∈ d.given
      time := .time ∈ d.given
      processes := d.processes
      threshold := d.threshold
      seed := d.seed
      rules := rules
      keepGoing := .keepGoing ∈ d.given }

end Draft

def Options.ofWords (words : List String) : Except Halt Options := do
  let draft ← (entries words).foldlM Draft.add {}
  draft.finish

end Phrasemill.CommandLine
