import Mathlib
import Phrasemill.CommandLine.Directory

/-!
# What a directory takes in

Lines that are put out come to their place in order, each ended, whatever is gathered on the way, and
reports come to standard error (`Directory.Shows`). This is so if the place is standard output, also by
its name as a device, or a file. The other devices drop lines, refuse them or have reports among them.
-/

namespace Phrasemill.CommandLine

/-- Lines as a text, each ended. -/
def ended (lines : List String) : String := String.join (lines.map (· ++ "\n"))

theorem ended_nil : ended [] = "" := String.join_nil

theorem ended_cons (line : String) (lines : List String) :
    ended (line :: lines) = line ++ "\n" ++ ended lines := by
  rw [ended, List.map_cons, String.join_cons, ended]

theorem ended_append (lines more : List String) :
    ended (lines ++ more) = ended lines ++ ended more := by
  rw [ended, List.map_append, String.join_append, ended, ended]

/-- Whatever goes there can be seen later on, and it does not get among the reports. -/
def Sink.Keeps : Sink → Prop
  | .stdout | .file _ _ | .device .stdout _ => True
  | .device _ _ => False

theorem Sink.eq_stdout_of_keeps {device : Device} {gathered : String}
    (keeps : (Sink.device device gathered).Keeps) : device = .stdout := by
  cases device with
  | stdout => rfl
  | null | stdin | stderr | full => cases keeps

namespace Directory

/-- What has gone to the place of the lines. -/
def output (d : Directory) : String :=
  match d.sink with
  | .file _ text => text
  | _ => d.stdout

/-- What is on its way there. -/
def pending (d : Directory) : String :=
  match d.sink with
  | .device _ gathered => gathered
  | _ => ""

/-- From the first state to the second one these lines were put out and these lines were reported. -/
structure Shows (d d' : Directory) (lines reports : List String) : Prop where
  keeps : d'.sink.Keeps
  output : d'.output ++ d'.pending = d.output ++ d.pending ++ ended lines
  stderr : d'.stderr = d.stderr ++ ended reports

variable {d d' d'' : Directory} {lines more reports reports' : List String}

theorem shows_nothing (keeps : d.sink.Keeps) : d.Shows d [] [] :=
  ⟨keeps, by rw [ended_nil, String.append_empty], by rw [ended_nil, String.append_empty]⟩

theorem Shows.trans (h : d.Shows d' lines reports) (h' : d'.Shows d'' more reports') :
    d.Shows d'' (lines ++ more) (reports ++ reports') where
  keeps := h'.keeps
  output := by rw [h'.output, h.output, ended_append, String.append_assoc]
  stderr := by rw [h'.stderr, h.stderr, ended_append, String.append_assoc]

theorem gather_append (gathered piece : String) :
    (gather gathered piece).1 ++ (gather gathered piece).2 = gathered ++ piece := by
  unfold gather
  split
  · exact String.append_empty
  · split
    · rfl
    · exact String.empty_append

theorem shows_putLine (keeps : d.sink.Keeps) (line : String) :
    ∃ d', d.putLine line = (.ok (), d') ∧ d.Shows d' [line] [] := by
  obtain ⟨files, sink, stdout, stderr, processors, logged⟩ := d
  have one : ended [line] = line ++ "\n" := by rw [ended_cons, ended_nil, String.append_empty]
  have none : stderr = stderr ++ ended [] := by rw [ended_nil, String.append_empty]
  cases sink with
  | stdout =>
    refine ⟨_, rfl, keeps, ?_, none⟩
    simp only [output, pending, one, String.append_empty, String.append_assoc]
  | file name text =>
    refine ⟨_, rfl, keeps, ?_, none⟩
    simp only [output, pending, one, String.append_empty, String.append_assoc]
  | device device gathered =>
    obtain rfl := Sink.eq_stdout_of_keeps keeps
    refine ⟨_, rfl, trivial, ?_, none⟩
    -- The line and its end are gathered one after the other.
    let first := gather gathered line
    let second := gather first.2 "\n"
    calc stdout ++ (first.1 ++ second.1) ++ second.2
        = stdout ++ (first.1 ++ (second.1 ++ second.2)) := by simp only [String.append_assoc]
      _ = stdout ++ (first.1 ++ first.2 ++ "\n") := by rw [gather_append, String.append_assoc]
      _ = stdout ++ gathered ++ ended [line] := by
        rw [gather_append, one]
        simp only [String.append_assoc]

theorem shows_flush (keeps : d.sink.Keeps) :
    ∃ d', d.flush = (.ok (), d') ∧ d.Shows d' [] [] ∧ d'.pending = "" := by
  obtain ⟨files, sink, stdout, stderr, processors, logged⟩ := d
  cases sink with
  | stdout => exact ⟨_, rfl, shows_nothing keeps, rfl⟩
  | file name text => exact ⟨_, rfl, shows_nothing keeps, rfl⟩
  | device device gathered =>
    obtain rfl := Sink.eq_stdout_of_keeps keeps
    refine ⟨_, rfl, ⟨trivial, ?_, ?_⟩, rfl⟩
    · simp only [output, pending, ended_nil, String.append_empty]
    · rw [ended_nil, String.append_empty]

/-- The directory after a report. -/
def reported (d : Directory) (line : String) : Directory :=
  { d with stderr := d.stderr ++ line ++ "\n" }

theorem shows_report (keeps : d.sink.Keeps) (line : String) :
    d.Shows (d.reported line) [] [line] := by
  refine ⟨keeps, ?_, ?_⟩
  · rw [ended_nil, String.append_empty]
    rfl
  · rw [ended_cons, ended_nil, String.append_empty, ← String.append_assoc]
    rfl

/-! ### Opening an output -/

/-- Nothing has come to the two streams, and lines go to standard output. -/
structure Fresh (d : Directory) : Prop where
  sink : d.sink = .stdout
  stdout : d.stdout = ""
  stderr : d.stderr = ""

/-- Nothing of the lines has come to their place, and nothing is on its way there. -/
structure Empty (d : Directory) : Prop where
  output : d.output = ""
  pending : d.pending = ""

theorem Fresh.empty (fresh : d.Fresh) : d.Empty where
  output := by rw [output, fresh.sink, fresh.stdout]
  pending := by rw [pending, fresh.sink]

theorem empty_of_openOutput (fresh : d.Fresh) {path : String}
    (opens : d.openOutput path = (.ok (), d')) : d'.Empty := by
  unfold openOutput at opens
  split at opens
  · cases opens
  · cases opens
  · split at opens
    · cases opens
    · cases opens
      exact ⟨rfl, rfl⟩
  · split at opens
    · cases opens
    · cases opens
      exact ⟨rfl, rfl⟩
  · split at opens
    · cases opens
    · cases opens
      exact ⟨fresh.stdout, rfl⟩

/-- Where a path leads does not depend on what has been reported. -/
theorem place_congr_stderr (d : Directory) (stderr path : String) :
    ({ d with stderr } : Directory).place path = d.place path := by
  have step (location : Location) (part : String) :
      ({ d with stderr } : Directory).step location part = d.step location part := rfl
  have walk (location : Location) (parts : List String) :
      ({ d with stderr } : Directory).walk location parts = d.walk location parts := by
    induction parts generalizing location with
    | nil => rfl
    | cons part parts ih => simp only [Directory.walk, step, ih]
  simp only [place, walk]

theorem openOutput_congr_stderr (d : Directory) (stderr path : String) :
    ({ d with stderr } : Directory).openOutput path =
      ((d.openOutput path).1, { (d.openOutput path).2 with stderr }) := by
  unfold openOutput
  rw [place_congr_stderr]
  split
  · rfl
  · rfl
  all_goals split <;> rfl

end Directory

end Phrasemill.CommandLine
