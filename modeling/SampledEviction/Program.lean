import SampledEviction.Benchmark.Run
import SampledEviction.CommandLine
import SampledEviction.Log.Directive

/-!
# The program

What the program does with a command line, apart from doing it: what it prints, with which
code it exits, and which events it reports, all on a clock that stands still.
-/

namespace SampledEviction.Program

open Benchmark (Environment Logging Notice)

/-- A line on the error output. -/
inductive Line where
  /-- A text by itself. -/
  | text (s : String)
  /-- An event in the format of the settings. -/
  | event (e : Event)

/-- The number of lines that are printed for one: a text may hold line ends of its own. -/
def Line.height : Line → Nat
  | .text s => s.toList.count '\n' + 1
  | .event _ => 1

/-- What is left behind by the program. -/
structure Transcript where
  exitCode : Nat
  /-- What is printed. -/
  output : String := ""
  /-- The lines on the error output. -/
  lines : List Line := []
  /-- The settings by which events are written. -/
  logging : Logging := {}

/-- The number of lines on the error output. -/
def Transcript.lineCount (t : Transcript) : Nat :=
  t.lines.foldl (fun n line => n + line.height) 0

/-- What the program finds around it. -/
structure Surroundings where
  /-- Reads the text of a file, or tells why that fails. -/
  readText : String → Except String String
  /-- Rules for events that go before those of the settings. -/
  filter : Option String := none
  /-- The memory of the process in bytes. -/
  memory : Nat
  clock : ManualClock

/-- Reads settings from a file. -/
def load (readText : String → Except String String) (path : String) :
    Except Benchmark.SettingsError Benchmark.Settings :=
  match readText path with
  | .error cause => .error (.unreadable cause)
  | .ok text => Benchmark.Settings.parse text

/-- What is said when there are no settings. -/
def loadFailure (e : Benchmark.SettingsError) : String := "Failed to load config: " ++ e.message

/-- What is said of a part of a filter that is no directive. -/
def ignoring (part : String) (fault : DirectiveFault) : String :=
  "ignoring `" ++ part ++ "`: " ++ fault.message

/-- The events that a filter lets through. -/
def reported (f : Filter) (notices : List Notice) : List Event :=
  (notices.map Notice.event).filter f.enables

/-- The text of the filter in force. -/
def filterText (l : Logging) (override : Option String) : String := override.getD l.level

/-- The exit code of a program that cannot go on. -/
def aborted : Nat := 101

/-- Runs a benchmark, if there is a filter for its events. -/
def bench (w : Surroundings) (s : Benchmark.Settings) : Transcript :=
  match FilterText.read? (filterText s.logging w.filter) with
  | none => { exitCode := aborted }
  | some rules =>
    let (exitCode, notices) :=
      match Benchmark.execute s (.ofSettings s w.memory Keyspace.Site.frozen) w.clock 0 with
      | .ok result => (0, result.notices)
      | .error .overflow => (aborted, [])
      | .error e => (1, [.failed e.message])
    { exitCode
      lines := (rules.ignored.map fun (part, fault) => .text (ignoring part fault))
        ++ (reported rules.filter (.starting s :: notices)).map .event
      logging := s.logging }

/-- What is said of a command line that is wrong. -/
def refusal (fault : Command.Fault) : List String :=
  [fault.message, "", Command.usage, "", "For more information, try '--help'."]

/-- The settings of the benchmark to run, unless the command line asks for something else. -/
def prepare (readText : String → Except String String) (arguments : List String) :
    Except Transcript Benchmark.Settings :=
  match Command.parse arguments with
  | .error fault => .error { exitCode := 2, lines := (refusal fault).map .text }
  | .ok .help => .error { exitCode := 0, output := Command.helpText }
  | .ok .printExample => .error { exitCode := 0, output := Benchmark.Settings.exampleText }
  | .ok (.run path) =>
    match load readText path with
    | .error e => .error { exitCode := 1, lines := [.text (loadFailure e)] }
    | .ok s => .ok s

/-- Does what a command line asks for. -/
def run (w : Surroundings) (arguments : List String) : Transcript :=
  match prepare w.readText arguments with
  | .error transcript => transcript
  | .ok s => bench w s

end SampledEviction.Program
