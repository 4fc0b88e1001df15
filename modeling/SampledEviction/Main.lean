import SampledEviction.Log.Line
import SampledEviction.Program
import Std.Time.DateTime.Timestamp

/-!
# The executable

Runs the program on real time and real memory: the clock is read before every operation,
durations are measured, and events are written when they happen.
-/

namespace SampledEviction.Program

open Benchmark (Environment Notice Run RunError)

/-! ## The process -/

/-- The time in microseconds since the first of January 1970. -/
def wallMicros : IO Nat := do
  let now ← Std.Time.Timestamp.now
  return now.toNanosecondsSinceUnixEpoch.val.toNat / 1000

/-- The memory of the process in bytes; the system tells it in pages of 4096. -/
def residentBytes : IO Nat := do
  let words := (← IO.FS.readFile "/proc/self/statm").splitOn " "
  return (words[1]?.bind (·.toNat?)).getD 0 * 4096

/-- Why a file cannot be read. -/
def readFailure : IO.Error → String
  | .noFileOrDirectory .. => "No such file or directory (os error 2)"
  | e => toString e

/-- Computes something, and measures how many nanoseconds that takes. -/
def measured {α : Type} (action : Unit → α) : IO (α × Nat) := do
  let start ← IO.monoNanosNow
  let a ← IO.lazyPure action
  return (a, (← IO.monoNanosNow) - start)

/-- The environment of the settings, at the present state of the process. -/
def environment (s : Benchmark.Settings) : IO Environment := do
  match s.general.memory with
  | .keyspace => return .tracked Keyspace.Site.manual
  | .allocator => return .resident (← residentBytes) Keyspace.Site.manual

/-! ## A run -/

/-- A run as it happens. -/
structure Live where
  run : Run
  timings : Run.Timings := {}

/-- The present time, as a clock that stands still. -/
def presentClock : IO ManualClock := return .start ((← wallMicros) / 1000000)

/-- One operation at the present time. -/
def operate (s : Benchmark.Settings) (value : Bytes) (report : Notice → IO Unit) (l : Live) :
    ExceptT RunError IO Live := do
  let clock ← presentClock
  let (target, r) := Run.draw s { l.run with scene.site.clock := clock }
  let ((found, r), nanos) ← measured fun _ => Run.read target clock.now r
  let t := { l.timings with get := l.timings.get.record nanos }
  if found then return ⟨r, t⟩
  let env ← environment s
  let cycles := r.scene.evictor.stats.cycles
  let (checked, nanos) ← measured fun _ => Run.check env r
  let (proceeds, r, notices) ← checked
  for n in notices do
    report n
  let t := { t with evict := t.evict.record nanos }
  let t :=
    if cycles < r.scene.evictor.stats.cycles then { t with cycle := t.cycle.record nanos } else t
  if !proceeds then return ⟨r, t⟩
  let (written, nanos) ← measured fun _ => Run.write s value target r.scene.site.now r
  return ⟨← written, { t with set := t.set.record nanos }⟩

/-- A whole run. -/
def drive (s : Benchmark.Settings) (report : Notice → IO Unit) : ExceptT RunError IO Unit := do
  let (r, value) ← Run.start s (← presentClock) 0
  let _ ← Run.countHot s
  let mut l : Live := ⟨r, {}⟩
  let start ← IO.monoNanosNow
  for done in [0:s.general.operations] do
    l ← operate s value report l
    if (done + 1) % Run.reportInterval s = 0 then
      let (r, notice) ← Run.report (← environment s) (done + 1) l.run
      report notice
      l := { l with run := r }
  let elapsed := (← IO.monoNanosNow) - start
  let (r, summary) ← Run.finish s (← environment s) l.run
  let summary := { summary with elapsed := .ofParts 0 elapsed }
  for n in r.epilogue summary l.timings ++ r.farewell do
    report n

/-- Runs the benchmark of some settings, and tells the exit code. -/
def launch (s : Benchmark.Settings) : IO UInt32 := do
  match FilterText.read? (filterText s.logging (← IO.getEnv "RUST_LOG")) with
  | none => return UInt32.ofNat aborted
  | some rules =>
    for (part, fault) in rules.ignored do
      IO.eprintln (ignoring part fault)
    let report (n : Notice) : IO Unit := do
      if rules.filter.enables n.event then
        IO.eprintln (Line.render s.logging (← wallMicros) n.event)
    report (.starting s)
    match ← (drive s report).run with
    | .ok () => return 0
    | .error .overflow =>
      IO.eprintln RunError.overflow.message
      return UInt32.ofNat aborted
    | .error e =>
      report (.failed e.message)
      return 1

end SampledEviction.Program

open SampledEviction in
/-- Does what the command line asks for. -/
def main (arguments : List String) : IO UInt32 := do
  let file ←
    match Command.parse arguments with
    | .ok (.run path) =>
      try pure (Except.ok (← IO.FS.readFile path))
      catch e => pure (Except.error (Program.readFailure e))
    | _ => pure (Except.error "")
  match Program.prepare (fun _ => file) arguments with
  | .ok s => Program.launch s
  | .error transcript =>
    IO.print transcript.output
    for line in transcript.lines do
      if let .text s := line then IO.eprintln s
    return UInt32.ofNat transcript.exitCode
