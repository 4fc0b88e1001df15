import SampledEviction.Benchmark.Key
import SampledEviction.Benchmark.Notice
import SampledEviction.Keyspace.Site

/-!
# Running a benchmark

Every operation reads a key, which is hot or any. If nothing is found the budget is checked,
which may evict, and the key is written, unless the check ends above the budget.
-/

namespace SampledEviction.Benchmark

open Keyspace (Site)

/-- Why a run stops before its end. -/
inductive RunError where
  | eviction (e : EvictionError)
  | keyspace (e : KeyspaceError)
  /-- A check of the budget did not end within its bounds. -/
  | unfinished
  /-- The hot keys cannot be counted in 64 bits; the program is aborted. -/
  | overflow
  deriving DecidableEq, Repr

/-- The wording of an error. -/
def RunError.message : RunError → String
  | .eviction e => e.message
  | .keyspace e => e.message
  | .unfinished => "eviction did not end"
  | .overflow => "attempt to multiply with overflow"

/-- Where the memory in use is read, and whether the server reports. -/
structure Environment where
  server : Server Site
  clock : Clock Site
  /-- Whether the server reports every key that it is told of. -/
  echoes : Bool

namespace Environment

/-- Usage is the counter of the keyspace. -/
def tracked (clock : Clock Site) : Environment := ⟨Site.tracked, clock, true⟩

/-- Usage is the memory of the process. -/
def resident (bytes : Nat) (clock : Clock Site) : Environment := ⟨Site.resident bytes, clock, false⟩

/-- The environment that settings ask for; `bytes` is the memory of the process. -/
def ofSettings (s : Settings) (bytes : Nat) (clock : Clock Site) : Environment :=
  match s.general.memory with
  | .keyspace => tracked clock
  | .allocator => resident bytes clock

/-- The reports of an evictor, together with those that they cause. -/
def notices (env : Environment) (ns : List Evictor.Notice) : List Notice :=
  ns.flatMap fun n =>
    match n with
    | .keyEvicted shard keyLength _ =>
      if env.echoes then [.evictor n, .serverTold shard keyLength] else [.evictor n]
    | n => [.evictor n]

end Environment

/-- A run in progress. -/
structure Run where
  scene : Scene Site
  random : Xoshiro
  tally : Tally

namespace Run

/-! ## Start -/

/-- A run on an empty keyspace, and the value that it writes; `entropy` seeds the keyspace if the
settings do not. Memory for the shards and the value is taken to be there, however large they are
asked to be. -/
def start (s : Settings) (clock : ManualClock) (entropy : Nat) : Except RunError (Run × Bytes) :=
  match Keyspace.create { shards := s.general.shards, settings := s.eviction, entropy } with
  | .error e => .error (.keyspace e)
  | .ok keyspace =>
    match Evictor.ofSettings s.eviction with
    | .error e => .error (.eviction e)
    | .ok evictor =>
      let (value, random) := (Xoshiro.ofSeed s.general.seed).bytes s.workload.valueLength
      .ok ({ scene := ⟨evictor, { keyspace, server := {}, clock }⟩, random, tally := {} }, value)

/-! ## One operation -/

/-- A key in its shard. -/
structure Target where
  shard : Nat
  key : Bytes

/-- Draws a chance in percent. -/
def drawPercent (percent : Nat) (g : Xoshiro) : Bool × Xoshiro :=
  let (x, g) := g.below 100
  (x < percent, g)

/-- Draws the number of a key. Where the hot keys cannot be counted, a run fails before it draws. -/
def drawId (w : Workload) (g : Xoshiro) : Nat × Xoshiro :=
  let (hot, g) := drawPercent w.hotWeight g
  g.below (if hot then w.hotKeys.getD w.keys else w.keys)

/-- Draws the key of an operation. -/
def draw (s : Settings) (r : Run) : Target × Run :=
  let (id, random) := drawId s.workload r.random
  (⟨id % r.scene.site.keyspace.shards.size, Benchmark.key s.workload.keyLength id⟩,
    { r with random })

/-- Reads a key, and tells whether it was found. -/
def read (t : Target) (now : Moment) (r : Run) : Bool × Run :=
  let (found, site) := r.scene.site.onKeyspace fun ks => ks.get t.shard t.key now
  let tally :=
    if found.isSome then { r.tally with hits := r.tally.hits + 1 }
    else { r.tally with misses := r.tally.misses + 1 }
  (found.isSome, { r with scene := { r.scene with site }, tally })

/-- Checks the budget, and tells whether a write may follow. -/
def check (env : Environment) (r : Run) : Except RunError (Bool × Run × List Notice) :=
  match Evictor.ensure Site.dataset env.server env.clock r.scene with
  | none => .error .unfinished
  | some c =>
    match c.answer with
    | .error e => .error (.eviction e)
    | .ok .ok => .ok (true, { r with scene := c.scene }, env.notices c.notices)
    | .ok (.blocked _) =>
      let tally := { r.tally with blocked := r.tally.blocked + 1 }
      .ok (false, { r with scene := c.scene, tally }, env.notices c.notices)

/-- Writes a key, which may be drawn to expire. -/
def write (s : Settings) (value : Bytes) (t : Target) (now : Moment) (r : Run) :
    Except RunError Run :=
  let (expires, random) := drawPercent s.workload.volatilePercent r.random
  let ttl := if expires then some ⟨s.workload.ttl, 0⟩ else none
  let site := r.scene.site
  match site.keyspace.set t.shard t.key value ttl now with
  | .error e => .error (.keyspace e)
  | .ok keyspace =>
    .ok { scene := { r.scene with site := { site with keyspace } }, random
          tally := { r.tally with sets := r.tally.sets + 1 } }

/-- Reads a random key, and writes it if it is not found and the budget lets it. -/
def readOrWrite (s : Settings) (env : Environment) (value : Bytes) (r : Run) :
    Except RunError (Run × List Notice) :=
  let (t, r) := draw s r
  match read t (env.clock.now r.scene.site) r with
  | (true, r) => .ok (r, [])
  | (false, r) =>
    match check env r with
    | .error e => .error e
    | .ok (false, r, notices) => .ok (r, notices)
    | .ok (true, r, notices) =>
      (write s value t (env.clock.now r.scene.site) r).map fun r => (r, notices)

/-- Reports progress after `done` operations. -/
def report (env : Environment) (done : Nat) (r : Run) : Except RunError (Run × Notice) :=
  match r.scene.evictor.budget.report env.server r.scene.site with
  | (.error e, _) => .error (.eviction e)
  | (.ok usage, site) =>
    .ok ({ r with scene := { r.scene with site } },
      .progress done r.tally (site.keyspace.total .all) usage.ratio)

/-- The operations between two reports of progress. -/
def reportInterval (s : Settings) : Nat := max (s.general.operations / 10) 1

/-- The operation after `done` others, and a report if one is due. -/
def step (s : Settings) (env : Environment) (value : Bytes) (done : Nat) (r : Run) :
    Except RunError (Run × List Notice) :=
  match readOrWrite s env value r with
  | .error e => .error e
  | .ok (r, notices) =>
    if (done + 1) % reportInterval s = 0 then
      match report env (done + 1) r with
      | .error e => .error e
      | .ok (r, notice) => .ok (r, notices ++ [notice])
    else .ok (r, notices)

/-! ## A whole run -/

/-- Counts the hot keys, which is done before the first operation. -/
def countHot (s : Settings) : Except RunError Nat :=
  match s.workload.hotKeys with
  | none => .error .overflow
  | some n => .ok n

/-- Runs `left` operations after `done` others; the reports are collected backwards. -/
def loop (s : Settings) (env : Environment) (value : Bytes) :
    Nat → Nat → Run → List Notice → Except RunError (Run × List Notice)
  | 0, _, r, log => .ok (r, log)
  | left + 1, done, r, log =>
    match step s env value done r with
    | .error e => .error e
    | .ok (r, notices) => loop s env value left (done + 1) r (notices.reverse ++ log)

/-- What a run came to, when all memory that waited has been released. -/
def finish (s : Settings) (env : Environment) (r : Run) : Except RunError (Run × Summary) :=
  let site := { r.scene.site with keyspace := r.scene.site.keyspace.drain }
  match r.scene.evictor.budget.report env.server site with
  | (.error e, _) => .error (.eviction e)
  | (.ok usage, site) =>
    .ok ({ r with scene := { r.scene with site } },
      { operations := s.general.operations
        tally := r.tally
        evicted := r.scene.evictor.stats.evictedKeys
        expired := site.keyspace.stats.expired
        keys := site.keyspace.total .all
        memory := site.keyspace.memory.bytes
        usage })

/-- The durations of operations. -/
structure Timings where
  get : Histogram := .empty
  set : Histogram := .empty
  evict : Histogram := .empty
  cycle : Histogram := .empty

namespace Timings

/-- The durations of an operation. -/
def of (t : Timings) : Timed → Histogram
  | .get => t.get
  | .set => t.set
  | .evict => t.evict
  | .cycle => t.cycle

/-- The durations on a clock that stands still. -/
def still (s : Summary) (stats : EvictionStats) : Timings where
  get := Histogram.empty.record 0 s.operations
  set := Histogram.empty.record 0 s.tally.sets
  evict := Histogram.empty.record 0 s.tally.misses
  cycle := Histogram.empty.record 0 stats.cycles

end Timings

/-- The reports at the end of a run. -/
def epilogue (r : Run) (s : Summary) (t : Timings) : List Notice :=
  [.workloadComplete s, .finalPressure s, .evictions r.scene.evictor.stats]
    ++ (Timed.list.filter fun op => 0 < (t.of op).total).map fun op => .latency op (t.of op)

/-- The report of the reclaimer at the very end, if there is one. -/
def farewell (r : Run) : List Notice :=
  r.scene.site.keyspace.reclaimer.toList.map fun c => .reclaimerStopped c.released

end Run

/-- A run that came to its end. -/
structure Result where
  run : Run
  summary : Summary
  /-- The reports, in order. -/
  notices : List Notice

/-- Takes a run that was started to its end; its durations are those of a clock that stands still
but for waiting. -/
def Run.complete (s : Settings) (env : Environment) (value : Bytes) (r : Run) :
    Except RunError Result := do
  let _ ← Run.countHot s
  let (r, log) ← Run.loop s env value s.general.operations 0 r []
  let (run, summary) ← Run.finish s env r
  let timings := Run.Timings.still summary run.scene.evictor.stats
  return { run, summary
           notices := log.reverse ++ run.epilogue summary timings ++ run.farewell }

/-- Runs a whole benchmark. -/
def execute (s : Settings) (env : Environment) (clock : ManualClock) (entropy : Nat) :
    Except RunError Result := do
  let (r, value) ← Run.start s clock entropy
  Run.complete s env value r

end SampledEviction.Benchmark
