import SampledEviction.Benchmark.Histogram
import SampledEviction.Benchmark.Settings
import SampledEviction.Duration
import SampledEviction.Evictor.Basic

/-!
# What a benchmark reports
-/

namespace SampledEviction.Benchmark

/-- What the operations of a run have come to. -/
structure Tally where
  hits : Nat := 0
  misses : Nat := 0
  sets : Nat := 0
  /-- Writes refused because memory could not be freed. -/
  blocked : Nat := 0
  deriving DecidableEq, Repr

/-- The share of the reads that found something. -/
def Tally.hitRatio (t : Tally) : Float :=
  let gets := t.hits + t.misses
  if 0 < gets then (UInt64.ofNat t.hits).toFloat / (UInt64.ofNat gets).toFloat else 0.0

/-- What a whole run came to. -/
structure Summary where
  operations : Nat
  tally : Tally
  evicted : Nat
  expired : Nat
  /-- The keys that are left. -/
  keys : Nat
  memory : Nat
  /-- Usage against the budget at the end. -/
  usage : MemoryReport
  /-- How long the operations took. -/
  elapsed : Duration := ⟨0, 0⟩

/-- The operations per second, rounded down; zero if no time has passed. -/
def Summary.rate (s : Summary) : Nat :=
  s.operations * Duration.nanosPerSecond
    / (s.elapsed.seconds * Duration.nanosPerSecond + s.elapsed.nanos)

/-- The operations whose durations are measured. -/
inductive Timed where
  | get
  | set
  | evict
  | cycle
  deriving DecidableEq, Repr

namespace Timed

def name : Timed → String
  | get => "get"
  | set => "set"
  | evict => "evict"
  | cycle => "cycle"

/-- All of them, in the order in which they are reported. -/
def list : List Timed := [get, set, evict, cycle]

end Timed

/-- The shares of a histogram that are reported, in thousandths. -/
def reportedShares : List (String × Nat) :=
  [("p50", 500), ("p90", 900), ("p99", 990), ("p999", 999), ("max", 1000)]

/-- The reported values of a histogram of nanoseconds, in microseconds. -/
def shareFields (h : Histogram) : List (String × EventValue) :=
  reportedShares.filterMap fun (name, share) =>
    (h.quantile? share).map fun n => (name, .double ((UInt64.ofNat n).toFloat / 1000.0))

/-- A report of a benchmark. -/
inductive Notice where
  | starting (s : Settings)
  /-- The evictor reports. -/
  | evictor (n : Evictor.Notice)
  /-- The server was told of an evicted key. -/
  | serverTold (shard keyLength : Nat)
  | progress (operations : Nat) (tally : Tally) (keys : Nat) (ratio : Float32)
  | workloadComplete (s : Summary)
  | finalPressure (s : Summary)
  | evictions (stats : EvictionStats)
  /-- The durations of an operation in nanoseconds. -/
  | latency (op : Timed) (h : Histogram)
  /-- The reclaimer stops after releasing some values. -/
  | reclaimerStopped (freed : Nat)
  /-- The benchmark stops before its end. -/
  | failed (reason : String)

namespace Notice

/-- The target of reports about the whole benchmark. -/
def mainTarget : String := "evict_bench"

/-- The target of reports about the workload. -/
def workerTarget : String := "evict_bench::worker"

/-- The event that a report is written as. -/
def event : Notice → Event
  | starting s =>
    { level := .info, target := mainTarget, message := "starting"
      fields := [("policy", .text s.eviction.policy.name),
        ("maxmemory", .count s.eviction.maxMemory), ("samples", .count s.eviction.samples),
        ("lazy", .flag s.eviction.lazy), ("memory", .text s.general.memory.name),
        ("shards", .count s.general.shards), ("operations", .count s.general.operations),
        ("keys", .count s.workload.keys)] }
  | evictor n => n.event
  | serverTold shard keyLength =>
    { level := .trace, target := "keyspace::host", message := "evicted"
      fields := [("shard", .count shard), ("key_len", .count keyLength)] }
  | progress operations tally keys ratio =>
    { level := .info, target := workerTarget, message := "progress"
      fields := [("operations", .count operations), ("hits", .count tally.hits),
        ("misses", .count tally.misses), ("blocked", .count tally.blocked),
        ("keys", .count keys), ("usage_ratio", .single ratio)] }
  | workloadComplete s =>
    { level := .info, target := workerTarget, message := "workload complete"
      fields := [("operations", .count s.operations), ("ops_per_sec", .count s.rate),
        ("hit_ratio", .double s.tally.hitRatio), ("sets", .count s.tally.sets),
        ("blocked", .count s.tally.blocked), ("evicted", .count s.evicted),
        ("expired", .count s.expired)] }
  | finalPressure s =>
    { level := .info, target := workerTarget, message := "final memory pressure"
      fields := [("keys", .count s.keys), ("memory", .count s.memory),
        ("usage_ratio", .single s.usage.ratio), ("over_budget", .flag s.usage.exceeded)] }
  | evictions stats =>
    { level := .info, target := mainTarget, message := "eviction"
      fields := [("cycles", .count stats.cycles), ("blocked", .count stats.blocked),
        ("ghosts", .count stats.ghosts), ("bytes_freed", .count stats.bytesFreed)] }
  | latency op h =>
    { level := .info, target := mainTarget, message := "latency (us)"
      fields := ("op", .text op.name) :: shareFields h }
  | reclaimerStopped freed =>
    { level := .debug, target := "keyspace::lazyfree", message := "lazyfree worker stopped"
      fields := [("freed", .count freed)], thread := "lazyfree" }
  | failed reason => { level := .error, target := mainTarget, message := reason, fields := [] }

end Notice

end SampledEviction.Benchmark
