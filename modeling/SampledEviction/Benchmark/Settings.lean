import SampledEviction.Benchmark.Key
import SampledEviction.Settings.Section

/-!
# Benchmark settings

What a benchmark is told: how much to do, how to report it, how to evict, and what keys to
use. They are written in TOML, in four sections, all of which may be left out.
-/

namespace SampledEviction.Benchmark

/-- Where the memory in use is read from. -/
inductive MemorySource where
  /-- The bytes charged by the keyspace. -/
  | keyspace
  /-- The memory of the process. -/
  | allocator
  deriving DecidableEq, Repr

namespace MemorySource

def name : MemorySource → String
  | keyspace => "keyspace"
  | allocator => "allocator"

/-- The source of a name. -/
def ofName? (s : String) : Option MemorySource := [keyspace, allocator].find? (·.name == s)

end MemorySource

/-- How reports are written. -/
inductive LogFormat where
  | pretty
  | compact
  | json
  deriving DecidableEq, Repr

namespace LogFormat

def name : LogFormat → String
  | pretty => "pretty"
  | compact => "compact"
  | json => "json"

/-- The format of a name. -/
def ofName? (s : String) : Option LogFormat := [pretty, compact, json].find? (·.name == s)

end LogFormat

structure General where
  /-- The number of operations: reads, each followed by a write if nothing was found. -/
  operations : Nat := 1000000
  shards : Nat := 16
  seed : Nat := 42
  memory : MemorySource := .keyspace
  deriving DecidableEq, Repr

structure Logging where
  /-- Which events are reported. -/
  level : String := "info"
  format : LogFormat := .pretty
  timestamps : Bool := true
  target : Bool := false
  threadNames : Bool := false
  deriving DecidableEq, Repr

structure Workload where
  /-- The number of different keys. -/
  keys : Nat := 100000
  keyLength : Nat := 16
  valueLength : Nat := 128
  /-- The share of the keys that is hot. -/
  hotPercent : Nat := 10
  /-- The share of the operations that go to hot keys. -/
  hotWeight : Nat := 90
  /-- The share of the writes whose key is to expire. -/
  volatilePercent : Nat := 0
  /-- The seconds that such a key lives. -/
  ttl : Nat := 3600
  deriving DecidableEq, Repr

/-- The settings of a benchmark. -/
structure Settings where
  general : General := {}
  logging : Logging := {}
  eviction : SampledEviction.Settings := {}
  workload : Workload := {}
  deriving DecidableEq, Repr

/-! ## Checks -/

/-- What may be wrong with settings that can be read. -/
inductive SettingsFault where
  | noShards
  | noKeys
  | emptyKeys
  /-- There are more keys than hexadecimal numbers of this length. -/
  | shortKeys (length keys : Nat)
  /-- A share is larger than the whole. -/
  | percent (name : String) (value : Nat)
  /-- Keys are to expire, but not to live. -/
  | noTimeToLive
  deriving DecidableEq, Repr

/-- The wording of a fault. -/
def SettingsFault.message : SettingsFault → String
  | .noShards => "shards must be at least 1"
  | .noKeys => "keys must be at least 1"
  | .emptyKeys => "key_length must be at least 1"
  | .shortKeys length keys => s!"key_length ({length}) too short for {keys} distinct keys"
  | .percent name value => s!"{name} ({value}) must be at most 100"
  | .noTimeToLive => "ttl must be at least 1 second when volatile_percent is set"

/-- Why there are no settings. -/
inductive SettingsError where
  /-- The file cannot be read. -/
  | unreadable (cause : String)
  | toml (fault : Toml.Fault)
  | eviction (error : EvictionError)
  | unusable (fault : SettingsFault)
  deriving DecidableEq, Repr

/-- The wording of an error. -/
def SettingsError.message : SettingsError → String
  | .unreadable cause => cause
  | .toml fault => "TOML parse error: " ++ fault.message
  | .eviction error => error.message
  | .unusable fault => fault.message

namespace Workload

/-- The number of hot keys, at least one. The keys are multiplied by their percentage in 64 bits
before anything is divided: if the product does not fit, there is no number. -/
def hotKeys (w : Workload) : Option Nat :=
  (Word.mul? w.keys w.hotPercent).map fun product => max (product / 100) 1

/-- The first share that is larger than the whole. -/
def excessiveShare? (w : Workload) : Option (String × Nat) :=
  [("hot_percent", w.hotPercent), ("hot_weight", w.hotWeight),
    ("volatile_percent", w.volatilePercent)].find? fun share => 100 < share.2

/-- The first thing that is wrong. -/
def fault? (w : Workload) : Option SettingsFault :=
  if w.keys = 0 then some .noKeys
  else if w.keyLength = 0 then some .emptyKeys
  else if w.keyLength < 16 ∧ keyCount w.keyLength < w.keys then some (.shortKeys w.keyLength w.keys)
  else
    match w.excessiveShare? with
    | some (name, value) => some (.percent name value)
    | none => if 0 < w.volatilePercent ∧ w.ttl = 0 then some .noTimeToLive else none

end Workload

namespace Settings

/-- Accepts settings that a benchmark can run with. -/
def validate (s : Settings) : Except SettingsError Unit :=
  match s.eviction.validate with
  | .error e => .error (.eviction e)
  | .ok () =>
    if s.general.shards = 0 then .error (.unusable .noShards)
    else
      match s.workload.fault? with
      | some f => .error (.unusable f)
      | none => .ok ()

/-! ## Reading -/

/-- The keys of the general section. -/
def generalFields : List (Toml.Field General) :=
  [Toml.field "operations" .count fun operations g => { g with operations },
    Toml.field "shards" .count fun shards g => { g with shards },
    Toml.field "seed" .count fun seed g => { g with seed },
    Toml.field "memory" (.choice MemorySource.ofName?) fun memory g => { g with memory }]

/-- The keys of the logging section. -/
def loggingFields : List (Toml.Field Logging) :=
  [Toml.field "level" .text fun level l => { l with level },
    Toml.field "format" (.choice LogFormat.ofName?) fun format l => { l with format },
    Toml.field "timestamps" .flag fun timestamps l => { l with timestamps },
    Toml.field "target" .flag fun target l => { l with target },
    Toml.field "thread_names" .flag fun threadNames l => { l with threadNames }]

/-- The keys of the workload section. -/
def workloadFields : List (Toml.Field Workload) :=
  [Toml.field "keys" .count fun keys w => { w with keys },
    Toml.field "key_length" .count fun keyLength w => { w with keyLength },
    Toml.field "value_length" .count fun valueLength w => { w with valueLength },
    Toml.field "hot_percent" (.upTo 255) fun hotPercent w => { w with hotPercent },
    Toml.field "hot_weight" (.upTo 255) fun hotWeight w => { w with hotWeight },
    Toml.field "volatile_percent" (.upTo 255) fun volatilePercent w => { w with volatilePercent },
    Toml.field "ttl" .count fun ttl w => { w with ttl }]

/-- The sections. -/
def fields : List (Toml.Field Settings) :=
  [Toml.field "general" (Toml.record generalFields {}) fun general s => { s with general },
    Toml.field "logging" (Toml.record loggingFields {}) fun logging s => { s with logging },
    Toml.field "eviction" SampledEviction.Settings.decoder fun eviction s => { s with eviction },
    Toml.field "workload" (Toml.record workloadFields {}) fun workload s => { s with workload }]

/-- Settings in which the evictor has a seed: if not its own, that of the workload. -/
def seeded (s : Settings) : Settings :=
  { s with eviction := { s.eviction with seed := some (s.eviction.seed.getD s.general.seed) } }

/-- Reads and checks settings. -/
def parse (text : String) : Except SettingsError Settings :=
  match Toml.decode (Toml.record fields {}) text with
  | .error fault => .error (.toml fault)
  | .ok s =>
    match s.seeded.validate with
    | .error e => .error e
    | .ok () => .ok s.seeded

/-- Settings to start from, with comments. -/
def exampleText : String :=
  "\n".intercalate
    ["# evict-bench example configuration",
      "",
      "[general]",
      "# Operations to run. Each is a GET, followed by a SET on a miss.",
      "operations = 1000000",
      "# Keyspace shards.",
      "shards = 16",
      "# Seed for the workload and, unless [eviction] sets its own, the engine.",
      "seed = 42",
      "# Where memory usage is read from: \"keyspace\" (bytes charged by the store)",
      "# or \"allocator\" (process allocator / RSS).",
      "memory = \"keyspace\"",
      "",
      "[logging]",
      "level = \"info\"",
      "format = \"pretty\"",
      "timestamps = true",
      "target = false",
      "thread_names = false",
      "",
      "[eviction]",
      "policy = \"allkeys-lru\"",
      "maxmemory = \"16MB\"",
      "samples = 5",
      "lfu_log_factor = 10",
      "lfu_decay_time = 1",
      "lazyfree_lazy_eviction = false",
      "",
      "[workload]",
      "# Distinct keys.",
      "keys = 500000",
      "key_length = 16",
      "value_length = 128",
      "# Share of the keyspace that is hot, and share of operations that hit it.",
      "hot_percent = 10",
      "hot_weight = 90",
      "# Share of writes that carry a TTL, and the TTL in seconds.",
      "volatile_percent = 0",
      "ttl = 3600",
      ""]

end Settings

end SampledEviction.Benchmark
