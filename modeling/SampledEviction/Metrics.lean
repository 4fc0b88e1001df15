/-!
# Metrics

The counters and histograms that the program keeps, with their descriptions.
-/

namespace SampledEviction

/-- A registered counter or histogram. -/
structure Metric where
  name : String
  description : String
  deriving DecidableEq, Repr

namespace Metric

/-- What an evictor keeps. -/
def eviction : List Metric :=
  [⟨"evicted_keys", "Total keys evicted"⟩,
    ⟨"eviction_cycles", "Eviction cycles run while over the memory budget"⟩,
    ⟨"eviction_blocked", "Eviction cycles that could not get back under budget"⟩,
    ⟨"eviction_ghosts", "Stale pool entries discarded during victim selection"⟩,
    ⟨"eviction_bytes_freed", "Bytes reclaimed by eviction, as measured by the allocator"⟩,
    ⟨"eviction_cycle_latency", "Duration of an eviction cycle (nanoseconds)"⟩,
    ⟨"eviction_delete_latency", "Duration of a single eviction delete (nanoseconds)"⟩]

/-- What a benchmark keeps. -/
def benchmark : List Metric :=
  [⟨"get_count", "Total GET operations"⟩,
    ⟨"set_count", "Total SET operations"⟩,
    ⟨"set_blocked", "SETs rejected because memory could not be freed"⟩,
    ⟨"cache_hits", "Total cache hits"⟩,
    ⟨"cache_misses", "Total cache misses"⟩,
    ⟨"get_latency", "GET latency histogram (nanoseconds)"⟩,
    ⟨"set_latency", "SET latency histogram (nanoseconds)"⟩,
    ⟨"evict_latency", "Budget check and eviction before a SET (nanoseconds)"⟩]

/-- All metrics, by name. -/
def all : List Metric := (eviction ++ benchmark).mergeSort fun a b => a.name ≤ b.name

end Metric

end SampledEviction
