import SampledEviction.Settings

/-!
# What an evictor works on

An evictor owns no data. It acts on a *site*, a state of any type, through three interfaces:
the keys stored there (`Dataset`), the process that holds the memory (`Server`) and the time
(`Clock`). One site stands behind all three, so that deleting a key may change what the
server reads, and releases in the background may happen at any operation that returns a new
site.
-/

namespace SampledEviction

/-- A clock that can be read and waited on. -/
structure Clock (σ : Type) where
  /-- The seconds since the epoch. -/
  seconds : σ → Nat
  /-- Waits for some milliseconds. -/
  sleep : Nat → σ → σ

/-- The moment that a clock shows. -/
def Clock.now {σ : Type} (c : Clock σ) (site : σ) : Moment := ⟨c.seconds site⟩

/-- The process whose memory is kept within budget. Only its usage has to be told. -/
structure Server (σ : Type) where
  /-- The bytes in use. A reading may fail. -/
  usedBytes : σ → Except EvictionError Nat × σ
  /-- Bytes in use that eviction cannot free, such as replication buffers. -/
  exemptBytes : σ → Nat × σ := fun site => (0, site)
  /-- Whether replicas are attached, which have to be told of deletions. -/
  hasReplicas : σ → Bool := fun _ => false
  /-- Sends what is waiting to be sent to replicas. -/
  flushReplicas : σ → σ := id
  /-- Whether clients are paused, during which no key may be deleted. -/
  clientsPaused : σ → Bool := fun _ => false
  /-- Whether the process is a replica itself. -/
  isReplica : σ → Bool := fun _ => false
  /-- Whether eviction is suspended. -/
  suspended : σ → Bool := fun _ => false
  /-- Is told of every evicted key, by shard and key. -/
  evicted : Nat → Bytes → σ → σ := fun _ _ site => site

end SampledEviction
