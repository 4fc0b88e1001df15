import SampledEviction.Evictor.Cycle
import SampledEviction.Keyspace.Dataset

/-!
# A keyspace under eviction

A site that consists of a keyspace, of the state of the server around it, and of a clock. The
server takes usage from the keyspace's own counter, so evictions are accounted for exactly.
-/

namespace SampledEviction

/-- The state of a server whose usage is the counter of its keyspace and some overhead. -/
structure TrackedServer where
  /-- Bytes of buffers, which count as used but are exempt. -/
  overhead : Nat := 0
  hasReplicas : Bool := false
  isReplica : Bool := false
  paused : Bool := false
  suspended : Bool := false
  /-- The number of flushes of replica output. -/
  flushes : Nat := 0
  /-- The number of evicted keys that it was told of. -/
  evicted : Nat := 0
  deriving DecidableEq, Repr

namespace TrackedServer

/-- The bytes in use. -/
def used (t : TrackedServer) (memory : Keyspace.Counter) : Nat := Word.add memory.bytes t.overhead

/-- Counts a flush. -/
def flush (t : TrackedServer) : TrackedServer := { t with flushes := t.flushes + 1 }

/-- Counts an evicted key. -/
def recordEvicted (t : TrackedServer) : TrackedServer := { t with evicted := t.evicted + 1 }

end TrackedServer

namespace Keyspace

/-- A keyspace, the server around it, and a clock. -/
structure Site where
  keyspace : Keyspace
  server : TrackedServer
  clock : ManualClock

namespace Site

/-- The moment that the clock of a site shows. -/
def now (s : Site) : Moment := s.clock.now

/-- Changes the keyspace of a site, with a result. -/
def onKeyspace {α : Type} (f : Keyspace → α × Keyspace) (s : Site) : α × Site :=
  match s with
  | ⟨keyspace, server, clock⟩ =>
    let (a, keyspace) := f keyspace
    (a, ⟨keyspace, server, clock⟩)

/-- The keys of a site. -/
def dataset : Dataset Site where
  shards s := Keyspace.dataset.shards s.keyspace
  count s := Keyspace.dataset.count s.keyspace
  sample shard scope n := onKeyspace (Keyspace.dataset.sample shard scope n)
  stamp? s := Keyspace.dataset.stamp? s.keyspace
  contains s := Keyspace.dataset.contains s.keyspace
  randomKey shard scope := onKeyspace (Keyspace.dataset.randomKey shard scope)
  delete shard key := onKeyspace (Keyspace.dataset.delete shard key)
  deleteDeferred shard key := onKeyspace (Keyspace.dataset.deleteDeferred shard key)
  pendingReleases := onKeyspace Keyspace.dataset.pendingReleases

/--
The server of a site. The reclaimer is prompt: values that wait to be released are, before
usage is read.
-/
def tracked : Server Site where
  usedBytes s :=
    let s := { s with keyspace := s.keyspace.drain }
    (.ok (s.server.used s.keyspace.memory), s)
  exemptBytes s := (s.server.overhead, s)
  hasReplicas s := s.server.hasReplicas
  flushReplicas s := { s with server := s.server.flush }
  clientsPaused s := s.server.paused
  isReplica s := s.server.isReplica
  suspended s := s.server.suspended
  evicted _ _ s := { s with server := s.server.recordEvicted }

/-- A server whose usage is a figure from outside, which no deletion changes. -/
def resident (bytes : Nat) : Server Site where
  usedBytes s := (.ok bytes, s)

/-- A clock on which waiting takes time. -/
def manual : Clock Site where
  seconds s := s.clock.seconds
  sleep ms s := { s with clock := s.clock.sleep (.ofMillis ms) }

/-- A clock that stands still, also during a wait. -/
def frozen : Clock Site where
  seconds s := s.clock.seconds
  sleep _ s := s

end Site

end Keyspace

end SampledEviction
