import SampledEviction.DenseMap
import SampledEviction.Duration
import SampledEviction.Keyspace.Reclaimer
import SampledEviction.Tracker

/-!
# The keyspace

A sharded store of byte strings whose keys may expire. Expiration is lazy: an expired key stays
until it is read. Every operation that depends on the time is given the moment at which it
takes place.
-/

namespace SampledEviction

/-- Why a keyspace refuses an operation. -/
inductive KeyspaceError where
  | shardOutOfRange (shard shards : Nat)
  | invalidSettings (reason : String)
  /-- The background reclaimer could not be started. -/
  | reclaimer (cause : String)
  deriving DecidableEq, Repr

/-- The wording of an error. -/
def KeyspaceError.message : KeyspaceError → String
  | .shardOutOfRange shard shards => s!"shard {shard} out of range (have {shards})"
  | .invalidSettings reason => "invalid configuration: " ++ reason
  | .reclaimer cause => "failed to start lazyfree worker: " ++ cause

namespace Keyspace

/-- A value and its access stamp. -/
structure Entry where
  value : Bytes
  stamp : AccessStamp
  deriving DecidableEq

/-- A shard: all keys with their entries, and the deadlines of those that expire. -/
structure Shard where
  main : DenseMap Bytes Entry := .empty
  deadlines : DenseMap Bytes Nat := .empty

instance : Inhabited Shard := ⟨{}⟩

namespace Shard

/-- The number of keys within a scope. -/
def count (s : Shard) : Scope → Nat
  | .all => s.main.size
  | .volatile => s.deadlines.size

/-- Whether a key is there within a scope. -/
def contains (s : Shard) (key : Bytes) : Scope → Bool
  | .all => s.main.contains key
  | .volatile => s.deadlines.contains key

/-- Sets the entry of a key, and its deadline or that it has none. -/
def put (s : Shard) (key : Bytes) (entry : Entry) (deadline : Option Nat) : Shard where
  main := s.main.insert key entry
  deadlines :=
    match deadline with
    | some t => s.deadlines.insert key t
    | none => s.deadlines.erase key

/-- Removes a key. -/
def erase (s : Shard) (key : Bytes) : Shard := ⟨s.main.erase key, s.deadlines.erase key⟩

end Shard

/-- Counters of a keyspace. -/
structure Stats where
  hits : Nat := 0
  misses : Nat := 0
  /-- Keys removed because they had expired when they were read. -/
  expired : Nat := 0
  deriving DecidableEq, Repr

/-- The shortest value that is worth releasing in the background, unless set otherwise. -/
def defaultThreshold : Nat := 64

/-- How a keyspace is set up. -/
structure Options where
  shards : Nat := 1
  settings : Settings := {}
  /-- Whether there is a background reclaimer; by default if eviction is lazy. -/
  background : Option Bool := none
  /-- The shortest value that is released in the background. -/
  threshold : Nat := defaultThreshold
  /-- The seed where the settings have none. -/
  entropy : Nat := 0

end Keyspace

/-- A sharded store. -/
structure Keyspace where
  shards : Array Keyspace.Shard
  memory : Keyspace.Counter
  tracker : Tracker
  /-- The generator that samples are drawn from. -/
  random : Xoshiro
  reclaimer : Option Keyspace.Reclaimer
  threshold : Nat
  stats : Keyspace.Stats

namespace Keyspace

/-- An empty keyspace. Memory for its shards is taken to be there, however many are asked for. -/
def create (o : Options) : Except KeyspaceError Keyspace :=
  if o.shards = 0 then .error (.invalidSettings "shards must be at least 1")
  else .ok
    { shards := Array.replicate o.shards {}
      memory := {}
      tracker := .ofSettings o.settings o.entropy
      random := .ofSeed (Word.add (o.settings.seed.getD o.entropy) 1)
      reclaimer := if o.background.getD o.settings.lazy then some {} else none
      threshold := o.threshold
      stats := {} }

/-! ## Views -/

/-- The entry of a key, expired or not. -/
def entry? (ks : Keyspace) (shard : Nat) (key : Bytes) : Option Entry :=
  ks.shards[shard]?.bind (·.main.get? key)

/-- The second at which a key expires. -/
def deadline? (ks : Keyspace) (shard : Nat) (key : Bytes) : Option Nat :=
  ks.shards[shard]?.bind (·.deadlines.get? key)

/-- The access stamp of a key. -/
def stamp? (ks : Keyspace) (shard : Nat) (key : Bytes) : Option AccessStamp :=
  (ks.entry? shard key).map (·.stamp)

/-- Whether a shard has a key within a scope. -/
def contains (ks : Keyspace) (shard : Nat) (scope : Scope) (key : Bytes) : Bool :=
  ks.shards[shard]?.any (·.contains key scope)

/-- The number of keys of a shard within a scope. -/
def count (ks : Keyspace) (shard : Nat) (scope : Scope) : Nat :=
  (ks.shards[shard]?.map (·.count scope)).getD 0

/-- The number of keys within a scope. -/
def total (ks : Keyspace) (scope : Scope) : Nat :=
  ks.shards.toList.foldr (fun shard rest => shard.count scope + rest) 0

/-- The seconds that a key has left. -/
def timeToLive? (ks : Keyspace) (shard : Nat) (key : Bytes) (now : Moment) : Option Nat :=
  (ks.deadline? shard key).map (· - now.seconds)

/-- Whether a key has expired. -/
def isExpired (ks : Keyspace) (shard : Nat) (key : Bytes) (now : Moment) : Bool :=
  (ks.deadline? shard key).any (· ≤ now.seconds)

/-- The number of values whose memory is still to be released. -/
def pending (ks : Keyspace) : Nat := (ks.reclaimer.map (·.pending)).getD 0

/-! ## Writing -/

/-- The second at which a key expires that is to live for some time, at least a second. -/
def deadlineAfter (now : Moment) (ttl : Duration) : Nat :=
  Word.saturatingAdd now.seconds (max ttl.seconds 1)

/-- Keeps stamps under another policy from now on. -/
def setEviction (ks : Keyspace) (s : Settings) : Keyspace :=
  { ks with tracker := ks.tracker.setPolicy s.policy s.pace }

/-- Sets the value of a key, which expires after `ttl`, or never. -/
def set (ks : Keyspace) (shard : Nat) (key value : Bytes) (ttl : Option Duration)
    (now : Moment) : Except KeyspaceError Keyspace :=
  if shard < ks.shards.size then
    let released :=
      match ks.entry? shard key with
      | some old => charge key old.value (ks.deadline? shard key).isSome
      | none => 0
    let memory := (ks.memory.sub released).add (charge key value ttl.isSome)
    let entry := ⟨value, ks.tracker.created now⟩
    .ok
      { ks with
        memory
        shards := ks.shards.modify shard fun s =>
          s.put key entry (ttl.map (deadlineAfter now)) }
  else .error (.shardOutOfRange shard ks.shards.size)

/--
Removes a key, and tells whether it was there.

Its memory is released at once, unless that is deferred, there is a reclaimer, and the value
is long enough to be worth it.
-/
def remove (ks : Keyspace) (shard : Nat) (key : Bytes) (deferred : Bool) : Bool × Keyspace :=
  match ks.entry? shard key with
  | none => (false, ks)
  | some entry =>
    let bytes := charge key entry.value (ks.deadline? shard key).isSome
    let late := deferred && ks.threshold ≤ entry.value.size && ks.reclaimer.isSome
    let memory := if late then ks.memory else ks.memory.sub bytes
    let reclaimer := if late then ks.reclaimer.map (·.defer bytes) else ks.reclaimer
    (true, { ks with
      memory, reclaimer, shards := ks.shards.modify shard fun s => s.erase key })

/-- Deletes a key, and tells whether it was there. -/
def delete (ks : Keyspace) (shard : Nat) (key : Bytes) : Bool × Keyspace :=
  ks.remove shard key false

/-- Counts a key that was not found. -/
def recordMiss (ks : Keyspace) : Keyspace :=
  { ks with stats := { ks.stats with misses := ks.stats.misses + 1 } }

/-- Counts a key that had expired. -/
def recordExpired (ks : Keyspace) : Keyspace :=
  { ks with stats := { ks.stats with expired := ks.stats.expired + 1 } }

/-- Stamps a key that was found, and counts it. -/
def touch (ks : Keyspace) (shard : Nat) (key : Bytes) (stamp : AccessStamp) (now : Moment) :
    Keyspace :=
  let (stamp, tracker) := ks.tracker.accessed stamp now
  { ks with
    tracker
    shards := ks.shards.modify shard fun s =>
      { s with main := s.main.modify key fun e => { e with stamp } }
    stats := { ks.stats with hits := ks.stats.hits + 1 } }

/-- Reads the value of a key. A key that has expired is removed, and not found. -/
def get (ks : Keyspace) (shard : Nat) (key : Bytes) (now : Moment) : Option Bytes × Keyspace :=
  if ks.isExpired shard key now then
    (none, (ks.remove shard key false).2.recordExpired.recordMiss)
  else
    match ks.entry? shard key with
    | none => (none, ks.recordMiss)
    | some entry => (some entry.value, ks.touch shard key entry.stamp now)

/-- Makes a key expire after `ttl`, and tells whether it is there. -/
def expire (ks : Keyspace) (shard : Nat) (key : Bytes) (ttl : Duration) (now : Moment) :
    Bool × Keyspace :=
  if ks.contains shard .all key then
    let memory :=
      if (ks.deadline? shard key).isSome then ks.memory else ks.memory.add deadlineOverhead
    (true, { ks with
      memory
      shards := ks.shards.modify shard fun s =>
        { s with deadlines := s.deadlines.insert key (deadlineAfter now ttl) } })
  else (false, ks)

/-- Makes a key live forever, and tells whether it was to expire. -/
def persist (ks : Keyspace) (shard : Nat) (key : Bytes) : Bool × Keyspace :=
  if (ks.deadline? shard key).isSome then
    (true, { ks with
      memory := ks.memory.sub deadlineOverhead
      shards := ks.shards.modify shard fun s =>
        { s with deadlines := s.deadlines.erase key } })
  else (false, ks)

/-! ## Background releases -/

/-- Lets the reclaimer release the oldest value that waits. -/
def release (ks : Keyspace) : Keyspace :=
  match ks.reclaimer with
  | none => ks
  | some r =>
    let (r, memory) := r.release ks.memory
    { ks with reclaimer := some r, memory }

/-- Lets the reclaimer release all values that wait. -/
def drain (ks : Keyspace) : Keyspace :=
  match ks.reclaimer with
  | none => ks
  | some r =>
    let (r, memory) := r.drain ks.memory
    { ks with reclaimer := some r, memory }

end Keyspace

end SampledEviction
