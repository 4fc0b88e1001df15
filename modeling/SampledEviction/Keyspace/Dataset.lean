import SampledEviction.Dataset
import SampledEviction.Keyspace.Basic

/-!
# The keyspace as a dataset

How an evictor sees a keyspace. Samples are drawn with repetition, and a draw changes nothing
but the generator.
-/

namespace SampledEviction

/-- Draws `n` random entries of a map; an empty map yields and draws nothing. -/
def DenseMap.sample {α β : Type} [BEq α] [Hashable α] (m : DenseMap α β) :
    Nat → Xoshiro → List (α × β) × Xoshiro
  | 0, g => ([], g)
  | n + 1, g =>
    match m.random g with
    | (none, g) => ([], g)
    | (some entry, g) =>
      let (rest, g) := m.sample n g
      (entry :: rest, g)

namespace Keyspace

/-- Random keys of a shard, with what is known of each. -/
def Shard.sample (s : Shard) (scope : Scope) (n : Nat) (g : Xoshiro) :
    List (Bytes × Sampled) × Xoshiro :=
  match scope with
  | .all =>
    let (entries, g) := s.main.sample n g
    (entries.map fun e => (e.1, .stamp e.2.stamp), g)
  | .volatile =>
    let (entries, g) := s.deadlines.sample n g
    (entries.map fun e => (e.1, .deadline e.2), g)

/-- A random key of a shard. -/
def Shard.randomKey (s : Shard) (scope : Scope) (g : Xoshiro) : Option Bytes × Xoshiro :=
  match scope with
  | .all =>
    let (entry, g) := s.main.random g
    (entry.map (·.1), g)
  | .volatile =>
    let (entry, g) := s.deadlines.random g
    (entry.map (·.1), g)

/-- Samples a shard; a shard that does not exist yields and draws nothing. -/
def sample (shard : Nat) (scope : Scope) (n : Nat) (ks : Keyspace) :
    List (Bytes × Sampled) × Keyspace :=
  match ks.shards[shard]? with
  | none => ([], ks)
  | some s =>
    let (visits, random) := s.sample scope n ks.random
    (visits, { ks with random })

/-- A random key of a shard. -/
def randomKey (shard : Nat) (scope : Scope) (ks : Keyspace) : Option Bytes × Keyspace :=
  match ks.shards[shard]? with
  | none => (none, ks)
  | some s =>
    let (key, random) := s.randomKey scope ks.random
    (key, { ks with random })

/-- The keys of a keyspace, as an evictor sees them. -/
def dataset : Dataset Keyspace where
  shards ks := ks.shards.size
  count ks shard scope := ks.count shard scope
  sample := sample
  stamp? ks shard key := ks.stamp? shard key
  contains ks shard scope key := ks.contains shard scope key
  randomKey := randomKey
  delete shard key ks := ks.remove shard key false
  deleteDeferred shard key ks := ks.remove shard key true
  pendingReleases ks := (ks.pending, ks)

end Keyspace

end SampledEviction
