import SampledEviction.Ranking

/-!
# Stored keys

The interface through which an evictor sees and deletes keys. Keys are spread over shards,
which are numbered from zero; a shard has two tables, one of all keys and one of those that
expire.
-/

namespace SampledEviction

/-- The keys of a site. -/
structure Dataset (σ : Type) where
  /-- The number of shards. -/
  shards : σ → Nat
  /-- The number of keys of a shard within a scope. -/
  count : σ → Nat → Scope → Nat
  /-- Some keys of a shard, about as many as asked for, with what is known of each. -/
  sample : Nat → Scope → Nat → σ → List (Bytes × Sampled) × σ
  /-- The stamp of a key. -/
  stamp? : σ → Nat → Bytes → Option AccessStamp
  /-- Whether a shard has a key within a scope. -/
  contains : σ → Nat → Scope → Bytes → Bool
  /-- Some key of a shard within a scope. -/
  randomKey : Nat → Scope → σ → Option Bytes × σ
  /-- Deletes a key, and tells whether it was there. -/
  delete : Nat → Bytes → σ → Bool × σ
  /-- Deletes a key, and leaves its memory to be released in the background. -/
  deleteDeferred : Nat → Bytes → σ → Bool × σ := delete
  /-- The number of values whose memory is still to be released. -/
  pendingReleases : σ → Nat × σ := fun site => (0, site)

/-- The number of keys of all shards within a scope. -/
def Dataset.total {σ : Type} (d : Dataset σ) (site : σ) (scope : Scope) : Nat :=
  (List.range (d.shards site)).foldr (fun shard rest => d.count site shard scope + rest) 0

end SampledEviction
