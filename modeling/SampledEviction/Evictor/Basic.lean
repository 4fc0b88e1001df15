import SampledEviction.Budget
import SampledEviction.Evictor.Notice
import SampledEviction.Sampler

/-!
# The evictor

An evictor keeps a site within its memory budget. It owns the candidate pool, which outlives
eviction cycles, and the cursor by which random policies go round the shards.
-/

namespace SampledEviction

/-- What an evictor has done so far. -/
structure EvictionStats where
  evictedKeys : Nat := 0
  bytesFreed : Nat := 0
  /-- Cycles started because the budget was exceeded. -/
  cycles : Nat := 0
  /-- Checks that ended above the budget. -/
  blocked : Nat := 0
  /-- Candidates dropped because their key was gone. -/
  ghosts : Nat := 0
  deriving DecidableEq, Repr

/-- Why usage stays above the budget. -/
inductive BlockReason where
  /-- The policy forbids eviction. -/
  | noEviction
  /-- No key could be found that may be evicted. -/
  | noCandidates
  deriving DecidableEq, Repr

/-- What a check of the budget comes to. -/
inductive Outcome where
  /-- Usage is within budget, or eviction does not apply. -/
  | ok
  /-- Usage could not be brought within budget. -/
  | blocked (reason : BlockReason)
  deriving DecidableEq, Repr

/-- An evictor: its settings, what is prepared from them, and its state. -/
structure Evictor where
  settings : Settings
  budget : Budget
  sampler : Sampler
  ranking : Ranking
  pool : Pool
  /-- The shard of the last random pick, counted on without end. -/
  cursor : Nat
  stats : EvictionStats

namespace Evictor

/-- Takes over accepted settings and prepares what follows from them. -/
def adopt (e : Evictor) (s : Settings) : Evictor :=
  { e with
    settings := s, budget := ⟨s.maxMemory⟩, sampler := ⟨s.samples⟩,
    ranking := ⟨s.policy, s.pace.decayMinutes⟩ }

/-- A new evictor, if the settings make sense. -/
def ofSettings (s : Settings) : Except EvictionError Evictor :=
  match s.validate with
  | .error e => .error e
  | .ok () => .ok
    { settings := s, budget := ⟨s.maxMemory⟩, sampler := ⟨s.samples⟩,
      ranking := ⟨s.policy, s.pace.decayMinutes⟩, pool := .empty, cursor := 0, stats := {} }

/--
Applies new settings, if they make sense, and reports what changed.

Ranks of different policies are not comparable, so a change of policy empties the pool. Settings
that are refused change nothing.
-/
def setSettings (e : Evictor) (s : Settings) : Except EvictionError (List Notice) × Evictor :=
  match s.validate with
  | .error err => (.error err, e)
  | .ok () =>
    if s.policy = e.settings.policy then (.ok [], e.adopt s)
    else
      (.ok [.policyChanged e.settings.policy s.policy], { e with pool := e.pool.clear }.adopt s)

/-- Counts candidates that were dropped because their key was gone. -/
def recordGhosts (e : Evictor) (n : Nat) : Evictor :=
  { e with stats := { e.stats with ghosts := e.stats.ghosts + n } }

/-- Counts an evicted key and the bytes seen to be freed by it. -/
def recordEviction (e : Evictor) (freed : Nat) : Evictor :=
  { e with stats :=
    { e.stats with
      evictedKeys := e.stats.evictedKeys + 1
      bytesFreed := Word.add e.stats.bytesFreed freed } }

end Evictor

/-- An evictor and the site it acts on. -/
structure Scene (σ : Type) where
  evictor : Evictor
  site : σ

end SampledEviction
