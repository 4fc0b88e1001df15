import SampledEviction.Evictor.Basic
import SampledEviction.Loop

/-!
# The search for a victim

A policy that ranks keys samples every shard into the pool and takes the best candidate that
is still there. A random policy takes a random key of the next shard that has one, going
round the shards.
-/

namespace SampledEviction

/-- A key to be evicted. -/
structure Victim where
  shard : Nat
  key : Bytes
  deriving DecidableEq

namespace Evictor

variable {σ : Type}

/-! ## From the pool -/

/-- What sampling all shards has come to so far. -/
structure Harvest (σ : Type) where
  /-- The keys of the shards within the scope. -/
  keys : Nat
  /-- The candidates that the pool took. -/
  taken : Nat
  pool : Pool
  site : σ

/-- Samples one shard, unless it is empty. -/
def harvestShard (e : Evictor) (d : Dataset σ) (now : Moment) (h : Harvest σ) (shard : Nat) :
    Harvest σ :=
  let scope := e.settings.policy.scope
  let keys := d.count h.site shard scope
  if keys = 0 then h
  else
    let (taken, pool, site) := e.sampler.populate d shard scope e.ranking now h.pool h.site
    { keys := h.keys + keys, taken := h.taken + taken, pool, site }

/-- Samples all shards in turn. -/
def harvest (e : Evictor) (d : Dataset σ) (now : Moment) (site : σ) : Harvest σ :=
  (List.range (d.shards site)).foldl (e.harvestShard d now) ⟨0, 0, e.pool, site⟩

/--
One round of the search: samples all shards, then takes the best candidate still there.

Without any key the pool holds nothing but ghosts, and is emptied. If no candidate is left the
next round starts with an empty pool; when such a round brings no candidate in, there is
nothing to be found.
-/
def searchRound (d : Dataset σ) (clock : Clock σ) (s : Scene σ) :
    Scene σ ⊕ (Option Victim × Scene σ) :=
  let e := s.evictor
  let h := e.harvest d (clock.now s.site) s.site
  if h.keys = 0 then
    .inr (none, ⟨{ e with pool := h.pool.clear }.recordGhosts h.pool.size, h.site⟩)
  else
    let present := fun shard key => d.contains h.site shard e.settings.policy.scope key
    let found := h.pool.select present .empty
    let s' : Scene σ := ⟨{ e with pool := found.pool }.recordGhosts found.ghosts, h.site⟩
    match found.victim with
    | some c => .inr (some ⟨c.shard, c.key⟩, s')
    | none => if e.pool.isEmpty && h.taken == 0 then .inr (none, s') else .inl s'

/-- Searches the pool in at most `rounds` rounds. -/
def searchPool (rounds : Nat) (d : Dataset σ) (clock : Clock σ) (s : Scene σ) :
    Option (Option Victim × Scene σ) :=
  Loop.run (fun s => some (searchRound d clock s)) rounds s

/-! ## Round the shards -/

/-- Moves the cursor on to the next shard that yields a key, within `tries` shards. -/
def pickFrom (d : Dataset σ) (shards : Nat) : Nat → Scene σ → Option Victim × Scene σ
  | 0, s => (none, s)
  | tries + 1, s =>
    let scope := s.evictor.settings.policy.scope
    let cursor := Word.add s.evictor.cursor 1
    let shard := cursor % shards
    let evictor := { s.evictor with cursor }
    if d.count s.site shard scope = 0 then pickFrom d shards tries { s with evictor }
    else
      match d.randomKey shard scope s.site with
      | (some key, site) => (some ⟨shard, key⟩, ⟨evictor, site⟩)
      | (none, site) => pickFrom d shards tries ⟨evictor, site⟩

/-- Picks a random key of the next shard that has one. -/
def pickRandom (d : Dataset σ) (s : Scene σ) : Option Victim × Scene σ :=
  pickFrom d (d.shards s.site) (d.shards s.site) s

/-! ## Either -/

/-- The next victim under the policy in force. -/
def findVictim (rounds : Nat) (d : Dataset σ) (clock : Clock σ) (s : Scene σ) :
    Option (Option Victim × Scene σ) :=
  if s.evictor.settings.policy.usesPool then searchPool rounds d clock s
  else some (pickRandom d s)

end Evictor

end SampledEviction
