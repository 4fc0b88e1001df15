import SampledEviction.Dataset
import SampledEviction.Pool

/-!
# Sampling

Samples of a shard are ranked and offered to the pool. An expiring key is sampled with its
deadline; under a policy that ranks by use its stamp is looked up first.
-/

namespace SampledEviction

/-- Asks for a number of samples of a shard. -/
structure Sampler where
  samples : Nat
  deriving DecidableEq, Repr

namespace Sampler

variable {σ : Type}

/-- What is ranked of a sample; nothing if the stamp of its key is missing. -/
def resolve? (d : Dataset σ) (site : σ) (ranking : Ranking) (shard : Nat) (scope : Scope)
    (key : Bytes) (sampled : Sampled) : Option Sampled :=
  match sampled with
  | .deadline _ =>
    if scope = .volatile ∧ ranking.policy.isTtl = false then
      (d.stamp? site shard key).map .stamp
    else some sampled
  | .stamp _ => some sampled

/-- The candidate that a sample makes, if it can be ranked. -/
def candidate? (d : Dataset σ) (site : σ) (ranking : Ranking) (shard : Nat) (scope : Scope)
    (now : Moment) (visit : Bytes × Sampled) : Option Candidate := do
  let sampled ← resolve? d site ranking shard scope visit.1 visit.2
  let rank ← ranking.rank? sampled now
  return ⟨rank, shard, visit.1⟩

/-- Offers candidates in turn, and counts those that the pool takes. -/
def offerAll (pool : Pool) (candidates : List Candidate) : Nat × Pool :=
  candidates.foldl
    (fun (taken, pool) c =>
      let (accepted, pool) := pool.insert c
      (if accepted then taken + 1 else taken, pool))
    (0, pool)

/-- Samples a shard into a pool, and counts the candidates that the pool took. -/
def populate (s : Sampler) (d : Dataset σ) (shard : Nat) (scope : Scope) (ranking : Ranking)
    (now : Moment) (pool : Pool) (site : σ) : Nat × Pool × σ :=
  let (visits, site) := d.sample shard scope s.samples site
  let (taken, pool) :=
    offerAll pool (visits.filterMap (candidate? d site ranking shard scope now))
  (taken, pool, site)

end Sampler

end SampledEviction
