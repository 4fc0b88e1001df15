import SampledEviction.Evictor.Basic

/-!
# Waiting for background releases

When nothing more can be deleted, memory may still be on its way back: values handed to the
background are freed later. The wait ends when enough has come back, when nothing is left to
come, or at the wait limit. It is counted in milliseconds, so it needs no further bound.
-/

namespace SampledEviction

variable {σ : Type}

/-- Whether what came back since the start, with what deletions freed, covers the overage. -/
def Overage.reclaimed (o : Overage) (server : Server σ) (freed : Nat) (site : σ) :
    Except EvictionError Bool × σ :=
  match server.usedBytes site with
  | (.error e, site) => (.error e, site)
  | (.ok used, site) => (.ok (o.excess ≤ Word.add (o.total - used) freed), site)

namespace Evictor

/--
Waits for background releases, at most `remaining` milliseconds more.

`slept` tells whether the wait has lasted at all: if not, usage is as it was when the last
deletion was credited, and is not read again.
-/
def awaitReleases (d : Dataset σ) (server : Server σ) (clock : Clock σ) (o : Overage)
    (freed : Nat) : Nat → Bool → σ → Except EvictionError Outcome × σ
  | remaining, slept, site =>
    let (pending, site) := d.pendingReleases site
    if pending = 0 then
      if slept then
        match o.reclaimed server freed site with
        | (.error e, site) => (.error e, site)
        | (.ok true, site) => (.ok .ok, site)
        | (.ok false, site) => (.ok (.blocked .noCandidates), site)
      else (.ok (.blocked .noCandidates), site)
    else
      match o.reclaimed server freed site with
      | (.error e, site) => (.error e, site)
      | (.ok true, site) => (.ok .ok, site)
      | (.ok false, site) =>
        match remaining with
        | 0 => (.ok (.blocked .noCandidates), site)
        | remaining + 1 =>
          awaitReleases d server clock o freed remaining true (clock.sleep 1 site)

end Evictor

end SampledEviction
