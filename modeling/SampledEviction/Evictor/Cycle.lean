import SampledEviction.Evictor.Search
import SampledEviction.Evictor.Wait

/-!
# The eviction cycle

`Evictor.ensure` is called before every write. While usage is above the budget it finds the
next victim, deletes it, and credits what the readings of usage around the deletion differ
by. Neither a dataset nor a server is trusted to let this end, so the number of victims and
of rounds of a search is bounded by fuel.
-/

namespace SampledEviction

/-- A deletion in this many is followed by a flush of replica output. -/
def flushInterval : Nat := 16

/-- With background releases, a deletion in this many is followed by a look at real usage. -/
def recheckInterval : Nat := 16

/-- What a cycle has come to so far. -/
structure Cycle (σ : Type) where
  scene : Scene σ
  /-- The bytes credited to deletions. -/
  freed : Nat
  /-- The keys deleted. -/
  keys : Nat
  /-- The reports made, the latest first. -/
  notices : List Evictor.Notice

/-- What a check of the budget comes to. -/
structure CheckResult (σ : Type) where
  answer : Except EvictionError Outcome
  scene : Scene σ
  /-- The reports made, in order. -/
  notices : List Evictor.Notice

namespace Evictor

variable {σ : Type}

/-- The report of a check that ends above the budget. -/
def blockedNotice (e : Evictor) (reason : BlockReason) (o : Overage) (freed : Nat) : Notice :=
  match reason with
  | .noEviction => .evictionDisabled o.net e.budget.limit
  | .noCandidates => .nothingToEvict e.settings.policy o.net e.budget.limit freed

/-! ## Deleting -/

/-- Whether keys may be deleted at present. -/
def mayEvict (e : Evictor) (server : Server σ) (site : σ) : Bool :=
  !server.suspended site
    && !(server.isReplica site && e.settings.replicaIgnores)
    && !server.clientsPaused site

/-- Counts an evicted key, tells the server of it, and flushes every so often. -/
def settleDeletion (server : Server σ) (c : Cycle σ) (v : Victim) (freed : Nat) (site : σ) :
    Cycle σ :=
  let keys := c.keys + 1
  let site := server.evicted v.shard v.key site
  let site :=
    if server.hasReplicas site && keys % flushInterval == 0 then server.flushReplicas site
    else site
  { scene := ⟨c.scene.evictor.recordEviction freed, site⟩
    freed := Word.add c.freed freed
    keys
    notices := .keyEvicted v.shard v.key.size freed :: c.notices }

/-- Deletes a victim, between two readings of usage. -/
def deleteVictim (d : Dataset σ) (server : Server σ) (lazy : Bool) (v : Victim) (site : σ) :
    Except EvictionError (Bool × Nat) × σ :=
  match server.usedBytes site with
  | (.error e, site) => (.error e, site)
  | (.ok before, site) =>
    let (removed, site) :=
      if lazy then d.deleteDeferred v.shard v.key site else d.delete v.shard v.key site
    match server.usedBytes site with
    | (.error e, site) => (.error e, site)
    | (.ok after, site) => (.ok (removed, before - after), site)

/-- The end of a cycle in which nothing more can be deleted. -/
def giveUp (d : Dataset σ) (server : Server σ) (clock : Clock σ) (o : Overage) (c : Cycle σ) :
    Except EvictionError Outcome × Cycle σ :=
  let (answer, site) :=
    awaitReleases d server clock o c.freed c.scene.evictor.settings.waitLimit false c.scene.site
  (answer, { c with scene := { c.scene with site } })

/--
One deletion of a cycle.

The cycle ends when enough is freed, when clients are paused in its course, when no victim is
found or the victim turns out to be gone, when a reading fails, and, with background
releases, when a look at real usage finds it within budget.
-/
def cycleStep (rounds : Nat) (d : Dataset σ) (server : Server σ) (clock : Clock σ)
    (o : Overage) (c : Cycle σ) :
    Option (Cycle σ ⊕ (Except EvictionError Outcome × Cycle σ)) :=
  if o.excess ≤ c.freed then some (.inr (.ok .ok, c))
  else if 0 < c.keys && server.clientsPaused c.scene.site then some (.inr (.ok .ok, c))
  else
    match findVictim rounds d clock c.scene with
    | none => none
    | some (none, scene) => some (.inr (giveUp d server clock o { c with scene }))
    | some (some v, scene) =>
      let c := { c with scene }
      let lazy := scene.evictor.settings.lazy
      match deleteVictim d server lazy v scene.site with
      | (.error e, site) => some (.inr (.error e, { c with scene := { scene with site } }))
      | (.ok (false, _), site) =>
        some (.inr (giveUp d server clock o { c with scene := { scene with site } }))
      | (.ok (true, freed), site) =>
        let c := settleDeletion server c v freed site
        if lazy && c.keys % recheckInterval == 0 then
          match c.scene.evictor.budget.overage? server c.scene.site with
          | (.error e, site) =>
            some (.inr (.error e, { c with scene := { c.scene with site } }))
          | (.ok none, site) =>
            some (.inr (.ok .ok, { c with scene := { c.scene with site } }))
          | (.ok (some _), site) => some (.inl { c with scene := { c.scene with site } })
        else some (.inl c)

/-- Runs a cycle of at most `fuel` deletions. -/
def runCycle (fuel rounds : Nat) (d : Dataset σ) (server : Server σ) (clock : Clock σ)
    (o : Overage) (s : Scene σ) : Option (Except EvictionError Outcome × Cycle σ) :=
  Loop.run (cycleStep rounds d server clock o) fuel ⟨s, 0, 0, []⟩

/-! ## The check -/

/-- Counts and reports a check that ends above the budget. -/
def block (reason : BlockReason) (o : Overage) (freed : Nat) (notices : List Evictor.Notice)
    (s : Scene σ) : CheckResult σ where
  answer := .ok (.blocked reason)
  scene := { s with evictor := { s.evictor with
    stats := { s.evictor.stats with blocked := s.evictor.stats.blocked + 1 } } }
  notices := notices.reverse ++ [s.evictor.blockedNotice reason o freed]

/-- Counts and reports the end of a cycle. -/
def conclude (o : Overage) : Except EvictionError Outcome × Cycle σ → CheckResult σ
  | (.error e, c) => ⟨.error e, c.scene, c.notices.reverse⟩
  | (.ok (.blocked reason), c) => block reason o c.freed c.notices c.scene
  | (.ok .ok, c) =>
    { answer := .ok .ok
      scene := c.scene
      notices := c.notices.reverse
        ++ [.cycleComplete c.scene.evictor.settings.policy c.keys c.freed o.excess] }

/--
Evicts until usage is within budget, in a cycle of at most `fuel` deletions that are each
searched for in at most `rounds` rounds; `none` if that is not enough.
-/
def ensureWithin (fuel rounds : Nat) (d : Dataset σ) (server : Server σ) (clock : Clock σ)
    (s : Scene σ) : Option (CheckResult σ) :=
  if s.evictor.mayEvict server s.site = false then some ⟨.ok .ok, s, []⟩
  else
    match s.evictor.budget.overage? server s.site with
    | (.error e, site) => some ⟨.error e, { s with site }, []⟩
    | (.ok none, site) => some ⟨.ok .ok, { s with site }, []⟩
    | (.ok (some o), site) =>
      if s.evictor.settings.policy.evicts then
        let evictor := { s.evictor with
          stats := { s.evictor.stats with cycles := s.evictor.stats.cycles + 1 } }
        (runCycle fuel rounds d server clock o ⟨evictor, site⟩).map (conclude o)
      else some (block .noEviction o 0 [] { s with site })

/--
Evicts until usage is within budget.

Every deletion takes a key out of the policy's scope, and a search takes two rounds at most
over a dataset whose samples are there, so the bounds suffice for such a dataset.
-/
def ensure (d : Dataset σ) (server : Server σ) (clock : Clock σ) (s : Scene σ) :
    Option (CheckResult σ) :=
  ensureWithin (d.total s.site s.evictor.settings.policy.scope + 2) 2 d server clock s

end Evictor

end SampledEviction
