import SampledEviction.Proofs.Keyspace.Synchronous
import SampledEviction.Proofs.Loop

/-!
# A cycle without a reclaimer

A cycle at a keyspace without a reclaimer credits exactly what the counter falls by, deletes keys
only above the budget, and has a key less to delete after every step. So it ends within budget, or
above it with no key left within the scope of the policy.

* `Underway` — what holds of a cycle all along
* `Underway.search`, `Underway.look`, `Underway.delete` — the parts of a step keep it
* `Underway.step` — a step keeps it, or ends the cycle in one of two ways
-/

namespace SampledEviction

/-! ## The cursor -/

/-- A cycle that has not freed enough, under a random policy, picks its next key without the
cursor wrapping. -/
def Cycle.Ascends {σ : Type} (d : Dataset σ) (o : Overage) (c : Cycle σ) : Prop :=
  c.scene.evictor.settings.policy.usesPool = false → c.freed < o.excess →
    c.scene.evictor.cursor ≤ (Evictor.pickRandom d c.scene).2.evictor.cursor

/-- The cursor does not wrap during a check, whatever its cycle comes to. -/
def Evictor.Ascends {σ : Type} (rounds : Nat) (d : Dataset σ) (server : Server σ)
    (clock : Clock σ) (s : Scene σ) : Prop :=
  ∀ o site c, s.evictor.budget.overage? server s.site = (.ok (some o), site) →
    Loop.Reaches (Evictor.cycleStep rounds d server clock o) ⟨Evictor.opened s site, 0, 0, []⟩ c →
    c.Ascends d o

theorem Cycle.ascends_map {σ : Type} {d : Dataset σ} {o : Overage} {c : Cycle (Recorded σ)} :
    (c.map Recorded.site).Ascends d o ↔ c.Ascends (Recorded.dataset d) o := by
  have hpick : Evictor.pickRandom d (c.scene.map Recorded.site)
      = (Evictor.pickRandom (Recorded.dataset d) c.scene).map id (Scene.map Recorded.site) :=
    Evictor.pickFrom_map (Recorded.dataset_alike d).toSearchAlike _ _ c.scene
  unfold Cycle.Ascends Cycle.map
  rw [hpick]
  exact Iff.rfl

namespace Keyspace.Site

open Evictor

/-! ## What is asked of a scene -/

/-- A scene in which a check may evict: a sound keyspace without a reclaimer whose counter, with
the overhead of the server, fits a word, and an evictor with a budget and a policy that
evicts. -/
structure Ready (s : Scene Site) : Prop where
  sound : s.site.keyspace.Sound
  shards : s.site.keyspace.shards.size < Word.modulus
  sync : s.site.keyspace.reclaimer = none
  fits : s.site.keyspace.memory.bytes + s.site.server.overhead < Word.modulus
  coherent : s.evictor.Coherent
  evicts : s.evictor.settings.policy.evicts = true
  bounded : s.evictor.settings.maxMemory ≠ 0
  allowed : s.evictor.mayEvict tracked s.site = true

/-- The overage that a check starts from. -/
def overage (s : Scene Site) : Overage :=
  ⟨s.site.keyspace.memory.bytes + s.site.server.overhead, s.site.keyspace.memory.bytes,
    s.site.keyspace.memory.bytes - s.evictor.settings.maxMemory⟩

/-- A site of a check at which a key may be deleted: usage is above the budget, and there is a
key within the scope of the policy. -/
structure Due (s : Scene Site) (site : Site) : Prop where
  synced : s.site.Synced site
  above : s.evictor.settings.maxMemory < site.keyspace.memory.bytes
  some : site.keyspace.total s.evictor.settings.policy.scope ≠ 0

/-- What holds of a cycle all along: the evictor is the one it was but for its pool, cursor and
counts, what was freed is what the counter fell by, and keys were deleted only where due. -/
structure Underway (s : Scene Site) (c : Cycle (Recorded Site)) : Prop where
  kept : Kept s.evictor c.scene.evictor
  synced : s.site.Synced c.scene.site.site
  freed : c.freed + c.scene.site.site.keyspace.memory.bytes = s.site.keyspace.memory.bytes
  due : ∀ deed ∈ c.scene.site.deeds, deed.Meets (Due s)

/-- The keys that a cycle may still delete. -/
def remaining (s : Scene Site) (c : Cycle (Recorded Site)) : Nat :=
  c.scene.site.site.keyspace.total s.evictor.settings.policy.scope

variable {s : Scene Site} {c : Cycle (Recorded Site)}

theorem Synced.overhead {s₀ s : Site} (h : s₀.Synced s) :
    s.server.overhead = s₀.server.overhead := by
  obtain ⟨_, _, hserver⟩ := h.server
  rw [hserver]

theorem Underway.fits (hs : Ready s) (hc : Underway s c) :
    c.scene.site.site.keyspace.memory.bytes + c.scene.site.site.server.overhead
      < Word.modulus := by
  have hle := hc.synced.bytes_le
  have hfits := hs.fits
  rw [hc.synced.overhead]
  omega

theorem Underway.coherent (hs : Ready s) (hc : Underway s c) : c.scene.evictor.Coherent :=
  hs.coherent.kept hc.kept

theorem Underway.limit (hs : Ready s) (hc : Underway s c) :
    c.scene.evictor.budget = ⟨s.evictor.settings.maxMemory⟩ := by
  rw [hc.kept.budget, hs.coherent.budget]

/-! ## The parts of a step -/

theorem findVictim_of_random {σ : Type} {rounds : Nat} {d : Dataset σ} {clock : Clock σ}
    {s : Scene σ} (hpool : s.evictor.settings.policy.usesPool = false) :
    findVictim rounds d clock s = some (pickRandom d s) := by
  unfold findVictim
  rw [hpool]
  rfl

theorem count_eq_zero_of_exhausted {scene : Scene (Recorded Site)}
    (h : Exhausted (Recorded.dataset dataset) scene) (shard : Nat) :
    scene.site.site.keyspace.count shard scene.evictor.settings.policy.scope = 0 := by
  by_cases hlt : shard < scene.site.site.keyspace.shards.size
  · exact h shard hlt
  · unfold Keyspace.count
    rw [Array.getElem?_eq_none (by omega)]
    rfl

/-- What a search comes to: the cycle goes on with the same keys, what was found is there, and if
nothing was found there is nothing, unless the cursor has wrapped. -/
structure Sought (s : Scene Site) (c : Cycle (Recorded Site)) (v : Option Victim)
    (scene : Scene (Recorded Site)) : Prop where
  underway : Underway s { c with scene }
  same : remaining s { c with scene } = remaining s c
  live : ∀ w, v = some w → dataset.contains scene.site.site w.shard
    s.evictor.settings.policy.scope w.key = true
  cursor : s.evictor.settings.policy.usesPool = false →
    scene.evictor.cursor = (pickRandom (Recorded.dataset dataset) c.scene).2.evictor.cursor
  nothing : v = none →
    (s.evictor.settings.policy.usesPool = false →
      c.scene.evictor.cursor ≤ scene.evictor.cursor) →
    ∀ shard, scene.site.site.keyspace.count shard s.evictor.settings.policy.scope = 0

theorem Underway.search (hs : Ready s) (hc : Underway s c) (clock : Clock Site) :
    ∃ v scene, findVictim 2 (Recorded.dataset dataset) (Recorded.clock clock) c.scene
      = some (v, scene) ∧ Sought s c v scene := by
  have hsettings := hc.kept.settings
  have hdraws := Recorded.draws (draws_site hc.synced.sound) c.scene.site.deeds
  have hserved := Recorded.served (served_site hc.synced.sound (hc.coherent hs))
    c.scene.site.deeds
  have hstart : c.scene.site.site.Redrawn c.scene.site.site ∧
      c.scene.site.deeds = c.scene.site.deeds := ⟨⟨_, rfl⟩, rfl⟩
  obtain ⟨v, scene, hfind, hfound, hnone⟩ := findVictim_spec (Recorded.clock clock) hdraws hstart
  obtain ⟨⟨random, hsite⟩, hdeeds⟩ := hfound.inside
  have hagree := hdraws.agree hstart hfound.inside
  refine ⟨v, scene, hfind, ⟨⟨?_, hc.synced.redraw ⟨random, hsite⟩, ?_, ?_⟩, ?_, ?_, ?_, ?_⟩⟩
  · exact hc.kept.trans (findVictim_searched hfind).kept
  · show c.freed + scene.site.site.keyspace.memory.bytes = _
    rw [hsite]
    exact hc.freed
  · show ∀ deed ∈ scene.site.deeds, _
    rw [hdeeds]
    exact hc.due
  · show scene.site.site.keyspace.total _ = _
    rw [hsite]
    rfl
  · intro w hw
    have hlive := hfound.live w hw
    rw [hsettings, ← hagree.contains] at hlive
    exact hlive
  · intro hpool
    rw [findVictim_of_random (hsettings ▸ hpool)] at hfind
    rw [Option.some.inj hfind]
  · intro hv hcursor shard
    have hexhausted := hnone hv hserved fun hpool => by
      rw [hsettings] at hpool
      refine ⟨?_, hcursor hpool⟩
      show c.scene.site.site.keyspace.shards.size < Word.modulus
      rw [hc.synced.shards]
      exact hs.shards
    have hcount := count_eq_zero_of_exhausted hexhausted shard
    rw [hsettings] at hcount
    have hsame := congrFun (congrFun hagree.count shard) s.evictor.settings.policy.scope
    exact hsame.trans hcount

/-- A look at usage finds the overage of the site, and leaves a cycle under way. -/
theorem Underway.look (hs : Ready s) (hc : Underway s c) :
    ∃ answer site, c.scene.evictor.budget.overage? (Recorded.server tracked) c.scene.site
        = (.ok answer, site) ∧
      (answer = none ∧ site.site.keyspace.memory.bytes ≤ s.evictor.settings.maxMemory ∨
        answer = some (overage ⟨s.evictor, site.site⟩) ∧
          s.evictor.settings.maxMemory < site.site.keyspace.memory.bytes) ∧
      site.site = c.scene.site.site ∧ Underway s (c.at site) := by
  have hmap := overage?_map (Recorded.server_alike tracked) c.scene.evictor.budget c.scene.site
  have hdeeds := overage?_recorded tracked c.scene.evictor.budget c.scene.site
  rw [hc.limit hs] at hmap hdeeds ⊢
  rw [overage?_of_sync hc.synced.sync (hc.fits hs) hs.bounded] at hmap
  generalize (Budget.mk _).overage? (Recorded.server tracked) c.scene.site = look at hmap hdeeds ⊢
  obtain ⟨answer, site, deeds⟩ := look
  cases hmap
  refine ⟨_, _, rfl, ?_, rfl, ⟨hc.kept, hc.synced, hc.freed, hdeeds.meets hc.due⟩⟩
  split
  · exact Or.inl ⟨rfl, ‹_›⟩
  · exact Or.inr ⟨rfl, Nat.lt_of_not_le ‹_›⟩

theorem settleDeletion_site (c : Cycle (Recorded Site)) (v : Victim) (freed : Nat)
    (r : Recorded Site) :
    ∃ server, (∃ flushes evicted, server = { r.site.server with flushes, evicted }) ∧
      (settleDeletion (Recorded.server tracked) c v freed r).scene.site.site
        = { r.site with server } := by
  simp only [settleDeletion]
  split
  · exact ⟨_, ⟨_, _, rfl⟩, rfl⟩
  · exact ⟨_, ⟨_, _, rfl⟩, rfl⟩

/-- A deletion above the budget leaves a cycle under way, with a key less. -/
theorem Underway.delete (hs : Ready s) (hc : Underway s c)
    (habove : s.evictor.settings.maxMemory < c.scene.site.site.keyspace.memory.bytes)
    {v : Victim} (hkey : dataset.contains c.scene.site.site v.shard
      s.evictor.settings.policy.scope v.key = true) (lazy : Bool) :
    ∃ freed site, deleteVictim (Recorded.dataset dataset) (Recorded.server tracked) lazy v
        c.scene.site = (.ok (true, freed), site) ∧
      Underway s (settleDeletion (Recorded.server tracked) c v freed site) ∧
      remaining s (settleDeletion (Recorded.server tracked) c v freed site) < remaining s c := by
  obtain ⟨ks, before, after, hshrunk, hdelete⟩ :=
    exists_deleteVictim hc.synced.sound hc.synced.sync (hc.fits hs) hkey lazy
  refine ⟨_, _, hdelete, ?_⟩
  generalize hr : Recorded.mk (c.scene.site.site.withKeyspace ks) _ = r
  have hfits := hs.fits
  have hfreed := hc.freed
  have hless := hshrunk.bytes_lt
  have hfew := hshrunk.total_lt
  obtain ⟨server, hserver, hsite⟩ := settleDeletion_site c v
    (c.scene.site.site.keyspace.memory.bytes - ks.memory.bytes) r
  obtain ⟨told, hdeeds⟩ := settleDeletion_deeds tracked c v
    (c.scene.site.site.keyspace.memory.bytes - ks.memory.bytes) r
  have hkeyspace : r.site.keyspace = ks := by rw [← hr]; rfl
  refine ⟨⟨hc.kept.trans ⟨rfl, rfl, rfl, rfl⟩, ?_, ?_, ?_⟩, ?_⟩
  · rw [hsite]
    subst hr
    exact (hc.synced.shrunk hshrunk).told hserver
  · rw [hsite]
    -- what is freed in all is at most what there was, so the sum does not wrap
    show Word.add c.freed _ + r.site.keyspace.memory.bytes = _
    rw [hkeyspace, Word.add_of_lt (by omega)]
    omega
  · have hlater : ∀ deed ∈ r.deeds, deed.Meets (Due s) := by
      have hdue : Due s c.scene.site.site := ⟨hc.synced, habove, by omega⟩
      subst hr
      exact List.forall_mem_cons.mpr ⟨trivial, List.forall_mem_cons.mpr ⟨hdue,
        List.forall_mem_cons.mpr ⟨trivial, hc.due⟩⟩⟩
    rcases hdeeds with hdeeds | hdeeds
    · rw [hdeeds]
      exact List.forall_mem_cons.mpr ⟨trivial, hlater⟩
    · rw [hdeeds]
      exact List.forall_mem_cons.mpr ⟨trivial, List.forall_mem_cons.mpr ⟨trivial, hlater⟩⟩
  · unfold remaining
    rw [hsite]
    show r.site.keyspace.total _ < _
    rw [hkeyspace]
    exact hfew

theorem giveUp_of_sync {c : Cycle (Recorded Site)}
    (hsync : c.scene.site.site.keyspace.reclaimer = none) (clock : Clock Site) (o : Overage) :
    giveUp (Recorded.dataset dataset) (Recorded.server tracked) (Recorded.clock clock) o c
      = (.ok (.blocked .noCandidates),
        c.at ⟨c.scene.site.site, .polled 0 :: c.scene.site.deeds⟩) := by
  unfold giveUp
  rw [awaitReleases_of_sync hsync]
  rfl

/-! ## The steps of a cycle -/

/-- Where a step leads: to a cycle with fewer keys to delete, to one within budget, or to one
above it with no key to delete, unless the cursor has wrapped. -/
inductive Stepped (s : Scene Site) (c : Cycle (Recorded Site)) :
    StepResult (Recorded Site) → Prop where
  | on {c' : Cycle (Recorded Site)} (h : Underway s c') (hfew : remaining s c' < remaining s c)
    (hcursor : s.evictor.settings.policy.usesPool = false → c'.scene.evictor.cursor
      = (pickRandom (Recorded.dataset dataset) c.scene).2.evictor.cursor) :
    Stepped s c (.inl c')
  | enough {c' : Cycle (Recorded Site)} (h : Underway s c')
    (hwithin : c'.scene.site.site.keyspace.memory.bytes ≤ s.evictor.settings.maxMemory) :
    Stepped s c (.inr (.ok .ok, c'))
  | nothing {c' : Cycle (Recorded Site)} (h : Underway s c')
    (habove : s.evictor.settings.maxMemory < c'.scene.site.site.keyspace.memory.bytes)
    (hnone : c.Ascends (Recorded.dataset dataset) (overage s) →
      ∀ shard, c'.scene.site.site.keyspace.count shard s.evictor.settings.policy.scope = 0) :
    Stepped s c (.inr (.ok (.blocked .noCandidates), c'))

theorem Underway.not_paused (hs : Ready s) (hc : Underway s c) :
    (Recorded.server tracked).clientsPaused c.scene.site = false := by
  obtain ⟨_, _, hserver⟩ := hc.synced.server
  have hallowed := hs.allowed
  unfold mayEvict at hallowed
  rw [Bool.and_eq_true] at hallowed
  show c.scene.site.site.server.paused = false
  rw [hserver]
  exact Bool.not_eq_true' _ ▸ hallowed.2

theorem Underway.above (hc : Underway s c) (hless : c.freed < (overage s).excess) :
    s.evictor.settings.maxMemory < c.scene.site.site.keyspace.memory.bytes := by
  have hfreed := hc.freed
  unfold overage at hless
  dsimp only at hless
  omega

theorem Underway.within (hc : Underway s c) (henough : (overage s).excess ≤ c.freed) :
    c.scene.site.site.keyspace.memory.bytes ≤ s.evictor.settings.maxMemory := by
  have hfreed := hc.freed
  unfold overage at henough
  dsimp only at henough
  omega

/-- After a deletion the cycle goes on, unless a look at usage finds it within budget. -/
theorem Stepped.ofRecheck (hs : Ready s) {c' : Cycle (Recorded Site)} (hc' : Underway s c')
    (hfew : remaining s c' < remaining s c)
    (hcursor : s.evictor.settings.policy.usesPool = false → c'.scene.evictor.cursor
      = (pickRandom (Recorded.dataset dataset) c.scene).2.evictor.cursor)
    {lazy : Bool} {x : StepResult (Recorded Site)}
    (h : Recheck (Recorded.server tracked) lazy c' x) : Stepped s c x := by
  obtain ⟨answer, site, hlook, hanswer, hsite, hlooked⟩ := hc'.look hs
  cases h with
  | skipped _ => exact .on hc' hfew hcursor
  | failed _ h =>
    rw [hlook] at h
    cases h
  | within _ h =>
    rw [hlook] at h
    rcases hanswer with ⟨rfl, hwithin⟩ | ⟨rfl, -⟩
    · cases h
      exact .enough hlooked hwithin
    · cases h
  | above _ h =>
    rw [hlook] at h
    cases h
    refine .on hlooked ?_ hcursor
    show site.site.keyspace.total _ < _
    rw [hsite]
    exact hfew

theorem Underway.step (hs : Ready s) (hc : Underway s c) (clock : Clock Site) :
    ∃ x, cycleStep 2 (Recorded.dataset dataset) (Recorded.server tracked) (Recorded.clock clock)
      (overage s) c = some x ∧ Stepped s c x := by
  obtain ⟨v, scene, hfind, hsought⟩ := hc.search hs clock
  obtain ⟨x, hx⟩ := exists_cycleStep hfind
  refine ⟨x, hx, ?_⟩
  -- a key that was found is there, so its deletion neither fails nor comes too late
  have hdeletion (w : Victim) (hw : v = some w) (hless : c.freed < (overage s).excess) :=
    hsought.underway.delete hs (hsought.underway.above hless) (hsought.live w hw)
      scene.evictor.settings.lazy
  cases cycleStep_cases hx with
  | enough h => exact .enough hc (hc.within h)
  | paused h =>
    rw [hc.not_paused hs] at h
    cases h
  | noVictim hgo hfind' =>
    rw [hfind] at hfind'
    cases hfind'
    have hunderway := hsought.underway
    rw [giveUp_of_sync hunderway.synced.sync]
    refine .nothing ⟨hunderway.kept, hunderway.synced, hunderway.freed, ?_⟩
      (hunderway.above hgo.1) fun hascends => hsought.nothing rfl fun hpool => ?_
    · exact List.forall_mem_cons.mpr ⟨trivial, hunderway.due⟩
    · rw [hsought.cursor hpool]
      exact hascends (hc.kept.settings ▸ hpool) hgo.1
  | unread hgo hfind' hdel =>
    rw [hfind] at hfind'
    cases hfind'
    obtain ⟨_, _, hdelete, -, -⟩ := hdeletion _ rfl hgo.1
    rw [hdelete] at hdel
    cases hdel
  | gone hgo hfind' hdel =>
    rw [hfind] at hfind'
    cases hfind'
    obtain ⟨_, _, hdelete, -, -⟩ := hdeletion _ rfl hgo.1
    rw [hdelete] at hdel
    cases hdel
  | deleted hgo hfind' hdel hlook =>
    rw [hfind] at hfind'
    cases hfind'
    obtain ⟨_, _, hdelete, hsettled, hfew⟩ := hdeletion _ rfl hgo.1
    rw [hdelete] at hdel
    cases hdel
    exact .ofRecheck hs hsettled (Nat.lt_of_lt_of_eq hfew hsought.same) hsought.cursor hlook

end Keyspace.Site

end SampledEviction
