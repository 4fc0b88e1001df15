import SampledEviction.Proofs.Account
import SampledEviction.Proofs.Benchmark.Parts
import SampledEviction.Proofs.Keyspace.Records
import SampledEviction.Proofs.Readings

/-!
# The figures of a run

A run counts its reads and writes, the keyspace counts what it found and what had expired, and the
evictor counts what it evicted. None of them looks at the figures of the others, and they agree
after every operation: each key that was written is there, or was evicted, or has expired.

* `Thinned` — what a check takes out is what its evictor counts
* `OnCourse.read`, `Missed.check`, `Missed.write` — the figures after each part of an operation
* `exists_balanced` — the figures of a run of any length, and those at its end
-/

namespace SampledEviction

/-! ## What a check counts -/

namespace Evictor

variable {σ : Type} {d : Dataset σ} {server : Server σ} {clock : Clock σ} {s : Scene σ}
  {r : CheckResult (Recorded σ)}

/-- A check that answers counts the keys that it deleted. -/
theorem Checked.evictedKeys (h : Checked d server clock s r) {outcome : Outcome}
    (hok : r.answer = .ok outcome) : r.scene.evictor.stats.evictedKeys
      = s.evictor.stats.evictedKeys + (Deed.removals r.scene.site.deeds).length := by
  obtain ⟨r', hr', hsame, hledger⟩ := exists_recorded h.ensure
  have hdeeds : r'.scene.site.deeds = r.scene.site.deeds := hledger.symm.trans h.ledger
  have hanswer : (r'.map Recorded.site).answer = (r.map Recorded.site).answer := by rw [hsame]
  have hevictor : (r'.map Recorded.site).scene.evictor = (r.map Recorded.site).scene.evictor := by
    rw [hsame]
  obtain ⟨es, hes⟩ := accounted_of_recorded hr' (hanswer.trans hok)
  rw [← hdeeds, hes.removals, List.length_map]
  exact (congrArg (·.stats.evictedKeys) hevictor.symm).trans hes.evictedKeys

end Evictor

namespace Keyspace

/-- A scene whose keyspace lost some keys, as many as the evictor counted. -/
structure Thinned (s s' : Scene Site) : Prop where
  tidy : s'.site.keyspace.Tidy
  size : s'.site.keyspace.shards.size = s.site.keyspace.shards.size
  stats : s'.site.keyspace.stats = s.site.keyspace.stats
  absent {shard : Nat} {key : Bytes} (h : s.site.keyspace.record? shard key = none) :
    s'.site.keyspace.record? shard key = none
  keys : s'.site.keyspace.total .all + s'.evictor.stats.evictedKeys
    = s.site.keyspace.total .all + s.evictor.stats.evictedKeys

namespace Site

variable {clock : Clock Site} {s : Scene Site}

theorem readable_tracked : tracked.Readable := fun _ => ⟨_, _, rfl⟩

/-- A check of a tidy keyspace answers, and counts the keys that it takes out. -/
theorem exists_thinned (hclock : Timepiece clock) (htidy : s.site.keyspace.Tidy) :
    ∃ c outcome, Evictor.ensure dataset tracked clock s = some c ∧ c.answer = .ok outcome ∧
      Thinned s c.scene := by
  have hd := housed_tracked hclock
  obtain ⟨r, hr, htraced⟩ := Evictor.exists_ensure_traced
    ((hd.catalogued s.site.keyspace.stats).sized s.site.keyspace.shards.size)
    (Dataset.Picks.sized (hd.picks s.site.keyspace.stats) s.site.keyspace.shards.size) (s := s)
    ⟨⟨htidy, rfl⟩, rfl⟩
  obtain ⟨outcome, hanswer⟩ := Evictor.ensureWithin_answer readable_tracked hr.ensure
  obtain ⟨⟨htidy', hstats⟩, hsize⟩ := htraced.inside
  have hrecords := htraced.records
  refine ⟨_, outcome, hr.ensure, hanswer, htidy', hsize, hstats, ?_, ?_⟩
  · intro shard key hnone
    show r.scene.site.site.keyspace.record? shard key = none
    rw [hrecords, hnone, ite_self]
  · have hcounted := hr.evictedKeys hanswer
    have hlost : r.scene.site.site.keyspace.total .all
        + (Deed.removals r.scene.site.deeds).length = s.site.keyspace.total .all := by
      refine htidy.total_add htidy' htraced.nodup ?_ ?_
      · intro v hv
        rw [htidy'.contains_all, hrecords, if_pos hv]
        rfl
      · intro v
        rw [htidy.contains_all, htidy'.contains_all, hrecords]
        by_cases hv : v ∈ Deed.removals r.scene.site.deeds
        · obtain ⟨x, hx, -⟩ := htraced.within v hv
          rw [hx]
          simp [hv]
        · simp [hv]
    show r.scene.site.site.keyspace.total .all + r.scene.evictor.stats.evictedKeys = _
    rw [hcounted]
    omega

end Site

end Keyspace

namespace Benchmark

open Keyspace (Site)

/-! ## Figures -/

/-- The figures after `done` operations, with `keys` left and `evicted` counted. Each read was a hit
or a miss, and each miss was followed by a write or by a refusal, but for `due` of them. The
keyspace counts the same, and of the keys that were written those are left that were neither evicted
nor had expired. -/
structure Balanced (due done : Nat) (tally : Tally) (stats : Keyspace.Stats) (keys evicted : Nat) :
    Prop where
  reads : tally.hits + tally.misses = done
  settled : tally.sets + tally.blocked + due = tally.misses
  hits : tally.hits = stats.hits
  misses : tally.misses = stats.misses
  keys : keys + evicted + stats.expired = tally.sets

namespace Balanced

variable {due done : Nat} {tally : Tally} {stats : Keyspace.Stats} {keys evicted : Nat}

theorem start : Balanced 0 0 {} {} 0 0 := ⟨rfl, rfl, rfl, rfl, rfl⟩

theorem hit (h : Balanced due done tally stats keys evicted) :
    Balanced due (done + 1) { tally with hits := tally.hits + 1 }
      { stats with hits := stats.hits + 1 } keys evicted := by
  obtain ⟨hreads, hsettled, hhits, hmisses, hkeys⟩ := h
  exact ⟨by dsimp only; omega, hsettled, congrArg (· + 1) hhits, hmisses, hkeys⟩

theorem miss (h : Balanced due done tally stats keys evicted) :
    Balanced (due + 1) (done + 1) { tally with misses := tally.misses + 1 }
      { stats with misses := stats.misses + 1 } keys evicted := by
  obtain ⟨hreads, hsettled, hhits, hmisses, hkeys⟩ := h
  exact ⟨congrArg (· + 1) hreads, congrArg (· + 1) hsettled, hhits, congrArg (· + 1) hmisses, hkeys⟩

/-- A key is lost because it has expired. -/
theorem expire (h : Balanced due done tally stats (keys + 1) evicted) :
    Balanced due done tally { stats with expired := stats.expired + 1 } keys evicted := by
  obtain ⟨hreads, hsettled, hhits, hmisses, hkeys⟩ := h
  exact ⟨hreads, hsettled, hhits, hmisses, by dsimp only; omega⟩

/-- Keys are lost because they are evicted. -/
theorem evict (h : Balanced due done tally stats keys evicted) {keys' evicted' : Nat}
    (hsame : keys' + evicted' = keys + evicted) :
    Balanced due done tally stats keys' evicted' := by
  obtain ⟨hreads, hsettled, hhits, hmisses, hkeys⟩ := h
  exact ⟨hreads, hsettled, hhits, hmisses, by omega⟩

theorem refuse (h : Balanced (due + 1) done tally stats keys evicted) :
    Balanced due done { tally with blocked := tally.blocked + 1 } stats keys evicted := by
  obtain ⟨hreads, hsettled, hhits, hmisses, hkeys⟩ := h
  exact ⟨hreads, by dsimp only; omega, hhits, hmisses, hkeys⟩

theorem write (h : Balanced (due + 1) done tally stats keys evicted) :
    Balanced due done { tally with sets := tally.sets + 1 } stats (keys + 1) evicted := by
  obtain ⟨hreads, hsettled, hhits, hmisses, hkeys⟩ := h
  exact ⟨hreads, by dsimp only; omega, hhits, hmisses, by dsimp only; omega⟩

end Balanced

namespace Run

/-- The figures of a run. -/
def Balances (due done : Nat) (r : Run) : Prop :=
  Balanced due done r.tally r.scene.site.keyspace.stats (r.scene.site.keyspace.total .all)
    r.scene.evictor.stats.evictedKeys

/-- A run with balanced figures, whose keyspace is tidy and has so many shards. -/
structure OnCourse (shards due done : Nat) (r : Run) : Prop where
  balances : r.Balances due done
  tidy : r.scene.site.keyspace.Tidy
  size : r.scene.site.keyspace.shards.size = shards

/-- A run that missed a key, which is still to be written or refused. -/
structure Missed (shards : Nat) (t : Target) (done : Nat) (r : Run) : Prop where
  course : r.OnCourse shards 1 done
  inside : t.shard < shards
  absent : r.scene.site.keyspace.record? t.shard t.key = none

variable {s : Settings} {clock : Clock Site} {value : Bytes} {shards due done : Nat} {t : Target}
  {r r' : Run}

/-! ## The parts of an operation -/

/-- A run stays on course with figures that are balanced, if one key was rewritten. -/
theorem OnCourse.goOn (h : r.OnCourse shards due done) {ks : Keyspace} {tally : Tally}
    {due' done' : Nat} {g : Option (Record Bytes) → Option (Record Bytes)}
    (hrewritten : r.scene.site.keyspace.Rewritten ks t.shard t.key g)
    (hbalanced : Balanced due' done' tally ks.stats (ks.total .all)
      r.scene.evictor.stats.evictedKeys) : (r.goOn ks tally).OnCourse shards due' done' :=
  ⟨hbalanced, hrewritten.tidy, hrewritten.size.trans h.size⟩

/-- A key that is read is found, or is not there afterwards. -/
theorem OnCourse.read (h : r.OnCourse shards 0 done) (ht : t.shard < shards) {now : Moment}
    {found : Bool} (hread : Run.read t now r = (found, r')) :
    (found = true → r'.OnCourse shards 0 (done + 1)) ∧
      (found = false → Missed shards t (done + 1) r') := by
  have hbalanced : Balanced 0 done r.tally _ _ _ := h.balances
  have hcases := h.tidy.read t.shard t.key now
  rcases hget : r.scene.site.keyspace.get t.shard t.key now with ⟨x, ks⟩
  rw [read_of_get hget] at hread
  rw [hget] at hcases
  cases hread
  cases hcases with
  | hit hx _ hrewritten hstats =>
    have htotal := hrewritten.total_kept h.tidy (by rw [hrewritten.self, Option.isSome_map])
    refine ⟨fun _ => h.goOn hrewritten ?_, nofun⟩
    rw [hstats, htotal]
    exact hbalanced.hit
  | absent hx hrewritten hstats =>
    have htotal := hrewritten.total_kept h.tidy (by rw [hrewritten.self]; rfl)
    refine ⟨nofun, fun _ => ⟨h.goOn hrewritten ?_, ht, hrewritten.self.trans hx⟩⟩
    rw [hstats, htotal]
    exact hbalanced.miss
  | expired hx _ hrewritten hstats =>
    have htotal := hrewritten.total_lost h.tidy (by rw [hx]; rfl) hrewritten.self
    refine ⟨nofun, fun _ => ⟨h.goOn hrewritten ?_, ht, hrewritten.self⟩⟩
    rw [← htotal] at hbalanced
    rw [hstats]
    exact hbalanced.miss.expire

/-- A check takes keys out and counts them, and lets the write follow or refuses it. -/
theorem Missed.check (h : Missed shards t done r) (hclock : Site.Timepiece clock) :
    ∃ may r' notices, Run.check (.tracked clock) r = .ok (may, r', notices) ∧
      (may = true → Missed shards t done r') ∧ (may = false → r'.OnCourse shards 0 done) := by
  obtain ⟨c, outcome, hensure, hanswer, hthinned⟩ := Site.exists_thinned hclock h.course.tidy
  obtain ⟨notices, hcheck⟩ := exists_check_of_ensure hensure hanswer
  have hbalanced : Balanced 1 done r.tally c.scene.site.keyspace.stats
      (c.scene.site.keyspace.total .all) c.scene.evictor.stats.evictedKeys := by
    rw [hthinned.stats]
    exact Balanced.evict h.course.balances hthinned.keys
  have hsize := hthinned.size.trans h.course.size
  refine ⟨_, _, notices, hcheck, ?_⟩
  cases outcome with
  | ok =>
    constructor
    · intro _
      exact ⟨⟨hbalanced, hthinned.tidy, hsize⟩, h.inside, hthinned.absent h.absent⟩
    · nofun
  | blocked reason =>
    constructor
    · nofun
    · intro _
      exact ⟨hbalanced.refuse, hthinned.tidy, hsize⟩

/-- A write after a miss makes a new key. -/
theorem Missed.write (h : Missed shards t done r) (now : Moment) :
    ∃ r', Run.write s value t now r = .ok r' ∧ r'.OnCourse shards 0 done := by
  have hbalanced : Balanced 1 done r.tally _ _ _ := h.course.balances
  have htidy := h.course.tidy
  have hshard : t.shard < r.scene.site.keyspace.shards.size := h.course.size ▸ h.inside
  obtain ⟨ttl, random, hwrite⟩ := exists_write_of_set s value t now r
  obtain ⟨ks, hset, hstats, hrewritten⟩ := htidy.exists_set hshard t.key value ttl now
  have htotal := hrewritten.total_gained htidy h.absent (by rw [hrewritten.self]; rfl)
  have hafter : (r.goOn ks { r.tally with sets := r.tally.sets + 1 }).OnCourse shards 0 done := by
    refine h.course.goOn hrewritten ?_
    rw [hstats, htotal]
    exact hbalanced.write
  exact ⟨_, hwrite ks hset, hafter.balances, hafter.tidy, hafter.size⟩

/-- A report releases what waits, which no figure shows. -/
theorem OnCourse.drain (h : r.OnCourse shards due done) :
    (r.goOn r.scene.site.keyspace.drain r.tally).OnCourse shards due done := by
  have huntouched := Site.untouched_drain r.scene.site.keyspace
  have htotal : r.scene.site.keyspace.drain.total .all = r.scene.site.keyspace.total .all := by
    unfold Keyspace.total
    rw [huntouched.shards]
  refine ⟨?_, huntouched.tidy h.tidy, (congrArg Array.size huntouched.shards).trans h.size⟩
  show Balanced _ _ _ r.scene.site.keyspace.drain.stats (r.scene.site.keyspace.drain.total .all) _
  rw [huntouched.stats, htotal]
  exact h.balances

/-- What a run on course keeps in each part of an operation. -/
theorem keeps_course (hclock : Site.Timepiece clock) (hshards : 0 < shards) (s : Settings)
    (value : Bytes) : Keeps s (.tracked clock) value (fun done r => r.OnCourse shards 0 done)
      (fun t done r => Missed shards t done r) fun t done r => Missed shards t done r where
  hit {done r r'} h hread := by
    have hdrawn : (draw s r).2.OnCourse shards 0 done := ⟨h.balances, h.tidy, h.size⟩
    exact (hdrawn.read (h.size ▸ draw_shard_lt (h.size ▸ hshards)) hread).1 rfl
  miss {done r r'} h hread := by
    have hdrawn : (draw s r).2.OnCourse shards 0 done := ⟨h.balances, h.tidy, h.size⟩
    exact (hdrawn.read (h.size ▸ draw_shard_lt (h.size ▸ hshards)) hread).2 rfl
  check h := h.check hclock
  write h := h.write _
  report {done r} h n := by
    obtain ⟨notice, hreport⟩ := exists_report clock n r
    exact ⟨_, notice, hreport, h.drain⟩

/-! ## A whole run -/

/-- A run starts with nothing counted. -/
theorem onCourse_opening {o : Keyspace.Options} {keyspace : Keyspace} {evictor : Evictor}
    (hcreated : Keyspace.Created o keyspace)
    (hevictor : Evictor.ofSettings s.eviction = .ok evictor) (wall : ManualClock) :
    (opening s wall keyspace evictor).OnCourse o.shards 0 0 := by
  obtain ⟨-, rfl⟩ := Evictor.ofSettings_cases hevictor
  refine ⟨?_, hcreated.sound.tidy, hcreated.size⟩
  show Balanced 0 0 {} keyspace.stats (keyspace.total .all) 0
  rw [hcreated.stats, hcreated.total_eq_zero]
  exact .start

theorem OnCourse.exists_finish (h : r.OnCourse shards 0 done) (s : Settings) (clock : Clock Site) :
    ∃ r' x, finish s (.tracked clock) r = .ok (r', x) ∧
      Balanced 0 done x.tally r'.scene.site.keyspace.stats x.keys x.evicted ∧
      x.expired = r'.scene.site.keyspace.stats.expired ∧ x.operations = s.general.operations := by
  obtain ⟨usage, husage⟩ := exists_usage r.scene.evictor.budget
    { r.scene.site with keyspace := r.scene.site.keyspace.drain }
  have husage : r.scene.evictor.budget.report (Environment.tracked clock).server
      { r.scene.site with keyspace := r.scene.site.keyspace.drain } = _ := husage
  unfold finish
  dsimp only
  rw [husage]
  exact ⟨_, _, rfl, h.drain.drain.balances, rfl, rfl⟩

end Run

/-- What a run needs of its settings: nothing that it divides by or draws below is zero, and no
product is formed that does not fit into a word. -/
structure Settings.Feasible (s : Settings) : Prop where
  shards : 0 < s.general.shards
  keys : 0 < s.workload.keys
  hotKeys : ∃ n, s.workload.hotKeys = some n ∧ 0 < n ∧ n ≤ s.workload.keys
  product : s.workload.keys * s.workload.hotPercent < Word.modulus
  interval : 0 < Run.reportInterval s

theorem Settings.feasible {s : Settings} (hvalid : s.validate = .ok ())
    (hkeys : s.workload.keys * 100 < Word.modulus) : s.Feasible := by
  obtain ⟨-, hshards, hw⟩ := Settings.validate_iff.mp hvalid
  have hfits : s.workload.Fits :=
    Nat.lt_of_le_of_lt (Nat.mul_le_mul_left _ hw.hotPercent) hkeys
  exact
    { shards := hshards
      keys := hw.keys
      hotKeys := ⟨_, Workload.hotKeys_of_fits hfits, s.workload.hotShare_pos,
        Workload.hotShare_le hw.keys hw.hotPercent⟩
      product := hfits
      interval := Nat.lt_of_lt_of_le Nat.one_pos (Nat.le_max_right _ _) }

open Run in
/-- A run whose usage is the counter of its keyspace comes to its end, on any clock. After every
operation its figures are balanced, and what is drawn next is the number of a key and falls into a
shard. At the end each read was a hit or a miss, each miss a write or a refusal, and the keys that
are left are those that were written and neither evicted nor expired. -/
theorem exists_balanced {s : Settings} (hvalid : s.validate = .ok ())
    (hmemory : s.general.memory = .keyspace) (hkeys : s.workload.keys * 100 < Word.modulus)
    {clock : Clock Site} (hclock : Site.Timepiece clock) (bytes : Nat) (wall : ManualClock)
    (entropy : Nat) :
    s.Feasible ∧ ∃ r value, start s wall entropy = .ok (r, value) ∧
      (∀ n, ∃ r' log, loop s (.ofSettings s bytes clock) value n 0 r [] = .ok (r', log) ∧
        r'.Balances 0 n ∧ (drawId s.workload r'.random).1 < s.workload.keys ∧
        (draw s r').1.shard < r'.scene.site.keyspace.shards.size) ∧
      ∃ result, execute s (.ofSettings s bytes clock) wall entropy = .ok result ∧
        result.summary.operations = s.general.operations ∧
        result.summary.tally.hits + result.summary.tally.misses = s.general.operations ∧
        result.summary.tally.sets + result.summary.tally.blocked = result.summary.tally.misses ∧
        result.summary.tally.hits = result.run.scene.site.keyspace.stats.hits ∧
        result.summary.tally.misses = result.run.scene.site.keyspace.stats.misses ∧
        result.summary.keys + result.summary.evicted + result.summary.expired
          = result.summary.tally.sets := by
  have hfeasible := Settings.feasible hvalid hkeys
  have hworkload := (Settings.validate_iff.mp hvalid).2.2
  obtain ⟨keyspace, evictor, hcreated, hevictor, hstart⟩ := exists_start hvalid wall entropy
  rw [Environment.ofSettings_of_keyspace hmemory]
  have hk := keeps_course hclock hfeasible.shards s (payload s)
  have hrun (n : Nat) : ∃ r' log, loop s (.tracked clock) (payload s) n 0
      (opening s wall keyspace evictor) [] = .ok (r', log) ∧
      r'.OnCourse s.general.shards 0 n := by
    obtain ⟨r', log, hloop, hend⟩ := hk.exists_loop (onCourse_opening hcreated hevictor wall) n []
    rw [Nat.zero_add] at hend
    exact ⟨r', log, hloop, hend⟩
  refine ⟨hfeasible, _, _, hstart, ?_, ?_⟩
  · intro n
    obtain ⟨r', log, hloop, hcourse⟩ := hrun n
    have hshards : 0 < r'.scene.site.keyspace.shards.size := hcourse.size ▸ hfeasible.shards
    exact ⟨r', log, hloop, hcourse.balances, drawId_lt hworkload _, draw_shard_lt hshards⟩
  · obtain ⟨r', log, hloop, hcourse⟩ := hrun s.general.operations
    obtain ⟨run, x, hfinish, hbalanced, hexpired, hoperations⟩ := hcourse.exists_finish s clock
    obtain ⟨notices, hexecute⟩ := exists_execute hstart hfeasible.product hloop hfinish
    have hkeys := hbalanced.keys
    rw [← hexpired] at hkeys
    exact ⟨_, hexecute, hoperations, hbalanced.reads, hbalanced.settled, hbalanced.hits,
      hbalanced.misses, hkeys⟩

/-- The run of sixty operations. -/
theorem exists_balanced_small :
    (Settings.small.validate = .ok () ∧ Settings.small.general.memory = .keyspace ∧
      Settings.small.workload.keys * 100 < Word.modulus ∧ Site.Timepiece Site.manual) ∧
    ∃ result, execute .small (.ofSettings .small 0 Site.manual) {} 0 = .ok result ∧
      result.summary.tally.hits + result.summary.tally.misses = 60 ∧
      result.summary.tally.sets + result.summary.tally.blocked = result.summary.tally.misses ∧
      result.summary.keys + result.summary.evicted + result.summary.expired
        = result.summary.tally.sets := by
  have hkeys : Settings.small.workload.keys * 100 < Word.modulus := by decide
  obtain ⟨-, _, _, -, -, result, hexecute, -, hreads, hsettled, -, -, hbalance⟩ :=
    exists_balanced Settings.validate_small rfl hkeys Site.timepiece_manual 0 {} 0
  exact ⟨⟨Settings.validate_small, rfl, hkeys, Site.timepiece_manual⟩, result, hexecute, hreads,
    hsettled, hbalance⟩

end Benchmark

end SampledEviction
