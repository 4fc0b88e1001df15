import SampledEviction.Proofs.Keyspace.Draws
import SampledEviction.Proofs.Ledger

/-!
# Sites without a reclaimer

Without a reclaimer a deletion releases its bytes at once, and usage is the counter of the
keyspace and the overhead, whenever it is read.

* `exists_remove` — what a deletion takes away
* `overage?_of_sync`, `exists_deleteVictim`, `awaitReleases_of_sync` — the parts of a cycle
-/

namespace SampledEviction

namespace Keyspace

/-! ## What a deletion takes away -/

/-- A keyspace without a reclaimer, after the deletion of a key within a scope. -/
structure Shrunk (scope : Scope) (ks ks' : Keyspace) : Prop where
  sound : ks'.Sound
  sync : ks'.reclaimer = none
  shards : ks'.shards.size = ks.shards.size
  bytes_lt : ks'.memory.bytes < ks.memory.bytes
  total_le (other : Scope) : ks'.total other ≤ ks.total other
  total_lt : ks'.total scope < ks.total scope

variable {ks : Keyspace} {shard : Nat} {scope : Scope} {key : Bytes}

theorem total_write {s : Shard} (hs : ks.shards[shard]? = some s) (f : Shard → Shard)
    (memory : Counter) (reclaimer : Option Reclaimer) (scope : Scope) :
    (ks.write shard f memory reclaimer).total scope + s.count scope
      = ks.total scope + (f s).count scope :=
  tally_modify (f := (·.count scope)) hs f

/-- A key within the scope is deleted, and its bytes are released. -/
theorem exists_remove (h : ks.Sound) (hsync : ks.reclaimer = none)
    (hkey : ks.contains shard scope key = true) (deferred : Bool) :
    ∃ ks', ks.remove shard key deferred = (true, ks') ∧ Shrunk scope ks ks' := by
  obtain ⟨s, hs, hthere⟩ := exists_shard_of_contains hkey
  have hsound := h.shard hs
  obtain ⟨entry, hentry⟩ := hsound.contains_main hthere
  rcases remove_of_some ((entry?_eq hs key).trans hentry) deferred with hremove | ⟨r, hr, -⟩
  · refine ⟨_, hremove, ?_⟩
    have hkept := h.remove shard key deferred
    rw [hremove] at hkept
    have hself := hsound.charged_self hentry
    rw [← h.isSome_deadline? hs] at hself
    have hbytes := h.bytes
    have hle := charged_le hs
    have htotal := total_write hs (·.erase key)
      (ks.memory.sub (charge key entry.value (ks.deadline? shard key).isSome)) ks.reclaimer
    have hpositive : 0 < charge key entry.value (ks.deadline? shard key).isSome := by
      unfold charge entryOverhead
      omega
    unfold held at hbytes
    exact
      { sound := hkept
        sync := hsync
        shards := Array.size_modify
        bytes_lt := by
          show ks.memory.bytes - _ < ks.memory.bytes
          omega
        total_le := fun other => by
          have hother := htotal other
          have hcount := hsound.count_erase_le key other
          omega
        total_lt := by
          have hscope := htotal scope
          have hcount := hsound.count_erase hthere
          omega }
  · -- only a reclaimer would take the charge over
    rw [hsync] at hr
    cases hr

/-! ## Sites of a cycle -/

namespace Site

/-- The site with another keyspace. -/
def withKeyspace (s : Site) (keyspace : Keyspace) : Site := ⟨keyspace, s.server, s.clock⟩

/-- A site that a cycle without a reclaimer may have led to. -/
structure Synced (s₀ s : Site) : Prop where
  server : ∃ flushes evicted, s.server = { s₀.server with flushes, evicted }
  sound : s.keyspace.Sound
  sync : s.keyspace.reclaimer = none
  shards : s.keyspace.shards.size = s₀.keyspace.shards.size
  bytes_le : s.keyspace.memory.bytes ≤ s₀.keyspace.memory.bytes
  total_le (scope : Scope) : s.keyspace.total scope ≤ s₀.keyspace.total scope

variable {s₀ s s' : Site}

theorem Synced.refl (hsound : s.keyspace.Sound) (hsync : s.keyspace.reclaimer = none) :
    s.Synced s :=
  ⟨⟨_, _, rfl⟩, hsound, hsync, rfl, Nat.le_refl _, fun _ => Nat.le_refl _⟩

theorem Synced.redraw (h : s₀.Synced s) (hdraw : s.Redrawn s') : s₀.Synced s' := by
  obtain ⟨random, rfl⟩ := hdraw
  exact ⟨h.server, h.sound.congr rfl rfl rfl, h.sync, h.shards, h.bytes_le, h.total_le⟩

theorem Synced.shrunk (h : s₀.Synced s) {scope : Scope} {ks : Keyspace}
    (hks : Shrunk scope s.keyspace ks) : s₀.Synced (s.withKeyspace ks) where
  server := h.server
  sound := hks.sound
  sync := hks.sync
  shards := hks.shards.trans h.shards
  bytes_le := Nat.le_trans (Nat.le_of_lt hks.bytes_lt) h.bytes_le
  total_le scope := Nat.le_trans (hks.total_le scope) (h.total_le scope)

/-- A deletion is told of, and replica output may be flushed. -/
theorem Synced.told (h : s₀.Synced s) {server : TrackedServer}
    (hserver : ∃ flushes evicted, server = { s.server with flushes, evicted }) :
    s₀.Synced { s with server } where
  server := by
    obtain ⟨_, _, h⟩ := h.server
    obtain ⟨flushes, evicted, rfl⟩ := hserver
    exact ⟨flushes, evicted, by rw [h]⟩
  sound := h.sound
  sync := h.sync
  shards := h.shards
  bytes_le := h.bytes_le
  total_le := h.total_le

/-! ## Reading and deleting -/

theorem drain_of_sync {ks : Keyspace} (hsync : ks.reclaimer = none) : ks.drain = ks := by
  unfold Keyspace.drain
  rw [hsync]

theorem usedBytes_of_sync (hsync : s.keyspace.reclaimer = none) :
    tracked.usedBytes s = (.ok (s.server.used s.keyspace.memory), s) := by
  show (Except.ok (s.server.used s.keyspace.drain.memory), { s with keyspace := s.keyspace.drain })
    = _
  rw [drain_of_sync hsync]

/-- A look at usage compares the counter with the limit, whatever the overhead. -/
theorem overage?_of_sync (hsync : s.keyspace.reclaimer = none)
    (hfits : s.keyspace.memory.bytes + s.server.overhead < Word.modulus) {limit : Nat}
    (hlimit : limit ≠ 0) :
    (Budget.mk limit).overage? tracked s =
      (.ok (if s.keyspace.memory.bytes ≤ limit then none
        else some ⟨s.keyspace.memory.bytes + s.server.overhead, s.keyspace.memory.bytes,
          s.keyspace.memory.bytes - limit⟩), s) := by
  have hused : s.server.used s.keyspace.memory
      = s.keyspace.memory.bytes + s.server.overhead := Word.add_of_lt hfits
  have hnet : s.keyspace.memory.bytes + s.server.overhead - s.server.overhead
      = s.keyspace.memory.bytes := Nat.add_sub_cancel ..
  unfold Budget.overage?
  simp only [if_neg hlimit, usedBytes_of_sync hsync, hused,
    show tracked.exemptBytes s = (s.server.overhead, s) from rfl, hnet]
  by_cases hle : s.keyspace.memory.bytes ≤ limit
  · rw [if_pos hle, if_pos hle]
    split <;> rfl
  · rw [if_neg hle, if_neg hle, if_neg (by omega)]

theorem onKeyspace_eq {α : Type} (f : Keyspace → α × Keyspace) (s : Site) :
    onKeyspace f s = ((f s.keyspace).1, s.withKeyspace (f s.keyspace).2) := rfl

/-- A deletion of a key within the scope frees what the counter falls by. -/
theorem exists_deleteVictim {r : Recorded Site} (hsound : r.site.keyspace.Sound)
    (hsync : r.site.keyspace.reclaimer = none)
    (hfits : r.site.keyspace.memory.bytes + r.site.server.overhead < Word.modulus)
    {v : Victim} {scope : Scope} (hkey : dataset.contains r.site v.shard scope v.key = true)
    (lazy : Bool) :
    ∃ ks before after, Shrunk scope r.site.keyspace ks ∧
      Evictor.deleteVictim (Recorded.dataset dataset) (Recorded.server tracked) lazy v r
        = (.ok (true, r.site.keyspace.memory.bytes - ks.memory.bytes),
          ⟨r.site.withKeyspace ks, .read after (r.site.withKeyspace ks)
            :: .deleted r.site v true :: .read before r.site :: r.deeds⟩) := by
  obtain ⟨ks, hremove, hshrunk⟩ := exists_remove hsound hsync hkey lazy
  have hdelete : (if lazy then dataset.deleteDeferred v.shard v.key r.site
      else dataset.delete v.shard v.key r.site) = (true, r.site.withKeyspace ks) := by
    cases lazy with
    | false =>
      show onKeyspace (fun ks => ks.remove v.shard v.key false) r.site = _
      rw [onKeyspace_eq, hremove]
    | true =>
      show onKeyspace (fun ks => ks.remove v.shard v.key true) r.site = _
      rw [onKeyspace_eq, hremove]
  have hbefore := usedBytes_of_sync hsync
  have hafter := usedBytes_of_sync (s := r.site.withKeyspace ks) hshrunk.sync
  have hless := hshrunk.bytes_lt
  -- both readings count the overhead, and neither wraps
  have hfreed : r.site.server.used r.site.keyspace.memory - r.site.server.used ks.memory
      = r.site.keyspace.memory.bytes - ks.memory.bytes := by
    unfold TrackedServer.used
    rw [Word.add_of_lt hfits, Word.add_of_lt (by omega)]
    omega
  refine ⟨ks, .ok (r.site.server.used r.site.keyspace.memory), .ok (r.site.server.used ks.memory),
    hshrunk, ?_⟩
  unfold Evictor.deleteVictim
  rw [Recorded.usedBytes_eq hbefore]
  have hrecorded := Recorded.deletion_eq (d := dataset)
    (r := ⟨r.site, .read (.ok (r.site.server.used r.site.keyspace.memory)) r.site :: r.deeds⟩)
    hdelete
  simp only [hrecorded]
  rw [Recorded.usedBytes_eq (r := ⟨r.site.withKeyspace ks, _⟩) hafter, ← hfreed]
  rfl

/-- Without a reclaimer there is nothing to wait for. -/
theorem awaitReleases_of_sync {r : Recorded Site} (hsync : r.site.keyspace.reclaimer = none)
    (clock : Clock Site) (o : Overage) (freed remaining : Nat) :
    Evictor.awaitReleases (Recorded.dataset dataset) (Recorded.server tracked)
        (Recorded.clock clock) o freed remaining false r
      = (.ok (.blocked .noCandidates), ⟨r.site, .polled 0 :: r.deeds⟩) := by
  have hpending : dataset.pendingReleases r.site = (0, r.site) := by
    show onKeyspace (fun ks => (ks.pending, ks)) r.site = _
    rw [onKeyspace_eq]
    unfold Keyspace.pending
    rw [hsync]
    rfl
  unfold Evictor.awaitReleases
  rw [Recorded.pendingReleases_eq hpending]
  simp only [if_true, Bool.false_eq_true, if_false]

end Site

end Keyspace

end SampledEviction
