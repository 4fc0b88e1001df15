import SampledEviction.Proofs.Catalogue
import SampledEviction.Proofs.Keyspace.Contract

/-!
# What a check may touch

A check of a keyspace takes out the keys that the server is told of, and touches nothing else:
neither another key, nor its value, its stamp or its deadline, nor the figures of the keyspace.

* `Housed` — sites that house a keyspace
* `Housed.catalogued` — they say what they are
* `ensure_framed` — what a check touches
-/

namespace SampledEviction.Keyspace

variable {ks ks' : Keyspace} {shard : Nat} {key : Bytes} {scope : Scope}

/-! ## Records -/

/-- What a keyspace holds of a key. -/
def record? (ks : Keyspace) (shard : Nat) (key : Bytes) : Option (Record Bytes) :=
  (ks.entry? shard key).map fun e => ⟨e.value, e.stamp, ks.deadline? shard key⟩

theorem exists_entry_of_record {x : Record Bytes} (h : ks.record? shard key = some x) :
    ∃ entry, ks.entry? shard key = some entry ∧
      x = ⟨entry.value, entry.stamp, ks.deadline? shard key⟩ := by
  obtain ⟨entry, hentry, hx⟩ := Option.map_eq_some_iff.mp h
  exact ⟨entry, hentry, hx.symm⟩

theorem record?_eq {s : Shard} (hs : ks.shards[shard]? = some s) (key : Bytes) :
    ks.record? shard key
      = (s.main.get? key).map fun e => ⟨e.value, e.stamp, s.deadlines.get? key⟩ := by
  unfold record? deadline?
  rw [entry?_eq hs, hs, Option.bind_some]

/-- A key is within a scope if its record is. -/
theorem Tidy.contains_eq_any (h : ks.Tidy) (shard : Nat) (scope : Scope) (key : Bytes) :
    ks.contains shard scope key = (ks.record? shard key).any (·.within scope) := by
  cases hs : ks.shards[shard]? with
  | none => simp [Keyspace.contains, record?, Keyspace.entry?, hs]
  | some s =>
    have hsound := h.shard hs
    rw [contains_eq hs, record?_eq hs]
    cases scope with
    | all =>
      show s.main.contains key = _
      rw [hsound.main.contains_eq]
      cases s.main.get? key <;> rfl
    | volatile =>
      show s.deadlines.contains key = _
      cases hentry : s.main.get? key with
      | some entry =>
        rw [hsound.deadlines.contains_eq]
        rfl
      | none =>
        -- a key that is not there does not expire
        refine Bool.eq_false_iff.mpr fun hkey => ?_
        have hmain := hsound.subset key hkey
        rw [hsound.main.contains_eq, hentry] at hmain
        cases hmain

/-- The keys that a shard counts. -/
theorem Tidy.exists_keys (h : ks.Tidy) (shard : Nat) (scope : Scope) :
    ∃ keys : List Bytes, keys.Nodup ∧ keys.length = ks.count shard scope ∧
      ∀ key, key ∈ keys ↔ ks.contains shard scope key = true := by
  cases hs : ks.shards[shard]? with
  | none =>
    exact ⟨[], List.nodup_nil, by simp [Keyspace.count, hs], by simp [Keyspace.contains, hs]⟩
  | some s =>
    have hsound := h.shard hs
    have hcount : ks.count shard scope = s.count scope := by
      unfold Keyspace.count
      rw [hs]
      rfl
    rw [hcount]
    simp only [contains_eq hs]
    cases scope with
    | all =>
      refine ⟨s.main.toList.map (·.1), hsound.main.nodup_keys, ?_, fun key => ?_⟩
      · rw [List.length_map, DenseMap.length_toList]
        rfl
      · exact hsound.main.mem_keys_iff
    | volatile =>
      refine ⟨s.deadlines.toList.map (·.1), hsound.deadlines.nodup_keys, ?_, fun key => ?_⟩
      · rw [List.length_map, DenseMap.length_toList]
        rfl
      · exact hsound.deadlines.mem_keys_iff

/-- A sample shows records as they are. -/
theorem Tidy.shown_of_mem_sample (h : ks.Tidy) {n : Nat} {visit : Bytes × Sampled}
    (hvisit : visit ∈ (ks.sample shard scope n).1) :
    ∃ x, ks.record? shard visit.1 = some x ∧ x.shown scope = some visit.2 := by
  obtain ⟨s, hs, hvisit⟩ := exists_shard_of_mem_sample hvisit
  have hsound := h.shard hs
  rw [record?_eq hs]
  rcases hsound.of_mem_sample hvisit with ⟨rfl, entry, hentry, hshown⟩ | ⟨rfl, t, ht, hshown⟩
  · rw [hentry, hshown]
    exact ⟨_, rfl, rfl⟩
  · -- a key that expires is among all keys
    have hthere : s.contains visit.1 .volatile = true := hsound.deadlines.contains_iff.mpr ⟨t, ht⟩
    obtain ⟨entry, hentry⟩ := hsound.contains_main hthere
    rw [hentry, ht, hshown]
    exact ⟨_, rfl, rfl⟩

theorem Tidy.contains_of_randomKey (h : ks.Tidy)
    (hkey : (ks.randomKey shard scope).1 = some key) : ks.contains shard scope key = true := by
  obtain ⟨s, hs, hkey⟩ := exists_shard_of_randomKey hkey
  rw [contains_eq hs]
  exact (h.shard hs).contains_of_randomKey hkey

theorem Tidy.remove (h : ks.Tidy) {deferred removed : Bool}
    (hremove : ks.remove shard key deferred = (removed, ks')) : ks'.Tidy where
  shard {i s} hs := by
    have hshards := getElem?_shards_remove h shard key deferred i
    rw [hremove] at hshards
    rw [hshards] at hs
    split at hs
    · obtain ⟨t, ht, rfl⟩ := Option.map_eq_some_iff.mp hs
      exact (h.shard ht).erase key
    · exact h.shard hs

/-- A removal takes out the record of its key, and no other. -/
theorem Tidy.record?_remove (h : ks.Tidy) {deferred removed : Bool}
    (hremove : ks.remove shard key deferred = (removed, ks')) (i : Nat) (k : Bytes) :
    ks'.record? i k = if shard = i ∧ key = k then none else ks.record? i k := by
  unfold record?
  rw [entry?_remove h hremove, deadline?_remove h hremove]
  split <;> rfl

theorem Tidy.congr (h : ks.Tidy) (hshards : ks'.shards = ks.shards) : ks'.Tidy where
  shard hs := h.shard (hshards ▸ hs)

/-- The records are those of the tables. -/
theorem record?_congr (hshards : ks'.shards = ks.shards) : ks'.record? = ks.record? := by
  funext shard key
  unfold Keyspace.record? Keyspace.entry? deadline?
  rw [hshards]

/-! ## Sites that house a keyspace -/

/-- The tables and the figures of a keyspace are those of another. -/
structure Untouched (ks ks' : Keyspace) : Prop where
  shards : ks'.shards = ks.shards
  stats : ks'.stats = ks.stats

theorem Untouched.refl (ks : Keyspace) : Untouched ks ks := ⟨rfl, rfl⟩

theorem Untouched.tidy (h : Untouched ks ks') (htidy : ks.Tidy) : ks'.Tidy := htidy.congr h.shards

theorem Untouched.record? (h : Untouched ks ks') : ks'.record? = ks.record? :=
  record?_congr h.shards

theorem untouched_sample (ks : Keyspace) (shard : Nat) (scope : Scope) (n : Nat) :
    Untouched ks (ks.sample shard scope n).2 := by
  unfold sample
  split <;> exact ⟨rfl, rfl⟩

theorem untouched_randomKey (ks : Keyspace) (shard : Nat) (scope : Scope) :
    Untouched ks (ks.randomKey shard scope).2 := by
  unfold randomKey
  split <;> exact ⟨rfl, rfl⟩

variable {σ : Type} {view : σ → Keyspace} {d : Dataset σ} {server : Server σ} {clock : Clock σ}

/-- Sites that house a keyspace. They show it to an evictor as it is, and draws and deletions are
its own. The server and the clock around it do not touch its tables and its figures; the reclaimer
may go on at any time. -/
structure Housed (view : σ → Keyspace) (d : Dataset σ) (server : Server σ) (clock : Clock σ) :
    Prop where
  shards (site : σ) : d.shards site = (view site).shards.size
  count (site : σ) : d.count site = (view site).count
  stamp? (site : σ) : d.stamp? site = (view site).stamp?
  contains (site : σ) : d.contains site = (view site).contains
  sample (shard : Nat) (scope : Scope) (n : Nat) (site : σ) :
    (d.sample shard scope n site).1 = ((view site).sample shard scope n).1 ∧
      Untouched (view site) (view (d.sample shard scope n site).2)
  randomKey (shard : Nat) (scope : Scope) (site : σ) :
    (d.randomKey shard scope site).1 = ((view site).randomKey shard scope).1 ∧
      Untouched (view site) (view (d.randomKey shard scope site).2)
  delete (shard : Nat) (key : Bytes) (site : σ) :
    (d.delete shard key site).1 = ((view site).remove shard key false).1 ∧
      Untouched ((view site).remove shard key false).2 (view (d.delete shard key site).2)
  deleteDeferred (shard : Nat) (key : Bytes) (site : σ) :
    (d.deleteDeferred shard key site).1 = ((view site).remove shard key true).1 ∧
      Untouched ((view site).remove shard key true).2 (view (d.deleteDeferred shard key site).2)
  aside {site site' : σ} (h : Aside d server clock site site') : Untouched (view site) (view site')

/-- The sites whose keyspace is tidy, and has certain figures. -/
def Showing (view : σ → Keyspace) (stats : Stats) (site : σ) : Prop :=
  (view site).Tidy ∧ (view site).stats = stats

namespace Housed

variable {site site' : σ} {stats : Stats}

theorem steady (hd : Housed view d server clock) (h : Showing view stats site)
    (huntouched : Untouched (view site) (view site')) :
    Steady d (Showing view stats) (fun site => (view site).record?) site site' where
  inside := ⟨huntouched.tidy h.1, huntouched.stats.trans h.2⟩
  shards := by rw [hd.shards, hd.shards, huntouched.shards]
  records := huntouched.record?

/-- A deletion is a removal, at once or later. -/
theorem delete_cases (hd : Housed view d server clock) {lazy removed : Bool}
    (hdelete : (if lazy then d.deleteDeferred shard key site else d.delete shard key site)
      = (removed, site')) :
    ∃ ks, (view site).remove shard key lazy = (removed, ks) ∧ Untouched ks (view site') := by
  cases lazy with
  | true =>
    obtain ⟨hremoved, huntouched⟩ := hd.deleteDeferred shard key site
    rw [if_pos rfl] at hdelete
    rw [hdelete] at hremoved huntouched
    exact ⟨_, Prod.ext hremoved.symm rfl, huntouched⟩
  | false =>
    obtain ⟨hremoved, huntouched⟩ := hd.delete shard key site
    rw [if_neg Bool.false_ne_true] at hdelete
    rw [hdelete] at hremoved huntouched
    exact ⟨_, Prod.ext hremoved.symm rfl, huntouched⟩

/-- Sites that house a keyspace say what they are. -/
theorem catalogued (hd : Housed view d server clock) (stats : Stats) :
    Catalogued d server clock (Showing view stats) fun site => (view site).record? where
  contains h shard scope key := by rw [hd.contains, h.1.contains_eq_any]
  stamp {site} _ shard key := by
    rw [hd.stamp?]
    unfold Keyspace.stamp? Keyspace.record?
    rw [Option.map_map]
    rfl
  bounded {site} _ {shard key x} hx := by
    obtain ⟨entry, hentry, -⟩ := exists_entry_of_record hx
    obtain ⟨s, hs, -⟩ := exists_shard_of_entry hentry
    rw [hd.shards]
    exact (Array.getElem?_eq_some_iff.mp hs).1
  count h shard scope := by
    rw [hd.count, hd.contains]
    exact h.1.exists_keys shard scope
  sample h shard scope n := by
    obtain ⟨hvisits, huntouched⟩ := hd.sample shard scope n _
    refine ⟨hd.steady h huntouched, fun visit hvisit => ?_⟩
    rw [hvisits] at hvisit
    exact h.1.shown_of_mem_sample hvisit
  aside h haside := hd.steady h (hd.aside haside)
  delete {site site'} h {shard key lazy removed} hdelete := by
    obtain ⟨ks, hremove, huntouched⟩ := hd.delete_cases hdelete
    have hkept := size_shards_remove (view site) shard key lazy
    have hstats := stats_remove (view site) shard key lazy
    have hfound := fst_remove (view site) shard key lazy
    rw [hremove] at hkept hstats hfound
    refine ⟨?_, ⟨huntouched.tidy (h.1.remove hremove), ?_⟩, ?_, fun i k => ?_⟩
    · rw [show removed = _ from hfound]
      unfold Keyspace.record?
      rw [Option.isSome_map]
    · rw [huntouched.stats, hstats, h.2]
    · rw [hd.shards, hd.shards, huntouched.shards, hkept]
    · rw [huntouched.record?]
      exact h.1.record?_remove hremove i k

theorem picks (hd : Housed view d server clock) (stats : Stats) :
    d.Picks (Showing view stats) fun site => (view site).record? := by
  intro site h shard scope
  obtain ⟨hkey, huntouched⟩ := hd.randomKey shard scope site
  refine ⟨hd.steady h huntouched, fun key hsome => ?_⟩
  rw [hkey] at hsome
  rw [hd.contains]
  exact h.1.contains_of_randomKey hsome

end Housed

/-! ## A site with a server and a clock -/

namespace Site

theorem untouched_drain (ks : Keyspace) : Untouched ks ks.drain := by
  unfold Keyspace.drain
  split <;> exact ⟨rfl, rfl⟩

/-- A clock on which waiting changes nothing of a site but the time. -/
def Timepiece (clock : Clock Site) : Prop :=
  ∀ ms s, ∃ hands, clock.sleep ms s = { s with clock := hands }

/-- A site with its own server and clock houses its keyspace. -/
theorem housed_tracked {clock : Clock Site} (hclock : Timepiece clock) :
    Housed Site.keyspace dataset tracked clock where
  shards _ := rfl
  count _ := rfl
  stamp? _ := rfl
  contains _ := rfl
  sample shard scope n s := ⟨rfl, untouched_sample s.keyspace shard scope n⟩
  randomKey shard scope s := ⟨rfl, untouched_randomKey s.keyspace shard scope⟩
  delete _ _ _ := ⟨rfl, .refl _⟩
  deleteDeferred _ _ _ := ⟨rfl, .refl _⟩
  aside {s _} h := by
    cases h with
    | usedBytes => exact untouched_drain s.keyspace
    | sleep ms =>
      obtain ⟨hands, hsleep⟩ := hclock ms s
      rw [hsleep]
      exact .refl s.keyspace
    | pendingReleases =>
      obtain ⟨ks, server, clock⟩ := s
      exact .refl ks
    | _ => exact .refl s.keyspace

theorem timepiece_manual : Timepiece manual := fun _ _ => ⟨_, rfl⟩

theorem housed_manual : Housed Site.keyspace dataset tracked manual :=
  housed_tracked timepiece_manual

end Site

/-! ## The frame -/

open Deed

/-- What a check touched. The keys that the server was told of were deleted, each of them once and
while it was within the scope, and all else is as it was. -/
structure Framed (view : σ → Keyspace) (scope : Scope) (start final : σ) (deeds : List (Deed σ)) :
    Prop where
  records (shard : Nat) (key : Bytes) : (view final).record? shard key
    = if ⟨shard, key⟩ ∈ tellings deeds then none else (view start).record? shard key
  stats : (view final).stats = (view start).stats
  told : tellings deeds = removals deeds
  nodup : (tellings deeds).Nodup
  live (before : σ) (v : Victim) (removed : Bool) (hdeed : .deleted before v removed ∈ deeds) :
    removed = true ∧ (view before).contains v.shard scope v.key = true
  within (v : Victim) (hv : v ∈ tellings deeds) :
    ∃ x, (view start).record? v.shard v.key = some x ∧ x.within scope = true

theorem framed_of_traced (hd : Housed view d server clock) {start : σ} {r : Recorded σ}
    (h : Traced d (Showing view (view start).stats) (fun site => (view site).record?) scope start r)
    (htold : tellings r.deeds = removals r.deeds) : Framed view scope start r.site r.deeds where
  records := by rw [htold]; exact h.records
  stats := h.inside.2
  told := htold
  nodup := by rw [htold]; exact h.nodup
  live before v removed hdeed := by
    rw [← hd.contains]
    exact h.live before v removed hdeed
  within := by rw [htold]; exact h.within

/-- A check of a keyspace that succeeds takes out the keys that the server was told of, and touches
nothing else. Under a policy that spares keys without expiration, each of them was to expire; a
policy that never evicts takes out none, and neither does a check that may not evict. -/
theorem ensure_framed (hd : Housed view d server clock) {s : Scene σ}
    (hreachable : (view s.site).Reachable) :
    ∃ r, Evictor.ensure d server clock s = some r ∧ ∀ outcome, r.answer = .ok outcome →
      Framed view s.evictor.settings.policy.scope s.site r.scene.site
        (Evictor.ensureLedger d server clock s) ∧
      (s.evictor.settings.policy.isVolatile = true →
        ∀ v ∈ tellings (Evictor.ensureLedger d server clock s),
          ((view s.site).deadline? v.shard v.key).isSome = true) ∧
      (s.evictor.settings.policy.evicts = false ∨ s.evictor.mayEvict server s.site = false →
        tellings (Evictor.ensureLedger d server clock s) = []) := by
  obtain ⟨r, hr, htraced⟩ := Evictor.exists_ensure_traced (hd.catalogued (view s.site).stats)
    (hd.picks (view s.site).stats) (s := s) ⟨hreachable.sound.tidy, rfl⟩
  refine ⟨_, hr.ensure, fun outcome houtcome => ?_⟩
  rw [hr.ledger]
  have htold := hr.told houtcome
  have hframed := framed_of_traced hd htraced htold
  refine ⟨hframed, fun hvolatile v hv => ?_, fun hidle => htold.trans (hr.idle hidle)⟩
  obtain ⟨x, hx, hwithin⟩ := hframed.within v hv
  obtain ⟨entry, -, rfl⟩ := exists_entry_of_record hx
  rwa [Policy.scope, hvolatile] at hwithin

namespace Site

/-- An evictor of the least recently used keys under a limit of 40 bytes, at the keyspace with one
key. The candidate in its pool is a key that is not there. -/
def haunted : Scene Site where
  evictor :=
    { settings := { policy := .allKeysLru, maxMemory := 40 }
      budget := ⟨40⟩
      sampler := ⟨5⟩
      ranking := ⟨.allKeysLru, 1⟩
      pool := (Pool.empty.insert ⟨9, 0, ⟨#[120]⟩⟩).2
      cursor := 0
      stats := {} }
  site := crowded.site

theorem ready_haunted : Ready haunted where
  sound := ready_crowded.sound
  shards := ready_crowded.shards
  sync := ready_crowded.sync
  fits := ready_crowded.fits
  coherent := ⟨rfl, rfl, rfl, by decide, by decide⟩
  evicts := rfl
  bounded := by decide
  allowed := rfl

end Site

/-- The check of a keyspace above its budget, by an evictor whose pool is out of date. -/
theorem ensure_framed_haunted :
    (Housed Site.keyspace Site.dataset Site.tracked Site.manual ∧
      Site.haunted.site.keyspace.Reachable) ∧
    Site.haunted.evictor.settings.maxMemory < Site.haunted.site.keyspace.memory.bytes ∧
    ∃ r outcome, Evictor.ensure Site.dataset Site.tracked Site.manual Site.haunted = some r ∧
      r.answer = .ok outcome ∧
      Framed Site.keyspace .all Site.haunted.site r.scene.site
        (Evictor.ensureLedger Site.dataset Site.tracked Site.manual Site.haunted) := by
  have habove : Site.haunted.evictor.settings.maxMemory
      < Site.haunted.site.keyspace.memory.bytes := by
    show 40 < Site.lone.memory.bytes
    rw [Site.bytes_lone]
    decide
  obtain ⟨r, hr, hframed⟩ :=
    ensure_framed Site.housed_manual (s := Site.haunted) Site.reachable_lone
  obtain ⟨r', hr', -, hended⟩ := Site.ready_haunted.exists_ensure Site.manual
  obtain rfl : r'.map Recorded.site = r := Option.some.inj (hr'.symm.trans hr)
  refine ⟨⟨Site.housed_manual, Site.reachable_lone⟩, habove, ?_⟩
  rcases hended.answer with ⟨hanswer, -⟩ | ⟨hanswer, -⟩
  · exact ⟨_, _, hr, hanswer, (hframed _ hanswer).1⟩
  · exact ⟨_, _, hr, hanswer, (hframed _ hanswer).1⟩

end SampledEviction.Keyspace
