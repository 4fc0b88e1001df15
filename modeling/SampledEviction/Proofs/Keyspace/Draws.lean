import SampledEviction.Keyspace.Site
import SampledEviction.Proofs.Coherence
import SampledEviction.Proofs.Keyspace.Reachable
import SampledEviction.Proofs.Search

/-!
# Drawing from a keyspace

A draw changes nothing but the generator of a keyspace, and whatever the generator puts out, it
yields keys that are there, with all that a policy needs to rank them.

* `draws_site` — what draws yield
* `served_site` — they always yield something where there is something
-/

namespace SampledEviction

/-! ## Samples of a map -/

namespace DenseMap

variable {α β : Type} [BEq α] [Hashable α] {m : DenseMap α β}

/-- A sample of a map that is not empty has as many entries as asked for. -/
theorem length_sample (hsize : m.size ≠ 0) (n : Nat) (g : Xoshiro) :
    (m.sample n g).1.length = n := by
  induction n generalizing g with
  | zero => rfl
  | succ n ih =>
    obtain ⟨e, g', hdraw, -⟩ := exists_random hsize g
    unfold DenseMap.sample
    rw [hdraw]
    exact congrArg (· + 1) (ih g')

theorem mem_of_mem_sample {n : Nat} {g : Xoshiro} {e : α × β} (he : e ∈ (m.sample n g).1) :
    e ∈ m.toList := by
  induction n generalizing g with
  | zero => cases he
  | succ n ih =>
    unfold DenseMap.sample at he
    by_cases hsize : m.size = 0
    · rw [random_of_size_eq_zero hsize] at he
      cases he
    · obtain ⟨e', g', hdraw, hmem⟩ := exists_random hsize g
      rw [hdraw] at he
      rcases List.mem_cons.mp he with rfl | he
      · exact hmem
      · exact ih he

end DenseMap

namespace Keyspace

/-! ## Samples of a shard -/

namespace Shard

variable {s : Shard} {scope : Scope} {n : Nat} {g : Xoshiro}

/-- What a sample tells of a key: its stamp, or its deadline where only keys with one are
sampled. -/
theorem Sound.of_mem_sample (h : s.Sound) {visit : Bytes × Sampled}
    (hvisit : visit ∈ (s.sample scope n g).1) :
    (scope = .all ∧ ∃ entry, s.main.get? visit.1 = some entry ∧ visit.2 = .stamp entry.stamp) ∨
      (scope = .volatile ∧ ∃ t, s.deadlines.get? visit.1 = some t ∧ visit.2 = .deadline t) := by
  cases scope with
  | all =>
    obtain ⟨e, he, rfl⟩ := List.mem_map.mp hvisit
    exact Or.inl ⟨rfl, e.2, h.main.mem_toList_iff.mp (DenseMap.mem_of_mem_sample he), rfl⟩
  | volatile =>
    obtain ⟨e, he, rfl⟩ := List.mem_map.mp hvisit
    exact Or.inr ⟨rfl, e.2, h.deadlines.mem_toList_iff.mp (DenseMap.mem_of_mem_sample he), rfl⟩

theorem Sound.contains_of_mem_sample (h : s.Sound) {visit : Bytes × Sampled}
    (hvisit : visit ∈ (s.sample scope n g).1) : s.contains visit.1 scope = true := by
  rcases h.of_mem_sample hvisit with ⟨rfl, entry, hentry, -⟩ | ⟨rfl, t, ht, -⟩
  · exact h.main.contains_iff.mpr ⟨entry, hentry⟩
  · exact h.deadlines.contains_iff.mpr ⟨t, ht⟩

theorem length_sample (hcount : s.count scope ≠ 0) (n : Nat) (g : Xoshiro) :
    (s.sample scope n g).1.length = n := by
  cases scope with
  | all => exact (List.length_map ..).trans (DenseMap.length_sample hcount n g)
  | volatile => exact (List.length_map ..).trans (DenseMap.length_sample hcount n g)

theorem Sound.contains_of_randomKey (h : s.Sound) {key : Bytes}
    (hkey : (s.randomKey scope g).1 = some key) : s.contains key scope = true := by
  cases scope with
  | all =>
    by_cases hsize : s.main.size = 0
    · simp [Shard.randomKey, DenseMap.random_of_size_eq_zero hsize] at hkey
    · obtain ⟨e, g', hdraw, hmem⟩ := DenseMap.exists_random hsize g
      simp only [Shard.randomKey, hdraw, Option.map_some, Option.some.injEq] at hkey
      exact hkey ▸ h.main.contains_of_mem hmem
  | volatile =>
    by_cases hsize : s.deadlines.size = 0
    · simp [Shard.randomKey, DenseMap.random_of_size_eq_zero hsize] at hkey
    · obtain ⟨e, g', hdraw, hmem⟩ := DenseMap.exists_random hsize g
      simp only [Shard.randomKey, hdraw, Option.map_some, Option.some.injEq] at hkey
      exact hkey ▸ h.deadlines.contains_of_mem hmem

theorem randomKey_ne_none (hcount : s.count scope ≠ 0) (g : Xoshiro) :
    (s.randomKey scope g).1 ≠ none := by
  cases scope with
  | all =>
    obtain ⟨e, g', hdraw, -⟩ := DenseMap.exists_random (m := s.main) hcount g
    simp [Shard.randomKey, hdraw]
  | volatile =>
    obtain ⟨e, g', hdraw, -⟩ := DenseMap.exists_random (m := s.deadlines) hcount g
    simp [Shard.randomKey, hdraw]

end Shard

/-! ## Draws from a site -/

variable {ks : Keyspace} {shard : Nat} {scope : Scope} {key : Bytes}

theorem exists_shard_of_count (h : ks.count shard scope ≠ 0) :
    ∃ s, ks.shards[shard]? = some s ∧ s.count scope ≠ 0 := by
  unfold Keyspace.count at h
  cases hs : ks.shards[shard]? with
  | none => rw [hs] at h; exact absurd rfl h
  | some s => exact ⟨s, rfl, by rwa [hs] at h⟩

theorem contains_eq {s : Shard} (hs : ks.shards[shard]? = some s) (scope : Scope) (key : Bytes) :
    ks.contains shard scope key = s.contains key scope := by
  unfold Keyspace.contains
  rw [hs]
  rfl

theorem exists_shard_of_mem_sample {n : Nat} {visit : Bytes × Sampled}
    (hvisit : visit ∈ (ks.sample shard scope n).1) :
    ∃ s, ks.shards[shard]? = some s ∧ visit ∈ (s.sample scope n ks.random).1 := by
  unfold Keyspace.sample at hvisit
  cases hs : ks.shards[shard]? with
  | none => rw [hs] at hvisit; cases hvisit
  | some s => exact ⟨s, rfl, by rwa [hs] at hvisit⟩

theorem exists_shard_of_randomKey (hkey : (ks.randomKey shard scope).1 = some key) :
    ∃ s, ks.shards[shard]? = some s ∧ (s.randomKey scope ks.random).1 = some key := by
  unfold Keyspace.randomKey at hkey
  cases hs : ks.shards[shard]? with
  | none => rw [hs] at hkey; cases hkey
  | some s => exact ⟨s, rfl, by rwa [hs] at hkey⟩

namespace Site

/-- The site with another generator. -/
def redraw (s : Site) (random : Xoshiro) : Site :=
  { s with keyspace := { s.keyspace with random } }

/-- The sites that draws may lead to. -/
def Redrawn (s s' : Site) : Prop := ∃ random, s' = s.redraw random

variable {s : Site}

theorem sample_eq (s : Site) (shard : Nat) (scope : Scope) (n : Nat) :
    ∃ random, (dataset.sample shard scope n s).2 = s.redraw random ∧
      (dataset.sample shard scope n s).1
        = (s.keyspace.shards[shard]?.map fun t => (t.sample scope n s.keyspace.random).1).getD
          [] := by
  obtain ⟨ks, server, clock⟩ := s
  show ∃ random, (onKeyspace (Keyspace.sample shard scope n) _).2 = _ ∧
    (onKeyspace (Keyspace.sample shard scope n) _).1 = _
  unfold onKeyspace Keyspace.sample
  dsimp only
  cases ks.shards[shard]? with
  | none => exact ⟨ks.random, rfl, rfl⟩
  | some t => exact ⟨_, rfl, rfl⟩

theorem randomKey_eq (s : Site) (shard : Nat) (scope : Scope) :
    ∃ random, (dataset.randomKey shard scope s).2 = s.redraw random ∧
      (dataset.randomKey shard scope s).1
        = s.keyspace.shards[shard]?.bind fun t => (t.randomKey scope s.keyspace.random).1 := by
  obtain ⟨ks, server, clock⟩ := s
  show ∃ random, (onKeyspace (Keyspace.randomKey shard scope) _).2 = _ ∧
    (onKeyspace (Keyspace.randomKey shard scope) _).1 = _
  unfold onKeyspace Keyspace.randomKey
  dsimp only
  cases ks.shards[shard]? with
  | none => exact ⟨ks.random, rfl, rfl⟩
  | some t => exact ⟨_, rfl, rfl⟩

/-- Draws yield keys that are there, and leave everything but the generator as it is. -/
theorem draws_site (hs : s.keyspace.Sound) : dataset.Draws s.Redrawn where
  agree := by
    rintro _ _ ⟨random, rfl⟩ ⟨random', rfl⟩
    exact ⟨rfl, rfl, rfl⟩
  sample := by
    rintro _ ⟨random, rfl⟩ shard scope n
    obtain ⟨random', hsite, -⟩ := sample_eq (s.redraw random) shard scope n
    refine ⟨⟨random', hsite⟩, fun visit hvisit => ?_⟩
    obtain ⟨t, ht, hvisit⟩ :=
      @exists_shard_of_mem_sample (s.redraw random).keyspace shard scope n visit hvisit
    exact (contains_eq ht scope visit.1).trans ((hs.shard ht).contains_of_mem_sample hvisit)
  randomKey := by
    rintro _ ⟨random, rfl⟩ shard scope
    obtain ⟨random', hsite, -⟩ := randomKey_eq (s.redraw random) shard scope
    refine ⟨⟨random', hsite⟩, fun key hsome => ?_⟩
    obtain ⟨t, ht, hdrawn⟩ :=
      @exists_shard_of_randomKey (s.redraw random).keyspace shard scope key hsome
    exact (contains_eq ht scope key).trans ((hs.shard ht).contains_of_randomKey hdrawn)

/-- A sampled key can be ranked by any policy that ranks the keys of its scope. -/
theorem isSome_candidate? (hs : s.keyspace.Sound) {e : Evictor} (he : e.Coherent)
    (hpool : e.settings.policy.usesPool = true) {t : Shard}
    (ht : s.keyspace.shards[shard]? = some t) {n : Nat} {g : Xoshiro} {visit : Bytes × Sampled}
    (hvisit : visit ∈ (t.sample e.settings.policy.scope n g).1) (now : Moment) :
    (Sampler.candidate? dataset s e.ranking shard e.settings.policy.scope now visit).isSome := by
  have hsound := hs.shard ht
  have hpolicy : e.ranking.policy = e.settings.policy := by rw [he.ranking]
  obtain ⟨key, sampled⟩ := visit
  rcases hsound.of_mem_sample hvisit with ⟨hscope, entry, -, rfl⟩ | ⟨hscope, second, hsecond, rfl⟩
  · -- among all keys only stamps are ranked
    refine Sampler.isSome_candidate? rfl ?_
    exact Ranking.isSome_rank?_stamp (hpolicy ▸ Policy.lru_or_lfu_of_all hscope hpool) _ now
  · cases httl : e.settings.policy.isTtl with
    | true =>
      refine Sampler.isSome_candidate? (if_neg fun hother => ?_) ?_
      · rw [hpolicy, httl] at hother
        cases hother.2
      · unfold Ranking.rank?
        dsimp only
        rw [hpolicy, if_pos httl]
        rfl
    | false =>
      -- the stamp of a key that expires is looked up, and is there since the key is
      have hthere : t.contains key .volatile = true :=
        hsound.deadlines.contains_iff.mpr ⟨second, hsecond⟩
      obtain ⟨entry, hentry⟩ := hsound.contains_main hthere
      have hstamp : dataset.stamp? s shard key = some entry.stamp := by
        show (s.keyspace.entry? shard key).map (·.stamp) = _
        rw [entry?_eq ht, hentry]
        rfl
      refine Sampler.isSome_candidate? (x := .stamp entry.stamp) ?_ ?_
      · unfold Sampler.resolve?
        rw [if_pos ⟨hscope, hpolicy ▸ httl⟩, hstamp]
        rfl
      · exact Ranking.isSome_rank?_stamp (hpolicy ▸ Policy.lru_or_lfu_of_not_ttl httl hpool) _ now

/-- An evictor always finds something to rank or to pick where there is a key. -/
theorem served_site (hs : s.keyspace.Sound) {e : Evictor} (he : e.Coherent) :
    e.Served dataset s.Redrawn where
  candidates := by
    rintro _ ⟨random, rfl⟩ shard hcount hpool now
    obtain ⟨t, ht, hsome⟩ := exists_shard_of_count hcount
    obtain ⟨random', hsite, hvisits⟩ :=
      sample_eq (s.redraw random) shard e.settings.policy.scope e.sampler.samples
    rw [ht, Option.map_some, Option.getD_some] at hvisits
    unfold Evictor.candidates
    dsimp only
    rw [hsite, hvisits]
    have hsamples : 0 < e.sampler.samples := by
      rw [he.sampler]
      exact he.one_le
    have hlength := Shard.length_sample hsome e.sampler.samples random
    obtain ⟨visit, hvisit⟩ :=
      List.exists_mem_of_length_pos (Nat.lt_of_lt_of_eq hsamples hlength.symm)
    obtain ⟨c, hc⟩ := Option.isSome_iff_exists.mp
      (isSome_candidate? (s := s.redraw random') (hs.congr rfl rfl rfl) he hpool ht hvisit now)
    exact List.ne_nil_of_mem (List.mem_filterMap.mpr ⟨visit, hvisit, hc⟩)
  randomKey := by
    rintro _ ⟨random, rfl⟩ shard hcount
    obtain ⟨t, ht, hsome⟩ := exists_shard_of_count hcount
    obtain ⟨random', -, hkey⟩ :=
      randomKey_eq (s.redraw random) shard e.settings.policy.scope
    rw [hkey, ht, Option.bind_some]
    exact Shard.randomKey_ne_none hsome _

end Site

end Keyspace

end SampledEviction
