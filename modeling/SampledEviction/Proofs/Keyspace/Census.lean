import Mathlib.Data.List.Nodup
import SampledEviction.Proofs.Keyspace.Frame

/-!
# Counting keys

A keyspace counts its keys by the sizes of its tables. That number is the number of keys that it
has, so it follows from what becomes of the keys and needs no look at the tables.

* `Tidy.exists_census` — a list of all keys within a scope, as long as the keyspace says
* `Tidy.total_add` — a keyspace that lost some keys counts so many fewer
-/

namespace SampledEviction.Keyspace

variable {ks ks' : Keyspace}

theorem total_eq_tally (ks : Keyspace) (scope : Scope) :
    ks.total scope = tally (ks.count · scope) (List.range ks.shards.size) :=
  (tally_range ks.shards).symm

/-- All keys within a scope can be listed, and there are as many as the keyspace says. -/
theorem Tidy.exists_census (h : ks.Tidy) (scope : Scope) :
    ∃ vs : List Victim, vs.Nodup ∧ vs.length = ks.total scope ∧
      ∀ v : Victim, v ∈ vs ↔ ks.contains v.shard scope v.key = true := by
  choose keys hnodup hlength hmem using fun shard => h.exists_keys shard scope
  refine ⟨(List.range ks.shards.size).flatMap fun i => (keys i).map (Victim.mk i), ?_, ?_, ?_⟩
  · rw [List.nodup_flatMap]
    constructor
    · intro i _
      refine (hnodup i).map ?_
      intro k k' hsame
      exact (Victim.mk.inj hsame).2
    · refine List.pairwise_lt_range.imp ?_
      intro i j hlt
      -- keys of different shards differ
      refine List.disjoint_left.mpr ?_
      intro v hv hv'
      obtain ⟨k, -, rfl⟩ := List.mem_map.mp hv
      obtain ⟨k', -, heq⟩ := List.mem_map.mp hv'
      exact Nat.ne_of_gt hlt (Victim.mk.inj heq).1
  · rw [length_flatMap, total_eq_tally]
    refine tally_congr ?_
    intro i _
    rw [List.length_map, hlength]
  · intro v
    simp only [List.mem_flatMap, List.mem_range, List.mem_map]
    constructor
    · rintro ⟨i, -, k, hk, rfl⟩
      exact (hmem i k).mp hk
    · intro hv
      obtain ⟨s, hs, -⟩ := exists_shard_of_contains hv
      exact ⟨v.shard, (Array.getElem?_eq_some_iff.mp hs).1, v.key, (hmem v.shard v.key).mpr hv, rfl⟩

/-- A keyspace that lost some keys counts so many fewer. -/
theorem Tidy.total_add (h : ks.Tidy) (h' : ks'.Tidy) {scope : Scope} {gone : List Victim}
    (hnodup : gone.Nodup) (hgone : ∀ v ∈ gone, ks'.contains v.shard scope v.key = false)
    (hkeys : ∀ v : Victim, ks.contains v.shard scope v.key = true ↔
      v ∈ gone ∨ ks'.contains v.shard scope v.key = true) :
    ks'.total scope + gone.length = ks.total scope := by
  obtain ⟨vs, hvs, hlength, hmem⟩ := h.exists_census scope
  obtain ⟨vs', hvs', hlength', hmem'⟩ := h'.exists_census scope
  have hdisjoint : (vs' ++ gone).Nodup := by
    refine List.Nodup.append hvs' hnodup (List.disjoint_left.mpr ?_)
    intro v hv hv'
    have hleft := (hmem' v).mp hv
    rw [hgone v hv'] at hleft
    cases hleft
  have hperm : (vs' ++ gone).Perm vs := by
    rw [List.perm_ext_iff_of_nodup hdisjoint hvs]
    intro v
    rw [List.mem_append, hmem, hmem', hkeys, or_comm]
  rw [← hlength, ← hlength', ← List.length_append]
  exact hperm.length_eq

end SampledEviction.Keyspace
