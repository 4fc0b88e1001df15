import SampledEviction.Proofs.Keyspace.Accounting

/-!
# Reading after writing

What a keyspace shows of its keys after one of them was set or removed. Another key keeps all that
it had, also where the tables moved its entry to fill a gap.

* `entry?_set`, `deadline?_set` — a key that was set has its value and its deadline
* `entry?_remove`, `deadline?_remove` — a key that was removed is gone, and no other is
* `fst_remove` — a removal tells whether the key was there
-/

namespace SampledEviction.Keyspace

variable {ks ks' : Keyspace} {shard : Nat} {key : Bytes} {entry : Entry} {s : Shard}

/-! ## Changing one shard -/

theorem getElem?_shards_write (hs : ks.shards[shard]? = some s) (f : Shard → Shard)
    (memory : Counter) (reclaimer : Option Reclaimer) (i : Nat) :
    (ks.write shard f memory reclaimer).shards[i]?
      = if shard = i then some (f s) else ks.shards[i]? := by
  unfold write
  rw [Array.getElem?_modify]
  split
  · rename_i hi
    rw [← hi, hs, Option.map_some]
  · rfl

theorem entry?_write (hs : ks.shards[shard]? = some s) (f : Shard → Shard) (memory : Counter)
    (reclaimer : Option Reclaimer) (i : Nat) (key : Bytes) :
    Keyspace.entry? (ks.write shard f memory reclaimer) i key
      = if shard = i then (f s).main.get? key else ks.entry? i key := by
  unfold Keyspace.entry?
  rw [getElem?_shards_write hs]
  split <;> rfl

theorem deadline?_write (hs : ks.shards[shard]? = some s) (f : Shard → Shard) (memory : Counter)
    (reclaimer : Option Reclaimer) (i : Nat) (key : Bytes) :
    (ks.write shard f memory reclaimer).deadline? i key
      = if shard = i then (f s).deadlines.get? key else ks.deadline? i key := by
  unfold deadline?
  rw [getElem?_shards_write hs]
  split <;> rfl

/-! ## Setting -/

variable {value : Bytes} {ttl : Option Duration} {now : Moment}

/-- A key is set in its shard, whatever becomes of the counter. -/
theorem exists_set_write (hset : ks.set shard key value ttl now = .ok ks') :
    ∃ s memory, ks.shards[shard]? = some s ∧
      ks' = ks.write shard (·.put key ⟨value, ks.tracker.created now⟩
        (ttl.map (deadlineAfter now))) memory ks.reclaimer := by
  unfold Keyspace.set at hset
  split at hset
  · rename_i hlt
    cases hset
    exact ⟨_, _, Array.getElem?_eq_getElem hlt, rfl⟩
  · cases hset

/-- A key that was set has its value. -/
theorem entry?_set (h : ks.Tidy) (hset : ks.set shard key value ttl now = .ok ks') :
    ks'.entry? shard key = some ⟨value, ks.tracker.created now⟩ := by
  obtain ⟨s, memory, hs, rfl⟩ := exists_set_write hset
  rw [entry?_write hs, if_pos rfl]
  exact (DenseMap.get?_insert (h.shard hs).main ..).trans (if_pos (beq_self_eq_true key))

/-- A key that was set expires as it was told to. -/
theorem deadline?_set (h : ks.Tidy) (hset : ks.set shard key value ttl now = .ok ks') :
    ks'.deadline? shard key = ttl.map (deadlineAfter now) := by
  obtain ⟨s, memory, hs, rfl⟩ := exists_set_write hset
  rw [deadline?_write hs, if_pos rfl]
  unfold Shard.put
  cases ttl.map (deadlineAfter now) with
  | none =>
    exact (DenseMap.get?_erase (h.shard hs).deadlines ..).trans (if_pos (beq_self_eq_true key))
  | some t =>
    exact (DenseMap.get?_insert (h.shard hs).deadlines ..).trans (if_pos (beq_self_eq_true key))

/-! ## Removing -/

/-- A removal takes a key out of its shard, whatever becomes of the counter. -/
theorem exists_remove_write (hentry : ks.entry? shard key = some entry) (deferred : Bool) :
    ∃ memory reclaimer, ks.remove shard key deferred
      = (true, ks.write shard (·.erase key) memory reclaimer) := by
  rcases remove_of_some hentry deferred with hremove | ⟨r, -, hremove⟩
  · exact ⟨_, _, hremove⟩
  · exact ⟨_, _, hremove⟩

/-- A removal tells whether the key was there. -/
theorem fst_remove (ks : Keyspace) (shard : Nat) (key : Bytes) (deferred : Bool) :
    (ks.remove shard key deferred).1 = (ks.entry? shard key).isSome := by
  cases hentry : ks.entry? shard key with
  | none => rw [remove_of_none hentry, Option.isSome_none]
  | some entry =>
    obtain ⟨memory, reclaimer, hremove⟩ := exists_remove_write hentry deferred
    rw [hremove, Option.isSome_some]

/-- A removal is no read, and counts as none. -/
theorem stats_remove (ks : Keyspace) (shard : Nat) (key : Bytes) (deferred : Bool) :
    (ks.remove shard key deferred).2.stats = ks.stats := by
  cases hentry : ks.entry? shard key with
  | none => rw [remove_of_none hentry]
  | some entry =>
    obtain ⟨memory, reclaimer, hremove⟩ := exists_remove_write hentry deferred
    rw [hremove]
    rfl

theorem getElem?_shards_remove (h : ks.Tidy) (shard : Nat) (key : Bytes) (deferred : Bool)
    (i : Nat) : (ks.remove shard key deferred).2.shards[i]?
      = if shard = i then ks.shards[i]?.map (·.erase key) else ks.shards[i]? := by
  cases hentry : ks.entry? shard key with
  | none =>
    rw [remove_of_none hentry]
    split
    · rename_i hi
      subst hi
      cases hs : ks.shards[shard]? with
      | none => rfl
      | some s =>
        -- nothing is erased where nothing is
        rw [entry?_eq hs] at hentry
        rw [Option.map_some, (h.shard hs).erase_of_get?_none hentry]
    · rfl
  | some entry =>
    obtain ⟨s, hs, -⟩ := exists_shard_of_entry hentry
    obtain ⟨memory, reclaimer, hremove⟩ := exists_remove_write hentry deferred
    rw [hremove, getElem?_shards_write hs]
    split
    · rename_i hi
      rw [← hi, hs, Option.map_some]
    · rfl

variable {deferred removed : Bool}

/-- A key that was removed is gone, and no other is. -/
theorem entry?_remove (h : ks.Tidy) (hremove : ks.remove shard key deferred = (removed, ks'))
    (i : Nat) (k : Bytes) :
    ks'.entry? i k = if shard = i ∧ key = k then none else ks.entry? i k := by
  have hshards := getElem?_shards_remove h shard key deferred i
  rw [hremove] at hshards
  unfold Keyspace.entry?
  rw [hshards]
  by_cases hi : shard = i
  · cases hs : ks.shards[i]? with
    | none => simp [hi]
    | some s => simp [hi, Shard.erase, DenseMap.get?_erase (h.shard hs).main]
  · simp [hi]

/-- A key that was removed has no deadline, and any other keeps its own. -/
theorem deadline?_remove (h : ks.Tidy) (hremove : ks.remove shard key deferred = (removed, ks'))
    (i : Nat) (k : Bytes) :
    ks'.deadline? i k = if shard = i ∧ key = k then none else ks.deadline? i k := by
  have hshards := getElem?_shards_remove h shard key deferred i
  rw [hremove] at hshards
  unfold deadline?
  rw [hshards]
  by_cases hi : shard = i
  · cases hs : ks.shards[i]? with
    | none => simp [hi]
    | some s => simp [hi, Shard.erase, DenseMap.get?_erase (h.shard hs).deadlines]
  · simp [hi]

end SampledEviction.Keyspace
