import SampledEviction.Proofs.Keyspace.Census

/-!
# What an operation rewrites

Every operation of a keyspace rewrites the record of one key and leaves all others as they are,
also where the tables move an entry to fill a gap. What an operation answers is read off that
record.

* `Rewritten` — one record is rewritten
* `Tidy.exists_set`, `Tidy.read`, `Tidy.expire`, `Tidy.persist` — what the operations rewrite
* `Rewritten.total_lost`, `Rewritten.total_gained` — how the number of keys follows
-/

namespace SampledEviction.Keyspace

variable {ks ks' : Keyspace} {shard : Nat} {key : Bytes} {now : Moment}

/-! ## Records of a shard -/

namespace Shard

variable {s : Shard}

/-- What a shard holds of a key. -/
def record? (s : Shard) (key : Bytes) : Option (Record Bytes) :=
  (s.main.get? key).map fun e => ⟨e.value, e.stamp, s.deadlines.get? key⟩

theorem record?_put (h : s.Sound) (key : Bytes) (entry : Entry) (deadline : Option Nat)
    (k : Bytes) : (s.put key entry deadline).record? k
      = if key = k then some ⟨entry.value, entry.stamp, deadline⟩ else s.record? k := by
  unfold record? Shard.put
  rw [DenseMap.get?_insert h.main]
  by_cases hk : key = k
  · subst hk
    cases deadline with
    | none => simp [DenseMap.get?_erase h.deadlines]
    | some t => simp [DenseMap.get?_insert h.deadlines]
  · cases deadline with
    | none => simp [hk, DenseMap.get?_erase h.deadlines]
    | some t => simp [hk, DenseMap.get?_insert h.deadlines]

theorem record?_setDeadline (h : s.Sound) (key : Bytes) (t : Nat) (k : Bytes) :
    (s.setDeadline key t).record? k
      = if key = k then (s.record? k).map ({ · with deadline := some t }) else s.record? k := by
  unfold record? setDeadline
  rw [DenseMap.get?_insert h.deadlines]
  by_cases hk : key = k
  · simp [hk, Function.comp_def]
  · simp [hk]

theorem record?_eraseDeadline (h : s.Sound) (key : Bytes) (k : Bytes) :
    (s.eraseDeadline key).record? k
      = if key = k then (s.record? k).map ({ · with deadline := none }) else s.record? k := by
  unfold record? eraseDeadline
  rw [DenseMap.get?_erase h.deadlines]
  by_cases hk : key = k
  · simp [hk, Function.comp_def]
  · simp [hk]

theorem record?_setEntry (h : s.Sound) (key : Bytes) (entry : Entry) (k : Bytes) :
    (s.setEntry key entry).record? k
      = if key = k then some ⟨entry.value, entry.stamp, s.deadlines.get? k⟩
        else s.record? k := by
  unfold record? setEntry
  rw [DenseMap.get?_insert h.main]
  by_cases hk : key = k
  · simp [hk]
  · simp [hk]

/-- The shard with another stamp for a key. -/
def restamp (s : Shard) (key : Bytes) (stamp : AccessStamp) : Shard :=
  { s with main := s.main.modify key fun e => { e with stamp } }

theorem Sound.restamp_eq (h : s.Sound) {entry : Entry} (hkey : s.main.get? key = some entry)
    (stamp : AccessStamp) : s.restamp key stamp = s.setEntry key { entry with stamp } := by
  unfold restamp Shard.setEntry
  rw [DenseMap.modify_eq_insert h.main hkey]

theorem record?_restamp (h : s.Sound) {entry : Entry} (hkey : s.main.get? key = some entry)
    (stamp : AccessStamp) (k : Bytes) : (s.restamp key stamp).record? k
      = if key = k then (s.record? k).map ({ · with stamp }) else s.record? k := by
  rw [h.restamp_eq hkey, record?_setEntry h]
  by_cases hk : key = k
  · subst hk
    simp [record?, hkey]
  · rw [if_neg hk, if_neg hk]

end Shard

/-! ## One record is rewritten -/

/-- The record of one key is what `g` makes of it, and all others are as they were. -/
structure Rewritten (ks ks' : Keyspace) (shard : Nat) (key : Bytes)
    (g : Option (Record Bytes) → Option (Record Bytes)) : Prop where
  tidy : ks'.Tidy
  size : ks'.shards.size = ks.shards.size
  record (i : Nat) (k : Bytes) :
    ks'.record? i k = if shard = i ∧ key = k then g (ks.record? i k) else ks.record? i k

variable {g : Option (Record Bytes) → Option (Record Bytes)} {s : Shard}

theorem Rewritten.self (h : Rewritten ks ks' shard key g) :
    ks'.record? shard key = g (ks.record? shard key) := by
  rw [h.record, if_pos ⟨rfl, rfl⟩]

theorem Rewritten.other (h : Rewritten ks ks' shard key g) {i : Nat} {k : Bytes}
    (hne : ¬ (shard = i ∧ key = k)) : ks'.record? i k = ks.record? i k := by
  rw [h.record, if_neg hne]

/-- A keyspace with other shards in the same places. -/
theorem Rewritten.congr {ks'' : Keyspace} (h : Rewritten ks ks' shard key g)
    (hshards : ks''.shards = ks'.shards) : Rewritten ks ks'' shard key g where
  tidy := h.tidy.congr hshards
  size := by rw [hshards, h.size]
  record i k := by rw [record?_congr hshards, h.record]

/-- Nothing is rewritten. -/
theorem Tidy.rewritten_id (h : ks.Tidy) (hg : g (ks.record? shard key) = ks.record? shard key) :
    Rewritten ks ks shard key g where
  tidy := h
  size := rfl
  record i k := by
    split
    · rename_i hsame
      obtain ⟨rfl, rfl⟩ := hsame
      exact hg.symm
    · rfl

/-- A change of one shard that rewrites a record there. -/
theorem Tidy.rewritten_write (h : ks.Tidy) (hs : ks.shards[shard]? = some s) {f : Shard → Shard}
    (hf : (f s).Sound)
    (hg : ∀ k, (f s).record? k = if key = k then g (s.record? k) else s.record? k)
    (memory : Counter) (reclaimer : Option Reclaimer) :
    Rewritten ks (ks.write shard f memory reclaimer) shard key g where
  tidy := by
    constructor
    intro i t ht
    rw [getElem?_shards_write hs] at ht
    split at ht
    · cases ht
      exact hf
    · exact h.shard ht
  size := Array.size_modify
  record i k := by
    by_cases hi : shard = i
    · subst hi
      have hnew : (ks.write shard f memory reclaimer).shards[shard]? = some (f s) := by
        rw [getElem?_shards_write hs, if_pos rfl]
      have hnew' : (ks.write shard f memory reclaimer).record? shard k = (f s).record? k :=
        record?_eq hnew k
      have hold : ks.record? shard k = s.record? k := record?_eq hs k
      rw [hnew', hg, hold]
      simp
    · have hsame : (ks.write shard f memory reclaimer).record? i k = ks.record? i k := by
        unfold record?
        rw [entry?_write hs, deadline?_write hs, if_neg hi, if_neg hi]
      rw [hsame, if_neg fun hboth => hi hboth.1]

/-! ## Operations -/

/-- A key expires only if it is there. -/
theorem Tidy.deadline?_eq (h : ks.Tidy) (shard : Nat) (key : Bytes) :
    ks.deadline? shard key = (ks.record? shard key).bind (·.deadline) := by
  cases hs : ks.shards[shard]? with
  | none => simp [record?, Keyspace.entry?, deadline?, hs]
  | some s =>
    have hsound := h.shard hs
    rw [record?_eq hs, deadline?, hs, Option.bind_some]
    cases hentry : s.main.get? key with
    | some entry => rfl
    | none =>
      cases hdeadline : s.deadlines.get? key with
      | none => rfl
      | some t =>
        have hmain := hsound.subset key (hsound.deadlines.contains_iff.mpr ⟨t, hdeadline⟩)
        rw [hsound.main.contains_eq, hentry] at hmain
        cases hmain

/-- A key is there if it has a record. -/
theorem Tidy.contains_all (h : ks.Tidy) (shard : Nat) (key : Bytes) :
    ks.contains shard .all key = (ks.record? shard key).isSome := by
  rw [h.contains_eq_any]
  cases ks.record? shard key <;> rfl

theorem Tidy.exists_set (h : ks.Tidy) (hshard : shard < ks.shards.size) (key value : Bytes)
    (ttl : Option Duration) (now : Moment) :
    ∃ ks', ks.set shard key value ttl now = .ok ks' ∧ ks'.stats = ks.stats ∧
      Rewritten ks ks' shard key fun _ =>
        some ⟨value, ks.tracker.created now, ttl.map (deadlineAfter now)⟩ := by
  have hset : ∃ ks', ks.set shard key value ttl now = .ok ks' := by
    unfold Keyspace.set
    rw [if_pos hshard]
    exact ⟨_, rfl⟩
  obtain ⟨ks', hset⟩ := hset
  obtain ⟨s, memory, hs, rfl⟩ := exists_set_write hset
  have hsound := h.shard hs
  have hrewritten := h.rewritten_write
    (f := (·.put key ⟨value, ks.tracker.created now⟩ (ttl.map (deadlineAfter now))))
    (g := fun _ => some ⟨value, ks.tracker.created now, ttl.map (deadlineAfter now)⟩) hs
    (hsound.put _ _ _) (Shard.record?_put hsound key _ _) memory ks.reclaimer
  exact ⟨_, hset, rfl, hrewritten⟩

theorem Tidy.rewritten_remove (h : ks.Tidy) (shard : Nat) (key : Bytes) (deferred : Bool) :
    Rewritten ks (ks.remove shard key deferred).2 shard key fun _ => none where
  tidy := h.remove rfl
  size := size_shards_remove ks shard key deferred
  record i k := h.record?_remove rfl i k

/-- A removal tells whether the key has a record. -/
theorem fst_remove_eq (ks : Keyspace) (shard : Nat) (key : Bytes) (deferred : Bool) :
    (ks.remove shard key deferred).1 = (ks.record? shard key).isSome := by
  rw [fst_remove]
  exact Option.isSome_map.symm

/-- A key that is found gets another stamp. -/
theorem Tidy.touch (h : ks.Tidy) {entry : Entry} (hentry : ks.entry? shard key = some entry)
    (stamp : AccessStamp) (now : Moment) : Rewritten ks (ks.touch shard key stamp now) shard key
      (Option.map ({ · with stamp := (ks.tracker.accessed stamp now).1 })) := by
  obtain ⟨s, hs, hkey⟩ := exists_shard_of_entry hentry
  have hsound := h.shard hs
  have hrestamped : (s.restamp key (ks.tracker.accessed stamp now).1).Sound := by
    rw [hsound.restamp_eq hkey]
    exact hsound.setEntry _ _
  have hwritten := h.rewritten_write (f := (·.restamp key (ks.tracker.accessed stamp now).1)) hs
    hrestamped (Shard.record?_restamp hsound hkey _) ks.memory ks.reclaimer
  exact hwritten.congr rfl

/-- What a read comes to, by the record of the key. -/
inductive Read (ks : Keyspace) (shard : Nat) (key : Bytes) (now : Moment) :
    Option Bytes × Keyspace → Prop where
  | expired {x : Record Bytes} {ks' : Keyspace} (hx : ks.record? shard key = some x)
    (hdue : x.deadline.any (· ≤ now.seconds) = true)
    (hrewritten : Rewritten ks ks' shard key fun _ => none)
    (hstats : ks'.stats = { ks.stats with
      misses := ks.stats.misses + 1, expired := ks.stats.expired + 1 }) :
    Read ks shard key now (none, ks')
  | absent {ks' : Keyspace} (hx : ks.record? shard key = none)
    (hrewritten : Rewritten ks ks' shard key id)
    (hstats : ks'.stats = { ks.stats with misses := ks.stats.misses + 1 }) :
    Read ks shard key now (none, ks')
  | hit {x : Record Bytes} {stamp : AccessStamp} {ks' : Keyspace}
    (hx : ks.record? shard key = some x)
    (hlive : x.deadline.any (· ≤ now.seconds) = false)
    (hrewritten : Rewritten ks ks' shard key (Option.map ({ · with stamp })))
    (hstats : ks'.stats = { ks.stats with hits := ks.stats.hits + 1 }) :
    Read ks shard key now (some x.value, ks')

theorem Tidy.read (h : ks.Tidy) (shard : Nat) (key : Bytes) (now : Moment) :
    Read ks shard key now (ks.get shard key now) := by
  have hexpired : ks.isExpired shard key now
      = (ks.record? shard key).any fun x => x.deadline.any (· ≤ now.seconds) := by
    unfold isExpired
    rw [h.deadline?_eq]
    cases ks.record? shard key <;> rfl
  unfold Keyspace.get
  cases hx : ks.record? shard key with
  | none =>
    have hentry : ks.entry? shard key = none := Option.map_eq_none_iff.mp hx
    rw [hexpired, hx, Option.any_none, if_neg Bool.false_ne_true, hentry]
    exact .absent hx ((h.rewritten_id rfl).congr rfl) rfl
  | some x =>
    obtain ⟨entry, hentry, rfl⟩ := exists_entry_of_record hx
    rw [hexpired, hx, Option.any_some]
    by_cases hdue : (ks.deadline? shard key).any (· ≤ now.seconds) = true
    · rw [if_pos hdue]
      refine .expired hx hdue ((h.rewritten_remove shard key false).congr rfl) ?_
      have hstats := stats_remove ks shard key false
      unfold recordMiss recordExpired
      rw [hstats]
    · rw [if_neg hdue, hentry]
      exact .hit hx (Bool.eq_false_iff.mpr hdue) (h.touch hentry entry.stamp now) rfl

/-- A key that is there gets another deadline. -/
theorem Tidy.expire (h : ks.Tidy) (shard : Nat) (key : Bytes) (ttl : Duration) (now : Moment) :
    (ks.expire shard key ttl now).1 = (ks.record? shard key).isSome ∧
      (ks.expire shard key ttl now).2.stats = ks.stats ∧
      Rewritten ks (ks.expire shard key ttl now).2 shard key
        (Option.map ({ · with deadline := some (deadlineAfter now ttl) })) := by
  have hcontains := h.contains_all shard key
  unfold Keyspace.expire
  by_cases hkey : ks.contains shard .all key = true
  · rw [if_pos hkey]
    obtain ⟨s, hs, hmain⟩ := exists_shard_of_contains hkey
    have hsound := h.shard hs
    refine ⟨by rw [← hcontains, hkey], rfl, ?_⟩
    exact h.rewritten_write (f := (·.setDeadline key (deadlineAfter now ttl))) hs
      (hsound.setDeadline hmain _) (Shard.record?_setDeadline hsound key _) _ ks.reclaimer
  · rw [if_neg hkey]
    have hnone : ks.record? shard key = none := by
      rw [hcontains] at hkey
      exact Option.not_isSome_iff_eq_none.mp hkey
    exact ⟨by rw [hnone]; rfl, rfl, h.rewritten_id (by rw [hnone]; rfl)⟩

/-- A key that is to expire loses its deadline. -/
theorem Tidy.persist (h : ks.Tidy) (shard : Nat) (key : Bytes) :
    (ks.persist shard key).1 = (ks.record? shard key).any (·.deadline.isSome) ∧
      (ks.persist shard key).2.stats = ks.stats ∧
      Rewritten ks (ks.persist shard key).2 shard key
        (Option.map ({ · with deadline := none })) := by
  have hdeadline := h.deadline?_eq shard key
  have hvolatile : (ks.deadline? shard key).isSome
      = (ks.record? shard key).any (·.deadline.isSome) := by
    rw [hdeadline]
    cases ks.record? shard key <;> rfl
  unfold Keyspace.persist
  by_cases hkey : (ks.deadline? shard key).isSome = true
  · rw [if_pos hkey]
    obtain ⟨t, ht⟩ := Option.isSome_iff_exists.mp hkey
    obtain ⟨s, hs, -⟩ := Option.bind_eq_some_iff.mp ht
    have hsound := h.shard hs
    refine ⟨by rw [← hvolatile, hkey], rfl, ?_⟩
    exact h.rewritten_write (f := (·.eraseDeadline key)) hs (hsound.eraseDeadline key)
      (Shard.record?_eraseDeadline hsound key) _ ks.reclaimer
  · rw [if_neg hkey]
    refine ⟨by rw [← hvolatile, Bool.eq_false_iff.mpr hkey], rfl, h.rewritten_id ?_⟩
    -- a record without a deadline is as it was
    rw [hvolatile] at hkey
    cases hx : ks.record? shard key with
    | none => rfl
    | some x =>
      rw [hx, Option.any_some, Option.not_isSome_iff_eq_none] at hkey
      rw [Option.map_some, ← hkey]

/-! ## Counting -/

/-- A key that is lost is counted no more. -/
theorem Rewritten.total_lost (hr : Rewritten ks ks' shard key g) (h : ks.Tidy)
    (hbefore : (ks.record? shard key).isSome = true) (hafter : ks'.record? shard key = none) :
    ks'.total .all + 1 = ks.total .all := by
  refine h.total_add hr.tidy (List.nodup_singleton (⟨shard, key⟩ : Victim)) ?_ ?_
  · intro v hv
    obtain rfl := List.mem_singleton.mp hv
    rw [hr.tidy.contains_all, hafter]
    rfl
  · intro v
    rw [h.contains_all, hr.tidy.contains_all, List.mem_singleton]
    by_cases hsame : shard = v.shard ∧ key = v.key
    · obtain ⟨rfl, rfl⟩ := hsame
      exact iff_of_true hbefore (Or.inl rfl)
    · have hne : v ≠ ⟨shard, key⟩ := by
        rintro rfl
        exact hsame ⟨rfl, rfl⟩
      rw [hr.other hsame, or_iff_right hne]

/-- A key that keeps its record is counted as before. -/
theorem Rewritten.total_kept (hr : Rewritten ks ks' shard key g) (h : ks.Tidy)
    (hkept : (ks'.record? shard key).isSome = (ks.record? shard key).isSome) :
    ks'.total .all = ks.total .all := by
  refine h.total_add hr.tidy List.nodup_nil (fun v hv => absurd hv List.not_mem_nil) ?_
  intro v
  rw [h.contains_all, hr.tidy.contains_all, or_iff_right List.not_mem_nil]
  by_cases hsame : shard = v.shard ∧ key = v.key
  · obtain ⟨rfl, rfl⟩ := hsame
    rw [hkept]
  · rw [hr.other hsame]

/-- The change that is taken back. -/
theorem Rewritten.symm (hr : Rewritten ks ks' shard key g) (h : ks.Tidy) :
    Rewritten ks' ks shard key fun _ => ks.record? shard key where
  tidy := h
  size := hr.size.symm
  record i k := by
    split
    · rename_i hsame
      obtain ⟨rfl, rfl⟩ := hsame
      rfl
    · rename_i hother
      rw [hr.other hother]

/-- A key that is new is counted. -/
theorem Rewritten.total_gained (hr : Rewritten ks ks' shard key g) (h : ks.Tidy)
    (hbefore : ks.record? shard key = none) (hafter : (ks'.record? shard key).isSome = true) :
    ks'.total .all = ks.total .all + 1 :=
  ((hr.symm h).total_lost hr.tidy hafter hbefore).symm

/-! ## A new keyspace -/

theorem Created.record?_eq_none {o : Options} (h : Created o ks) (shard : Nat) (key : Bytes) :
    ks.record? shard key = none := by
  have hentry : ks.entry? shard key = none := by
    cases hs : ks.shards[shard]? with
    | none => simp [Keyspace.entry?, hs]
    | some s =>
      rw [entry?_eq hs, h.shard_eq hs]
      exact DenseMap.get?_empty _
  unfold record?
  rw [hentry]
  rfl

theorem Created.total_eq_zero {o : Options} (h : Created o ks) : ks.total .all = 0 := by
  have htidy := h.sound.tidy
  obtain ⟨vs, -, hlength, hmem⟩ := htidy.exists_census .all
  have hnone : vs = [] := by
    rw [List.eq_nil_iff_forall_not_mem]
    intro v hv
    have hkey := (hmem v).mp hv
    rw [htidy.contains_all, h.record?_eq_none] at hkey
    cases hkey
  rw [← hlength, hnone]
  rfl

end SampledEviction.Keyspace
