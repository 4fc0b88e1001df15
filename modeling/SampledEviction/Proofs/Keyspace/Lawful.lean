import SampledEviction.Proofs.Keyspace.PlainMap

/-!
# What an evictor may rely on

An evictor sees a keyspace as a dataset: it counts keys, draws samples and keys from it, looks keys
up and deletes them. Whatever happened to a keyspace before, and whatever its generator puts out,
what it counts, draws and looks up is what it has, and a deletion takes out one key, at once and
alone.

* `Arises` — the states of a keyspace, whatever they have to answer for
* `Arises.exists_mirror` — each of them mirrors a plain map
* `dataset_lawful` — each of them is lawful
-/

namespace SampledEviction

/-! ## Samples of nothing -/

theorem DenseMap.sample_of_size_eq_zero {α β : Type} [BEq α] [Hashable α] {m : DenseMap α β}
    (hsize : m.size = 0) (n : Nat) (g : Xoshiro) : m.sample n g = ([], g) := by
  cases n with
  | zero => rfl
  | succ n =>
    unfold DenseMap.sample
    rw [random_of_size_eq_zero hsize]

namespace Keyspace

variable {ks ks' : Keyspace} {shard : Nat} {scope : Scope} {key : Bytes} {s : Shard}

theorem Shard.sample_of_count_eq_zero (hcount : s.count scope = 0) (n : Nat) (g : Xoshiro) :
    (s.sample scope n g).1 = [] := by
  cases scope with
  | all => simp [Shard.sample, DenseMap.sample_of_size_eq_zero hcount]
  | volatile => simp [Shard.sample, DenseMap.sample_of_size_eq_zero hcount]

theorem Shard.randomKey_of_count_eq_zero (hcount : s.count scope = 0) (g : Xoshiro) :
    (s.randomKey scope g).1 = none := by
  cases scope with
  | all => simp [Shard.randomKey, DenseMap.random_of_size_eq_zero hcount]
  | volatile => simp [Shard.randomKey, DenseMap.random_of_size_eq_zero hcount]

/-! ## All states -/

/-- The keyspaces that changes lead to from an empty one. -/
inductive Arises : Keyspace → Prop where
  | create {o : Options} {ks : Keyspace} (h : create o = .ok ks) : Arises ks
  | change {ks ks' : Keyspace} (h : Arises ks) (hchange : ks.Change ks') : Arises ks'

/-- A change is that of a call, or leaves the tables as they are. -/
theorem Change.exists_call (h : ks.Change ks') :
    (∃ c : Call, (ks.answer c).2 = ks') ∨ ks'.shards = ks.shards := by
  cases h with
  | @set shard key value ttl now ks' hset =>
    exact Or.inl ⟨.set (shard, key) value ttl now, by simp only [answer, hset]⟩
  | get shard key now => exact Or.inl ⟨.get (shard, key) now, rfl⟩
  | remove shard key deferred =>
    cases deferred with
    | false => exact Or.inl ⟨.delete (shard, key), rfl⟩
    | true => exact Or.inl ⟨.deleteDeferred (shard, key), rfl⟩
  | expire shard key ttl now => exact Or.inl ⟨.expire (shard, key) ttl now, rfl⟩
  | persist shard key => exact Or.inl ⟨.persist (shard, key), rfl⟩
  | _ => exact Or.inr rfl

theorem Mirrors.congr {shards : Nat} {m : PlainMap} (h : Mirrors shards ks m)
    (hshards : ks'.shards = ks.shards) : Mirrors shards ks' m where
  tidy := h.tidy.congr hshards
  size := by rw [hshards, h.size]
  lookup a := by rw [record?_congr hshards, h.lookup]

/-- Whatever happened to a keyspace, it has what a plain map has. -/
theorem Arises.exists_mirror (h : ks.Arises) : ∃ shards m, Mirrors shards ks m := by
  induction h with
  | create h => exact ⟨_, _, (created_of_create h).mirrors⟩
  | change _ hchange ih =>
    obtain ⟨shards, m, hmirrors⟩ := ih
    rcases hchange.exists_call with ⟨c, hc⟩ | hshards
    · obtain ⟨r, ks', m', hanswered⟩ := hmirrors.exists_answered c
      rw [hanswered.keyspace] at hc
      subst hc
      exact ⟨shards, m', hanswered.mirrors⟩
    · exact ⟨shards, m, hmirrors.congr hshards⟩

theorem Arises.tidy (h : ks.Arises) : ks.Tidy := by
  obtain ⟨shards, m, hmirrors⟩ := h.exists_mirror
  exact hmirrors.tidy

theorem Arises.perform (h : ks.Arises) (op : Operation) : (ks.perform op).Arises := by
  cases op with
  | set shard key value ttl now =>
    cases hset : ks.set shard key value ttl now with
    | ok ks' => simpa only [Keyspace.perform, hset] using h.change (.set hset)
    | error e => simpa only [Keyspace.perform, hset] using h
  | get shard key now => exact h.change (.get shard key now)
  | remove shard key deferred => exact h.change (.remove shard key deferred)
  | expire shard key ttl now => exact h.change (.expire shard key ttl now)
  | persist shard key => exact h.change (.persist shard key)

/-! ## The laws -/

/-- A deletion of a key with its answer. It tells whether the key was there; the key is in neither
table any more, and any other key has its value, its stamp and its deadline as before. -/
structure Deletes (ks : Keyspace) (shard : Nat) (key : Bytes) (x : Bool × Keyspace) : Prop where
  found : x.1 = dataset.contains ks shard .all key
  gone (scope : Scope) : dataset.contains x.2 shard scope key = false
  entry {i : Nat} {k : Bytes} (hne : ¬ (shard = i ∧ key = k)) : Keyspace.entry? x.2 i k = ks.entry? i k
  deadline {i : Nat} {k : Bytes} (hne : ¬ (shard = i ∧ key = k)) :
    x.2.deadline? i k = ks.deadline? i k
  contains {i : Nat} {k : Bytes} (hne : ¬ (shard = i ∧ key = k)) (scope : Scope) :
    dataset.contains x.2 i scope k = dataset.contains ks i scope k

/-- A shard that looks empty, and in which there is nothing to delete. -/
structure LooksEmpty (ks : Keyspace) (shard : Nat) : Prop where
  count (scope : Scope) : dataset.count ks shard scope = 0
  contains (scope : Scope) (key : Bytes) : dataset.contains ks shard scope key = false
  stamp? (key : Bytes) : dataset.stamp? ks shard key = none
  sample (scope : Scope) (n : Nat) : dataset.sample shard scope n ks = ([], ks)
  randomKey (scope : Scope) : dataset.randomKey shard scope ks = (none, ks)
  delete (key : Bytes) : dataset.delete shard key ks = (false, ks)
  deleteDeferred (key : Bytes) : dataset.deleteDeferred shard key ks = (false, ks)

/-- A keyspace that shows an evictor what it has. -/
structure Lawful (ks : Keyspace) : Prop where
  /-- As many keys are counted as are found. -/
  count (shard : Nat) (scope : Scope) :
    ∃ keys : List Bytes, keys.Nodup ∧ keys.length = dataset.count ks shard scope ∧
      ∀ key, key ∈ keys ↔ dataset.contains ks shard scope key = true
  length_sample (shard : Nat) (scope : Scope) (n : Nat) :
    (dataset.sample shard scope n ks).1.length
      = if dataset.count ks shard scope = 0 then 0 else n
  /-- A sample of all keys shows their stamps. -/
  shown_all {shard n : Nat} {visit : Bytes × Sampled}
    (hvisit : visit ∈ (dataset.sample shard .all n ks).1) :
    dataset.contains ks shard .all visit.1 = true ∧
      ∃ stamp, dataset.stamp? ks shard visit.1 = some stamp ∧ visit.2 = .stamp stamp
  /-- A sample of the keys that expire shows their deadlines; they have stamps as well. -/
  shown_volatile {shard n : Nat} {visit : Bytes × Sampled}
    (hvisit : visit ∈ (dataset.sample shard .volatile n ks).1) :
    dataset.contains ks shard .volatile visit.1 = true ∧
      (∃ t, ks.deadline? shard visit.1 = some t ∧ visit.2 = .deadline t) ∧
      (dataset.stamp? ks shard visit.1).isSome = true
  isSome_randomKey (shard : Nat) (scope : Scope) :
    (dataset.randomKey shard scope ks).1.isSome = true ↔ 0 < dataset.count ks shard scope
  contains_randomKey {shard : Nat} {scope : Scope} {key : Bytes}
    (hkey : (dataset.randomKey shard scope ks).1 = some key) :
    dataset.contains ks shard scope key = true
  delete (shard : Nat) (key : Bytes) : Deletes ks shard key (dataset.delete shard key ks)
  deleteDeferred (shard : Nat) (key : Bytes) :
    Deletes ks shard key (dataset.deleteDeferred shard key ks)
  outside {shard : Nat} (h : dataset.shards ks ≤ shard) : LooksEmpty ks shard
  /-- Draws change nothing but the generator. -/
  sample (shard : Nat) (scope : Scope) (n : Nat) :
    ∃ random, (dataset.sample shard scope n ks).2 = { ks with random }
  randomKey (shard : Nat) (scope : Scope) :
    ∃ random, (dataset.randomKey shard scope ks).2 = { ks with random }
  pendingReleases : (dataset.pendingReleases ks).2 = ks

theorem count_eq (hs : ks.shards[shard]? = some s) (scope : Scope) :
    ks.count shard scope = s.count scope := by
  unfold Keyspace.count
  rw [hs]
  rfl

theorem looksEmpty_of_none (hs : ks.shards[shard]? = none) : LooksEmpty ks shard := by
  have hentry (key : Bytes) : ks.entry? shard key = none := by
    unfold Keyspace.entry?
    rw [hs, Option.bind_none]
  exact
    { count := fun scope => by
        show ks.count shard scope = 0
        unfold Keyspace.count
        rw [hs]
        rfl
      contains := fun scope key => by
        show ks.contains shard scope key = false
        unfold Keyspace.contains
        rw [hs]
        rfl
      stamp? := fun key => by
        show ks.stamp? shard key = none
        unfold Keyspace.stamp?
        rw [hentry, Option.map_none]
      sample := fun scope n => by
        show ks.sample shard scope n = _
        unfold Keyspace.sample
        rw [hs]
      randomKey := fun scope => by
        show ks.randomKey shard scope = _
        unfold Keyspace.randomKey
        rw [hs]
      delete := fun key => remove_of_none (hentry key) false
      deleteDeferred := fun key => remove_of_none (hentry key) true }

theorem length_sample_eq (ks : Keyspace) (shard : Nat) (scope : Scope) (n : Nat) :
    (ks.sample shard scope n).1.length = if ks.count shard scope = 0 then 0 else n := by
  cases hs : ks.shards[shard]? with
  | none => simp [Keyspace.sample, Keyspace.count, hs]
  | some s =>
    have hvisits : (ks.sample shard scope n).1 = (s.sample scope n ks.random).1 := by
      simp only [Keyspace.sample, hs]
    rw [hvisits, count_eq hs]
    by_cases hcount : s.count scope = 0
    · rw [if_pos hcount, Shard.sample_of_count_eq_zero hcount, List.length_nil]
    · rw [if_neg hcount, Shard.length_sample hcount]

theorem isSome_randomKey_iff (ks : Keyspace) (shard : Nat) (scope : Scope) :
    (ks.randomKey shard scope).1.isSome = true ↔ 0 < ks.count shard scope := by
  cases hs : ks.shards[shard]? with
  | none => simp [Keyspace.randomKey, Keyspace.count, hs]
  | some s =>
    have hkey : (ks.randomKey shard scope).1 = (s.randomKey scope ks.random).1 := by
      simp only [Keyspace.randomKey, hs]
    rw [hkey, count_eq hs]
    by_cases hcount : s.count scope = 0
    · simp [Shard.randomKey_of_count_eq_zero hcount, hcount]
    · have hsome := Option.isSome_iff_ne_none.mpr (Shard.randomKey_ne_none hcount ks.random)
      exact iff_of_true hsome (Nat.pos_of_ne_zero hcount)

theorem Tidy.deletes (h : ks.Tidy) (shard : Nat) (key : Bytes) (deferred : Bool) :
    Deletes ks shard key (ks.remove shard key deferred) := by
  have hremove : ks.remove shard key deferred
      = ((ks.remove shard key deferred).1, (ks.remove shard key deferred).2) := rfl
  have hrewritten := h.rewritten_remove shard key deferred
  exact
    { found := by
        rw [fst_remove_eq]
        exact (h.contains_all shard key).symm
      gone := fun scope => by
        refine (hrewritten.tidy.contains_eq_any shard scope key).trans ?_
        rw [hrewritten.self, Option.any_none]
      entry := fun hne => by rw [entry?_remove h hremove, if_neg hne]
      deadline := fun hne => by rw [deadline?_remove h hremove, if_neg hne]
      contains := fun {i k} hne scope => by
        refine (hrewritten.tidy.contains_eq_any i scope k).trans ?_
        rw [hrewritten.other hne]
        exact (h.contains_eq_any i scope k).symm }

/-- A key is shown with its record. -/
theorem Tidy.exists_shown (h : ks.Tidy) {n : Nat} {visit : Bytes × Sampled}
    (hvisit : visit ∈ (ks.sample shard scope n).1) :
    ∃ x, ks.record? shard visit.1 = some x ∧ x.shown scope = some visit.2 ∧
      ks.contains shard scope visit.1 = true ∧ ks.stamp? shard visit.1 = some x.stamp ∧
      ks.deadline? shard visit.1 = x.deadline := by
  obtain ⟨x, hx, hshown⟩ := h.shown_of_mem_sample hvisit
  refine ⟨x, hx, hshown, ?_, ?_, ?_⟩
  · rw [h.contains_eq_any, hx]
    exact Record.within_of_shown hshown
  · rw [stamp?_eq_record, hx, Option.map_some]
  · rw [h.deadline?_eq, hx, Option.bind_some]

theorem Tidy.lawful (h : ks.Tidy) : Lawful ks where
  count := h.exists_keys
  length_sample := ks.length_sample_eq
  shown_all hvisit := by
    obtain ⟨x, -, hshown, hthere, hstamp, -⟩ := h.exists_shown hvisit
    exact ⟨hthere, x.stamp, hstamp, (Option.some.inj hshown).symm⟩
  shown_volatile hvisit := by
    obtain ⟨x, -, hshown, hthere, hstamp, hdeadline⟩ := h.exists_shown hvisit
    obtain ⟨t, ht, hvisit⟩ := Option.map_eq_some_iff.mp hshown
    exact ⟨hthere, ⟨t, hdeadline.trans ht, hvisit.symm⟩, Option.isSome_of_eq_some hstamp⟩
  isSome_randomKey := ks.isSome_randomKey_iff
  contains_randomKey := h.contains_of_randomKey
  delete shard key := h.deletes shard key false
  deleteDeferred shard key := h.deletes shard key true
  outside hle := looksEmpty_of_none (Array.getElem?_eq_none hle)
  sample shard scope n := by
    show ∃ random, (ks.sample shard scope n).2 = { ks with random }
    unfold Keyspace.sample
    split <;> exact ⟨_, rfl⟩
  randomKey shard scope := by
    show ∃ random, (ks.randomKey shard scope).2 = { ks with random }
    unfold Keyspace.randomKey
    split <;> exact ⟨_, rfl⟩
  pendingReleases := rfl

/-- Whatever happened to a keyspace, and whatever its generator puts out, it is lawful. -/
theorem dataset_lawful (h : ks.Arises) (random : Xoshiro) : Lawful { ks with random } :=
  (h.change (.draw random ks.tracker.random)).tidy.lawful

/-- A keyspace of two keys, one of which expires. A third one was removed, and the last key took its
place. -/
def refilled : Keyspace :=
  (((vacant.perform (.set 0 ⟨#[97]⟩ ⟨#[1]⟩ none ⟨0⟩)).perform
    (.set 0 ⟨#[98]⟩ ⟨#[2]⟩ none ⟨1⟩)).perform
    (.set 0 ⟨#[99]⟩ ⟨#[3]⟩ (some ⟨9, 0⟩) ⟨2⟩)).perform
    (.remove 0 ⟨#[97]⟩ false)

theorem arises_refilled : refilled.Arises :=
  ((((Arises.create create_vacant).perform _).perform _).perform _).perform _

theorem dataset_lawful_refilled :
    refilled.Arises ∧ Lawful { refilled with random := .ofSeed 7 } :=
  ⟨arises_refilled, dataset_lawful arises_refilled (.ofSeed 7)⟩

end Keyspace

end SampledEviction
