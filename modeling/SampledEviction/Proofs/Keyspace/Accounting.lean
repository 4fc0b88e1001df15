import SampledEviction.Proofs.Keyspace.Shard

/-!
# The counter of a keyspace

A keyspace is sound if its shards are, and its counter shows what its keys are charged for and
what the reclaimer still has to release.

* `charged_write` — what a change of one shard does to the charge of all keys
* `remove_of_some` — the two ways in which a key is removed
* `sound_of_create` — an empty keyspace is sound
-/

namespace SampledEviction.Keyspace

/-! ## What the counter should show -/

/-- The bytes that a reclaimer has taken over and not yet settled. -/
def Reclaimer.outstanding (r : Reclaimer) : Nat :=
  tally id r.queue + match r.worker with
    | .settle bytes => bytes
    | _ => 0

/-- The bytes that are still to be released in the background. -/
def owed (reclaimer : Option Reclaimer) : Nat := (reclaimer.map (·.outstanding)).getD 0

/-- The bytes charged for all keys. -/
def charged (ks : Keyspace) : Nat := tally Shard.charged ks.shards.toList

/-- All bytes that a keyspace has to answer for. -/
def held (ks : Keyspace) : Nat := ks.charged + owed ks.reclaimer

/-- Every shard is sound, and the counter is right. -/
structure Sound (ks : Keyspace) : Prop where
  shard : ∀ {i : Nat} {s : Shard}, ks.shards[i]? = some s → s.Sound
  bytes : ks.memory.bytes = ks.held

/-- Every shard is sound, whatever the counter shows. -/
structure Tidy (ks : Keyspace) : Prop where
  shard {i : Nat} {s : Shard} (hs : ks.shards[i]? = some s) : s.Sound

variable {ks ks' : Keyspace} {shard : Nat} {key : Bytes} {s : Shard} {entry : Entry}

theorem Sound.tidy (h : ks.Sound) : ks.Tidy := ⟨h.shard⟩

theorem entry?_eq (hs : ks.shards[shard]? = some s) (key : Bytes) :
    ks.entry? shard key = s.main.get? key := by
  unfold Keyspace.entry?
  rw [hs, Option.bind_some]

theorem exists_shard_of_entry (h : ks.entry? shard key = some entry) :
    ∃ s, ks.shards[shard]? = some s ∧ s.main.get? key = some entry :=
  Option.bind_eq_some_iff.mp h

theorem exists_shard_of_contains {scope : Scope} (h : ks.contains shard scope key = true) :
    ∃ s, ks.shards[shard]? = some s ∧ s.contains key scope = true := by
  unfold Keyspace.contains at h
  cases hs : ks.shards[shard]? with
  | none => rw [hs] at h; cases h
  | some s => exact ⟨s, rfl, by rwa [hs] at h⟩

theorem charge_true (key value : Bytes) :
    charge key value true = deadlineOverhead + charge key value false :=
  Nat.add_comm _ _

theorem Sound.isSome_deadline? (h : ks.Sound) (hs : ks.shards[shard]? = some s) (key : Bytes) :
    (ks.deadline? shard key).isSome = s.deadlines.contains key := by
  rw [deadline?, hs, Option.bind_some, (h.shard hs).deadlines.contains_eq]

theorem charged_le (hs : ks.shards[shard]? = some s) : s.charged ≤ ks.charged :=
  le_tally (Array.mem_toList_iff.mpr (Array.mem_of_getElem? hs))

/-- Only the shards, the counter and the reclaimer matter. -/
theorem Sound.congr (h : ks.Sound) (hshards : ks'.shards = ks.shards)
    (hmemory : ks'.memory = ks.memory) (hreclaimer : ks'.reclaimer = ks.reclaimer) :
    ks'.Sound where
  shard hs := h.shard (hshards ▸ hs)
  bytes := by
    unfold held charged
    rw [hmemory, hshards, hreclaimer]
    exact h.bytes

/-! ## Changing one shard -/

/-- The keyspace with one shard changed, and with another counter and reclaimer. -/
def write (ks : Keyspace) (shard : Nat) (f : Shard → Shard) (memory : Counter)
    (reclaimer : Option Reclaimer) : Keyspace :=
  { ks with memory, reclaimer, shards := ks.shards.modify shard f }

variable {f : Shard → Shard} {memory : Counter} {reclaimer : Option Reclaimer}

theorem charged_write (hs : ks.shards[shard]? = some s) (f : Shard → Shard) (memory : Counter)
    (reclaimer : Option Reclaimer) :
    (ks.write shard f memory reclaimer).charged + s.charged = ks.charged + (f s).charged :=
  tally_modify hs f

/-! ## What a key is charged for -/

/-- What a key is charged for before it is overwritten: nothing, if it is not there. -/
def released (ks : Keyspace) (shard : Nat) (key : Bytes) : Nat :=
  match ks.entry? shard key with
  | some old => charge key old.value (ks.deadline? shard key).isSome
  | none => 0

theorem Sound.charged_eq_released (h : ks.Sound) (hs : ks.shards[shard]? = some s) (key : Bytes) :
    s.charged = ks.released shard key + (s.erase key).charged := by
  unfold released
  rw [h.isSome_deadline? hs, entry?_eq hs]
  cases hkey : s.main.get? key with
  | none => simp only [(h.shard hs).erase_of_get?_none hkey, Nat.zero_add]
  | some entry => exact (h.shard hs).charged_self hkey

theorem remove_of_none (hentry : ks.entry? shard key = none) (deferred : Bool) :
    ks.remove shard key deferred = (false, ks) := by
  simp only [Keyspace.remove, hentry]

/-- A key is removed at once, or its charge is left to the reclaimer. -/
theorem remove_of_some (hentry : ks.entry? shard key = some entry) (deferred : Bool) :
    ks.remove shard key deferred
        = (true, ks.write shard (·.erase key)
            (ks.memory.sub (charge key entry.value (ks.deadline? shard key).isSome))
            ks.reclaimer) ∨
      ∃ r, ks.reclaimer = some r ∧ ks.remove shard key deferred
        = (true, ks.write shard (·.erase key) ks.memory
            (some (r.defer (charge key entry.value (ks.deadline? shard key).isSome)))) := by
  cases hlate : deferred && decide (ks.threshold ≤ entry.value.size)
    && ks.reclaimer.isSome with
  | false =>
    refine Or.inl ?_
    simp only [Keyspace.remove, hentry, hlate]
    rfl
  | true =>
    rw [Bool.and_eq_true, Option.isSome_iff_exists] at hlate
    obtain ⟨hlong, r, hr⟩ := hlate
    refine Or.inr ⟨r, hr, ?_⟩
    simp only [Keyspace.remove, hentry, hlong, hr]
    rfl

/-! ## The reclaimer -/

theorem Reclaimer.outstanding_send (r : Reclaimer) (bytes : Nat) :
    (r.send bytes).outstanding = r.outstanding + bytes := by
  have hqueue : tally id (r.queue ++ [bytes]) = tally id r.queue + bytes := tally_append _ _
  unfold outstanding
  show tally id (r.queue ++ [bytes]) + _ = _
  rw [hqueue]
  exact Nat.add_right_comm _ _ _

theorem Reclaimer.receive_eq {r : Reclaimer} {bytes : Nat} {rest : List Nat}
    (h : r.worker = .receive) (hqueue : r.queue = bytes :: rest) :
    r.receive = { r with queue := rest, worker := .settle bytes } := by
  unfold receive
  rw [h, hqueue]

theorem Reclaimer.outstanding_receive (r : Reclaimer) : r.receive.outstanding = r.outstanding := by
  unfold receive outstanding
  split
  · rename_i bytes rest hworker hqueue
    rw [hworker, hqueue, tally_cons]
    exact Nat.add_comm _ _
  · rfl

theorem Reclaimer.settle_eq {r : Reclaimer} {bytes : Nat} (h : r.worker = .settle bytes)
    (memory : Counter) : r.settle memory = ({ r with worker := .confirm }, memory.sub bytes) := by
  unfold settle
  rw [h]

theorem Reclaimer.settle_idle {r : Reclaimer} (h : ∀ bytes, r.worker ≠ .settle bytes)
    (memory : Counter) : r.settle memory = (r, memory) := by
  unfold settle
  split
  · rename_i bytes hworker
    exact absurd hworker (h bytes)
  · rfl

/-- What the worker settles is off its list. -/
theorem Reclaimer.outstanding_settle {r : Reclaimer} {bytes : Nat} (h : r.worker = .settle bytes) :
    r.outstanding = bytes + Reclaimer.outstanding { r with worker := .confirm } := by
  unfold outstanding
  rw [h]
  exact Nat.add_comm _ _

theorem Reclaimer.confirm_eq {r : Reclaimer} (h : r.worker = .confirm) : r.confirm
    = { r with pending := r.pending - 1, worker := .receive, released := r.released + 1 } := by
  unfold confirm
  rw [h]

theorem Reclaimer.outstanding_confirm (r : Reclaimer) : r.confirm.outstanding = r.outstanding := by
  unfold confirm outstanding
  split
  · rename_i hworker
    rw [hworker]
  · rfl

/-- Every key is charged for. -/
theorem Sound.total_le_held (h : ks.Sound) (scope : Scope) : ks.total scope ≤ ks.held := by
  refine Nat.le_trans (tally_le_tally (f := fun s : Shard => s.count scope) fun s hs => ?_)
    (Nat.le_add_right _ _)
  obtain ⟨i, hi⟩ := Array.mem_iff_getElem?.mp (Array.mem_toList_iff.mp hs)
  exact (h.shard hi).count_le_charged scope

/-! ## A new keyspace -/

/-- What a new keyspace holds. -/
structure Created (o : Options) (ks : Keyspace) : Prop where
  shards : ks.shards = Array.replicate o.shards {}
  memory : ks.memory = {}
  reclaimer : ks.reclaimer = if o.background.getD o.settings.lazy then some {} else none
  stats : ks.stats = {}

theorem created_of_create {o : Options} (h : create o = .ok ks) : Created o ks := by
  unfold create at h
  split at h
  · cases h
  · cases h
    exact ⟨rfl, rfl, rfl, rfl⟩

theorem exists_create {o : Options} (h : 0 < o.shards) : ∃ ks, create o = .ok ks := by
  unfold create
  rw [if_neg (Nat.ne_of_gt h)]
  exact ⟨_, rfl⟩

namespace Created

variable {o : Options}

theorem size (h : Created o ks) : ks.shards.size = o.shards := by
  rw [h.shards, Array.size_replicate]

theorem shard_eq (h : Created o ks) {i : Nat} {s : Shard} (hs : ks.shards[i]? = some s) :
    s = {} := by
  rw [h.shards, Array.getElem?_replicate] at hs
  split at hs
  · exact (Option.some.inj hs).symm
  · cases hs

theorem sound (h : Created o ks) : ks.Sound where
  shard hs := h.shard_eq hs ▸ Shard.sound_empty
  bytes := by
    have hcharged : tally Shard.charged ks.shards.toList = 0 := by
      rw [tally_eq_zero_iff, h.shards, Array.toList_replicate]
      intro s hs
      rw [(List.mem_replicate.mp hs).2]
      rfl
    unfold held charged
    rw [hcharged, h.memory, h.reclaimer]
    split <;> rfl

end Created

theorem sound_of_create {o : Options} (h : create o = .ok ks) : ks.Sound :=
  (created_of_create h).sound

end SampledEviction.Keyspace
