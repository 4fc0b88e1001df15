import SampledEviction.Proofs.Keyspace.Moves
import SampledEviction.Proofs.Keyspace.Views

/-!
# Reachable keyspaces

The states of a keyspace: what operations, draws and moves of the worker lead to from an empty
one, as long as what it has to answer for fits the counter.

* `Reachable.sound` — all of them are sound
* `counter_exact` — the counter shows what it should, and no charge is taken off it in vain
-/

namespace SampledEviction.Keyspace

variable {ks ks' : Keyspace}

/-- What may happen to a keyspace: an operation at any time, a draw, a move of the worker. -/
inductive Change (ks : Keyspace) : Keyspace → Prop where
  | set {shard : Nat} {key value : Bytes} {ttl : Option Duration} {now : Moment} {ks' : Keyspace}
    (h : ks.set shard key value ttl now = .ok ks') : Change ks ks'
  | get (shard : Nat) (key : Bytes) (now : Moment) : Change ks (ks.get shard key now).2
  | remove (shard : Nat) (key : Bytes) (deferred : Bool) :
    Change ks (ks.remove shard key deferred).2
  | expire (shard : Nat) (key : Bytes) (ttl : Duration) (now : Moment) :
    Change ks (ks.expire shard key ttl now).2
  | persist (shard : Nat) (key : Bytes) : Change ks (ks.persist shard key).2
  | setEviction (s : Settings) : Change ks (ks.setEviction s)
  | draw (random tracked : Xoshiro) :
    Change ks { ks with random, tracker := { ks.tracker with random := tracked } }
  | receive {r : Reclaimer} (hr : ks.reclaimer = some r) :
    Change ks { ks with reclaimer := some r.receive }
  | settle {r : Reclaimer} (hr : ks.reclaimer = some r) :
    Change ks { ks with
      reclaimer := some (r.settle ks.memory).1, memory := (r.settle ks.memory).2 }
  | confirm {r : Reclaimer} (hr : ks.reclaimer = some r) :
    Change ks { ks with reclaimer := some r.confirm }

/-- A sound keyspace stays sound, if what it has to answer for fits the counter. -/
theorem Sound.change (h : ks.Sound) (hchange : ks.Change ks') (hfits : ks'.held < Word.modulus) :
    ks'.Sound := by
  cases hchange with
  | @set shard key value ttl now ks' hset =>
    have hperform : ks.perform (.set shard key value ttl now) = ks' := by
      simp only [Keyspace.perform, hset]
    have hsound := h.perform (.set shard key value ttl now) fun _ _ => hperform.symm ▸ hfits
    rwa [hperform] at hsound
  | get shard key now => exact h.perform (.get shard key now) fun _ _ => hfits
  | remove shard key deferred => exact h.remove shard key deferred
  | expire shard key ttl now => exact h.perform (.expire shard key ttl now) fun _ _ => hfits
  | persist shard key => exact h.perform (.persist shard key) fun _ _ => hfits
  | setEviction s => exact h.congr rfl rfl rfl
  | draw random tracked => exact h.congr rfl rfl rfl
  | receive hr => exact (h.midway.receive hr).sound
  | settle hr => exact (h.midway.settle hr).sound
  | confirm hr => exact (h.midway.confirm hr).sound

theorem size_shards_remove (ks : Keyspace) (shard : Nat) (key : Bytes) (deferred : Bool) :
    (ks.remove shard key deferred).2.shards.size = ks.shards.size := by
  cases hentry : ks.entry? shard key with
  | none => rw [remove_of_none hentry]
  | some entry =>
    obtain ⟨memory, reclaimer, hremove⟩ := exists_remove_write hentry deferred
    rw [hremove]
    exact Array.size_modify

/-- The number of shards never changes. -/
theorem Change.size_shards (h : ks.Change ks') : ks'.shards.size = ks.shards.size := by
  cases h with
  | set hset =>
    unfold Keyspace.set at hset
    split at hset
    · cases hset
      exact Array.size_modify
    · cases hset
  | get shard key now =>
    unfold Keyspace.get
    split
    · exact ks.size_shards_remove shard key false
    · split
      · rfl
      · exact Array.size_modify
  | remove shard key deferred => exact ks.size_shards_remove shard key deferred
  | expire shard key ttl now =>
    unfold Keyspace.expire
    split
    · exact Array.size_modify
    · rfl
  | persist shard key =>
    unfold Keyspace.persist
    split
    · exact Array.size_modify
    · rfl
  | _ => rfl

/-- The keyspaces that changes lead to from an empty one, as long as what they have to answer
for fits the counter. The number of shards fits a word. -/
inductive Reachable : Keyspace → Prop where
  | create {o : Options} {ks : Keyspace} (h : create o = .ok ks)
    (hshards : o.shards < Word.modulus) : Reachable ks
  | change {ks ks' : Keyspace} (h : Reachable ks) (hchange : ks.Change ks')
    (hfits : ks'.held < Word.modulus) : Reachable ks'

theorem Reachable.sound (h : ks.Reachable) : ks.Sound := by
  induction h with
  | create h _ => exact sound_of_create h
  | change _ hchange hfits ih => exact ih.change hchange hfits

theorem Reachable.size_shards_lt (h : ks.Reachable) : ks.shards.size < Word.modulus := by
  induction h with
  | create h hshards => rwa [(created_of_create h).size]
  | change _ hchange _ ih => exact hchange.size_shards ▸ ih

theorem Reachable.perform (h : ks.Reachable) (op : Operation)
    (hfits : (ks.perform op).held < Word.modulus) : (ks.perform op).Reachable := by
  cases op with
  | set shard key value ttl now =>
    cases hset : ks.set shard key value ttl now with
    | ok ks' =>
      have hperform : ks.perform (.set shard key value ttl now) = ks' := by
        simp only [Keyspace.perform, hset]
      rw [hperform] at hfits ⊢
      exact h.change (.set hset) hfits
    | error e => simpa only [Keyspace.perform, hset] using h
  | get shard key now => exact h.change (.get shard key now) hfits
  | remove shard key deferred => exact h.change (.remove shard key deferred) hfits
  | expire shard key ttl now => exact h.change (.expire shard key ttl now) hfits
  | persist shard key => exact h.change (.persist shard key) hfits

/-! ## A value on its way -/

/-- An empty keyspace of one shard, whose reclaimer takes over any value. -/
def vacant : Keyspace where
  shards := Array.replicate 1 {}
  memory := {}
  tracker := .ofSettings {} 0
  random := .ofSeed 1
  reclaimer := some {}
  threshold := 0
  stats := {}

theorem create_vacant : create { background := some true, threshold := 0 } = .ok vacant := rfl

/-- The keyspace with one key of one byte, and a value of one byte. -/
def stocked : Keyspace := vacant.perform (.set 0 ⟨#[97]⟩ ⟨#[98]⟩ none ⟨0⟩)

theorem set_stocked : vacant.set 0 ⟨#[97]⟩ ⟨#[98]⟩ none ⟨0⟩ = .ok stocked := rfl

/-- The keyspace whose key was removed, and whose value waits to be released. -/
def handed : Keyspace := stocked.perform (.remove 0 ⟨#[97]⟩ true)

theorem moves_stocked : vacant.moves (.set 0 ⟨#[97]⟩ ⟨#[98]⟩ none ⟨0⟩) = [.add 50] := by
  have hentry : vacant.entry? 0 ⟨#[97]⟩ = none := DenseMap.get?_empty _
  simp only [moves, hentry]
  rfl

theorem held_stocked_lt : stocked.held < Word.modulus := by
  have hsound := sound_of_create create_vacant
  have hle := hsound.held_perform_le (.set 0 ⟨#[97]⟩ ⟨#[98]⟩ none ⟨0⟩)
  have hzero : 0 = vacant.held := hsound.bytes
  rw [moves_stocked, ← hzero] at hle
  exact Nat.lt_of_le_of_lt hle (by decide)

theorem reachable_stocked : stocked.Reachable :=
  Reachable.perform (.create create_vacant (by decide)) _ held_stocked_lt

/-- The value is handed over if that is asked for, and released at once if it is not. -/
theorem moves_remove_stocked (deferred : Bool) : stocked.moves (.remove 0 ⟨#[97]⟩ deferred)
    = if deferred then [.announce, .send 50] else [.sub 50] := by
  have hsound := sound_of_create create_vacant
  have hentry := entry?_set hsound.tidy set_stocked
  have hdeadline := deadline?_set hsound.tidy set_stocked
  simp only [moves, removalMoves, hentry, hdeadline]
  cases deferred <;> rfl

theorem moves_handed : stocked.moves (.remove 0 ⟨#[97]⟩ true) = [.announce, .send 50] :=
  moves_remove_stocked true

theorem held_handed_lt : handed.held < Word.modulus := by
  have hle := reachable_stocked.sound.held_perform_le (.remove 0 ⟨#[97]⟩ true)
  rw [moves_handed] at hle
  exact Nat.lt_of_le_of_lt hle held_stocked_lt

theorem reachable_handed : handed.Reachable := reachable_stocked.perform _ held_handed_lt

theorem reclaimer_handed : handed.reclaimer = some { queue := [50], pending := 1 } := by
  show (stocked.perform (.remove 0 ⟨#[97]⟩ true)).reclaimer = _
  rw [← run_moves, moves_handed]
  rfl

/-! ## The counter -/

/-- Only the first move of an operation takes a charge off the counter. -/
theorem Plan.sub_notMem {background : Bool} {m : Move} {todo : List Move}
    (h : Plan background (m :: todo)) (bytes : Nat) : .sub bytes ∉ todo := by
  cases h <;> simp

/-- No charge that an operation takes off the counter is more than it shows. -/
theorem Sound.sub_le (h : ks.Sound) {op : Operation} {before after : List Move} {bytes : Nat}
    (hmoves : ks.moves op = before ++ .sub bytes :: after) :
    bytes ≤ (before.foldl move (ks.entered op)).memory.bytes := by
  obtain ⟨-, hplan, hcharged, hcredit⟩ := h.accounted op
  have hfirst : before = [] := by
    cases before with
    | nil => rfl
    | cons m before =>
      rw [hmoves, List.cons_append] at hplan
      exact absurd (by simp) (hplan.sub_notMem bytes)
  subst hfirst
  rw [hmoves] at hcharged hcredit
  have hdebit : tally Move.debit (.sub bytes :: after) = bytes + tally Move.debit after := rfl
  have hle : ks.charged ≤ ks.memory.bytes := by
    rw [h.bytes]
    exact Nat.le_add_right _ _
  show bytes ≤ ks.memory.bytes
  simp only [List.nil_append] at hcharged hcredit
  omega

/-- In every state of a keyspace, a key that expires is among all keys, and the counter shows what
all keys are charged for and what the reclaimer has yet to release. Neither an operation nor the
worker takes a charge off the counter that is more than it shows. -/
theorem counter_exact (h : ks.Reachable) :
    (∀ (i : Nat) (s : Shard), ks.shards[i]? = some s →
      ∀ key, s.deadlines.contains key = true → s.main.contains key = true) ∧
    ks.memory.bytes
      = tally (fun s : Shard =>
          tally (fun e => charge e.1 e.2.value (s.deadlines.contains e.1)) s.main.toList)
        ks.shards.toList + owed ks.reclaimer ∧
    (∀ op : Operation, (ks.moves op).foldl move (ks.entered op) = ks.perform op ∧
      ∀ before bytes after, ks.moves op = before ++ .sub bytes :: after →
        bytes ≤ (before.foldl move (ks.entered op)).memory.bytes) ∧
    ∀ r bytes, ks.reclaimer = some r → r.worker = .settle bytes → bytes ≤ ks.memory.bytes := by
  have hsound := h.sound
  refine ⟨fun i s hs => (hsound.shard hs).subset, hsound.bytes,
    fun op => ⟨ks.run_moves op, fun before bytes after hmoves => hsound.sub_le hmoves⟩,
    fun r bytes hr hworker => ?_⟩
  have howed : r.outstanding ≤ ks.memory.bytes := by
    simpa [hr, owed] using hsound.midway.owed_le
  have hsettled := Reclaimer.outstanding_settle hworker
  omega

/-- The counter while a value waits to be released, and its key is gone. -/
theorem counter_exact_handed :
    handed.Reachable ∧ handed.reclaimer = some { queue := [50], pending := 1 } ∧
    (∀ (i : Nat) (s : Shard), handed.shards[i]? = some s →
      ∀ key, s.deadlines.contains key = true → s.main.contains key = true) ∧
    handed.memory.bytes
      = tally (fun s : Shard =>
          tally (fun e => charge e.1 e.2.value (s.deadlines.contains e.1)) s.main.toList)
        handed.shards.toList + 50 ∧
    (∀ op : Operation, (handed.moves op).foldl move (handed.entered op) = handed.perform op ∧
      ∀ before bytes after, handed.moves op = before ++ .sub bytes :: after →
        bytes ≤ (before.foldl move (handed.entered op)).memory.bytes) ∧
    ∀ r bytes, handed.reclaimer = some r → r.worker = .settle bytes →
      bytes ≤ handed.memory.bytes := by
  obtain ⟨htables, hbytes, hoperations, hworker⟩ := counter_exact reachable_handed
  rw [reclaimer_handed] at hbytes
  exact ⟨reachable_handed, reclaimer_handed, htables, hbytes, hoperations, hworker⟩

end SampledEviction.Keyspace
