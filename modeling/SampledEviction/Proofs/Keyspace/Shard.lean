import SampledEviction.Keyspace.Basic
import SampledEviction.Proofs.DenseMap

/-!
# Shards

A shard is sound if both its tables are, and every key that expires is there. What its keys
are charged for follows every write.

* `Sound.put`, `Sound.erase`, `Sound.setDeadline`, `Sound.eraseDeadline` — what is kept
* `charged_eq` — the charge of one key, and of all others
-/

namespace SampledEviction.Keyspace.Shard

/-- Both tables are sound, and a key that expires is among all keys. -/
structure Sound (s : Shard) : Prop where
  main : s.main.Sound
  deadlines : s.deadlines.Sound
  subset : ∀ key, s.deadlines.contains key = true → s.main.contains key = true

variable {s s' : Shard} {key : Bytes} {entry : Entry}

theorem sound_empty : ({} : Shard).Sound where
  main := DenseMap.sound_empty
  deadlines := DenseMap.sound_empty
  subset key h := by
    rw [DenseMap.sound_empty.contains_iff] at h ⊢
    obtain ⟨v, hv⟩ := h
    simp [DenseMap.get?, DenseMap.empty] at hv

/-! ## What is kept -/

theorem Sound.put (h : s.Sound) (key : Bytes) (entry : Entry) (deadline : Option Nat) :
    (s.put key entry deadline).Sound where
  main := h.main.insert key entry
  deadlines := by
    unfold Shard.put
    cases deadline with
    | none => exact h.deadlines.erase key
    | some t => exact h.deadlines.insert key t
  subset a ha := by
    unfold Shard.put at ha ⊢
    rw [DenseMap.contains_insert h.main, Bool.or_eq_true]
    by_cases hka : (key == a) = true
    · exact Or.inl hka
    · refine Or.inr (h.subset a ?_)
      cases deadline with
      | none => simpa [DenseMap.contains_erase h.deadlines, hka] using ha
      | some t => simpa [DenseMap.contains_insert h.deadlines, hka] using ha

theorem Sound.erase (h : s.Sound) (key : Bytes) : (s.erase key).Sound where
  main := h.main.erase key
  deadlines := h.deadlines.erase key
  subset a ha := by
    unfold Shard.erase at ha ⊢
    rw [DenseMap.contains_erase h.deadlines, Bool.and_eq_true] at ha
    rw [DenseMap.contains_erase h.main, Bool.and_eq_true]
    exact ⟨ha.1, h.subset a ha.2⟩

/-- The shard with a deadline for a key. -/
def setDeadline (s : Shard) (key : Bytes) (t : Nat) : Shard :=
  { s with deadlines := s.deadlines.insert key t }

theorem Sound.setDeadline (h : s.Sound) (hkey : s.main.contains key = true) (t : Nat) :
    (s.setDeadline key t).Sound where
  main := h.main
  deadlines := h.deadlines.insert key t
  subset a ha := by
    unfold Shard.setDeadline at ha ⊢
    rw [DenseMap.contains_insert h.deadlines, Bool.or_eq_true] at ha
    rcases ha with ha | ha
    · exact eq_of_beq ha ▸ hkey
    · exact h.subset a ha

/-- The shard without a deadline for a key. -/
def eraseDeadline (s : Shard) (key : Bytes) : Shard :=
  { s with deadlines := s.deadlines.erase key }

theorem Sound.eraseDeadline (h : s.Sound) (key : Bytes) : (s.eraseDeadline key).Sound where
  main := h.main
  deadlines := h.deadlines.erase key
  subset a ha := by
    unfold Shard.eraseDeadline at ha ⊢
    rw [DenseMap.contains_erase h.deadlines, Bool.and_eq_true] at ha
    exact h.subset a ha.2

/-- The shard with another entry for a key. -/
def setEntry (s : Shard) (key : Bytes) (entry : Entry) : Shard :=
  { s with main := s.main.insert key entry }

theorem Sound.setEntry (h : s.Sound) (key : Bytes) (entry : Entry) :
    (s.setEntry key entry).Sound where
  main := h.main.insert key entry
  deadlines := h.deadlines
  subset a ha := by
    unfold Shard.setEntry
    rw [DenseMap.contains_insert h.main, h.subset a ha, Bool.or_true]

/-! ## Counting keys -/

/-- A key that may be evicted within a scope is among all keys. -/
theorem Sound.contains_main (h : s.Sound) {scope : Scope} (hkey : s.contains key scope = true) :
    ∃ entry, s.main.get? key = some entry := by
  cases scope with
  | all => exact h.main.contains_iff.mp hkey
  | volatile => exact h.main.contains_iff.mp (h.subset key hkey)

/-- A deletion takes one key out of every scope that has it. -/
theorem Sound.count_erase (h : s.Sound) {scope : Scope} (hkey : s.contains key scope = true) :
    (s.erase key).count scope + 1 = s.count scope := by
  cases scope with
  | all =>
    obtain ⟨entry, hentry⟩ := h.main.contains_iff.mp hkey
    exact h.main.size_erase hentry
  | volatile =>
    obtain ⟨t, ht⟩ := h.deadlines.contains_iff.mp hkey
    exact h.deadlines.size_erase ht

theorem Sound.count_erase_le (h : s.Sound) (key : Bytes) (scope : Scope) :
    (s.erase key).count scope ≤ s.count scope := by
  cases scope with
  | all => exact h.main.size_erase_le key
  | volatile => exact h.deadlines.size_erase_le key

/-! ## What keys are charged for -/

/-- The bytes charged for all keys. -/
def charged (s : Shard) : Nat :=
  tally (fun e => charge e.1 e.2.value (s.deadlines.contains e.1)) s.main.toList

/-- The charge of one key, and of all others. -/
theorem charged_eq (h : s.Sound) (s' : Shard)
    (hperm : s'.main.toList.Perm ((key, entry) :: (s.main.erase key).toList))
    (hothers : ∀ a, key ≠ a → s'.deadlines.contains a = s.deadlines.contains a) :
    s'.charged
      = charge key entry.value (s'.deadlines.contains key) + (s.erase key).charged := by
  unfold charged
  rw [tally_perm hperm, tally_cons]
  -- the other keys expire or not as before
  refine congrArg (_ + ·) (tally_congr fun e he => ?_)
  obtain ⟨a, entry'⟩ := e
  have hne : key ≠ a := (h.main.mem_erase_iff.mp he).1
  unfold Shard.erase
  rw [hothers a hne, DenseMap.contains_erase h.deadlines, beq_eq_false_iff_ne.mpr hne,
    Bool.not_false, Bool.true_and]

theorem Sound.charged_self (h : s.Sound) (hkey : s.main.get? key = some entry) :
    s.charged
      = charge key entry.value (s.deadlines.contains key) + (s.erase key).charged :=
  charged_eq h s (h.main.perm_erase hkey) fun _ _ => rfl

theorem Sound.erase_of_get?_none (h : s.Sound) (hkey : s.main.get? key = none) :
    s.erase key = s := by
  have hdeadline : s.deadlines.get? key = none := by
    cases ht : s.deadlines.get? key with
    | none => rfl
    | some t =>
      obtain ⟨entry, hentry⟩ :=
        h.main.contains_iff.mp (h.subset key (h.deadlines.contains_iff.mpr ⟨t, ht⟩))
      rw [hkey] at hentry
      cases hentry
  unfold Shard.erase
  rw [DenseMap.erase_of_get?_none h.main hkey, DenseMap.erase_of_get?_none h.deadlines hdeadline]

theorem Sound.charged_put (h : s.Sound) (key : Bytes) (entry : Entry) (deadline : Option Nat) :
    (s.put key entry deadline).charged
      = charge key entry.value deadline.isSome + (s.erase key).charged := by
  have hcontains (a : Bytes) : (s.put key entry deadline).deadlines.contains a
      = if key == a then deadline.isSome else s.deadlines.contains a := by
    unfold Shard.put
    cases deadline with
    | none =>
      rw [DenseMap.contains_erase h.deadlines]
      cases key == a <;> rfl
    | some t =>
      rw [DenseMap.contains_insert h.deadlines]
      cases key == a <;> rfl
  have hothers (a : Bytes) (hne : key ≠ a) :
      (s.put key entry deadline).deadlines.contains a = s.deadlines.contains a := by
    rw [hcontains, beq_eq_false_iff_ne.mpr hne, if_neg Bool.false_ne_true]
  rw [charged_eq h (s.put key entry deadline) (h.main.perm_insert key entry) hothers, hcontains,
    if_pos (beq_self_eq_true key)]

theorem Sound.charged_setDeadline (h : s.Sound) (hkey : s.main.get? key = some entry) (t : Nat) :
    (s.setDeadline key t).charged
      = charge key entry.value true + (s.erase key).charged := by
  have hcontains (a : Bytes) : (s.setDeadline key t).deadlines.contains a
      = (key == a || s.deadlines.contains a) := DenseMap.contains_insert h.deadlines key t a
  have hothers (a : Bytes) (hne : key ≠ a) :
      (s.setDeadline key t).deadlines.contains a = s.deadlines.contains a := by
    rw [hcontains, beq_eq_false_iff_ne.mpr hne, Bool.false_or]
  rw [charged_eq h (s.setDeadline key t) (h.main.perm_erase hkey) hothers, hcontains,
    beq_self_eq_true, Bool.true_or]

theorem Sound.charged_eraseDeadline (h : s.Sound) (hkey : s.main.get? key = some entry) :
    (s.eraseDeadline key).charged
      = charge key entry.value false + (s.erase key).charged := by
  have hcontains (a : Bytes) : (s.eraseDeadline key).deadlines.contains a
      = (!(key == a) && s.deadlines.contains a) := DenseMap.contains_erase h.deadlines key a
  have hothers (a : Bytes) (hne : key ≠ a) :
      (s.eraseDeadline key).deadlines.contains a = s.deadlines.contains a := by
    rw [hcontains, beq_eq_false_iff_ne.mpr hne, Bool.not_false, Bool.true_and]
  rw [charged_eq h (s.eraseDeadline key) (h.main.perm_erase hkey) hothers, hcontains,
    beq_self_eq_true, Bool.not_true, Bool.false_and]

theorem Sound.charged_setEntry (h : s.Sound) (key : Bytes) (entry : Entry) :
    (s.setEntry key entry).charged
      = charge key entry.value (s.deadlines.contains key) + (s.erase key).charged :=
  charged_eq h (s.setEntry key entry) (h.main.perm_insert key entry) fun _ _ => rfl

theorem Sound.count_le_charged (h : s.Sound) (scope : Scope) : s.count scope ≤ s.charged := by
  have hmain : s.main.size ≤ s.charged := by
    rw [← DenseMap.length_toList]
    refine length_le_tally fun e _ => ?_
    unfold charge entryOverhead
    omega
  cases scope with
  | all => exact hmain
  | volatile => exact Nat.le_trans (h.deadlines.size_le h.main h.subset) hmain

end SampledEviction.Keyspace.Shard
