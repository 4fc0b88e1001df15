import Mathlib.Data.Finmap
import SampledEviction.Proofs.DenseMap

/-!
# Dense maps beside plain ones

A dense map answers every access as a plain finite map does that went through the same accesses.
Between any two of them its entries and its index are in bijection, wherever removals have moved
the entries to.

* `Sound.paired` — entries and index in bijection
* `Agrees.answer` — one access keeps a dense map and a plain map in agreement, with the same answer
* `answer_eq_plain` — any accesses to a new map
-/

namespace SampledEviction

/-! ## Plain maps -/

/-- Finitely many keys, each with a value. -/
abbrev FiniteMap (α β : Type) := Finmap fun _ : α => β

namespace FiniteMap

variable {α β : Type} [DecidableEq α]

theorem lookup_insert_eq (p : FiniteMap α β) (k : α) (v : β) (a : α) :
    (p.insert k v).lookup a = if k = a then some v else p.lookup a := by
  by_cases hka : k = a
  · subst hka
    rw [if_pos rfl, Finmap.lookup_insert]
  · rw [if_neg hka, Finmap.lookup_insert_of_ne _ (Ne.symm hka)]

theorem lookup_erase_eq (p : FiniteMap α β) (k a : α) :
    (p.erase k).lookup a = if k = a then none else p.lookup a := by
  by_cases hka : k = a
  · subst hka
    rw [if_pos rfl, Finmap.lookup_erase]
  · rw [if_neg hka, Finmap.lookup_erase_ne (Ne.symm hka)]

end FiniteMap

namespace DenseMap

/-! ## Accesses -/

/-- What may be asked of a map. -/
inductive Access (α β : Type) where
  | insert (k : α) (v : β)
  | remove (k : α)
  /-- Hands out the value of a key, to be changed where it is. -/
  | change (k : α) (f : β → β)
  | clear
  | get (k : α)
  | contains (k : α)
  | size

/-- What is answered. -/
inductive Answer (β : Type) where
  /-- The value that a key has, or had before it was written. -/
  | value (found : Option β)
  | flag (yes : Bool)
  | number (n : Nat)
  | done
  deriving DecidableEq

section Accesses

variable {α β : Type} [BEq α] [Hashable α]

/-- Answers an access. -/
def answer (m : DenseMap α β) : Access α β → Answer β × DenseMap α β
  | .insert k v => (m.exchange k v).map .value id
  | .remove k => (m.remove k).map .value id
  | .change k f => (.value (m.get? k), m.modify k f)
  | .clear => (.done, empty)
  | .get k => (.value (m.get? k), m)
  | .contains k => (.flag (m.contains k), m)
  | .size => (.number m.size, m)

/-- A new map after some accesses. -/
def after (history : List (Access α β)) : DenseMap α β :=
  history.foldl (fun m c => (m.answer c).2) empty

end Accesses

end DenseMap

namespace FiniteMap

variable {α β : Type} [DecidableEq α]

/-- What a plain map answers. -/
def answer (p : FiniteMap α β) : DenseMap.Access α β → DenseMap.Answer β × FiniteMap α β
  | .insert k v => (.value (p.lookup k), p.insert k v)
  | .remove k => (.value (p.lookup k), p.erase k)
  | .change k f =>
    match p.lookup k with
    | some v => (.value (some v), p.insert k (f v))
    | none => (.value none, p)
  | .clear => (.done, ∅)
  | .get k => (.value (p.lookup k), p)
  | .contains k => (.flag (p.lookup k).isSome, p)
  | .size => (.number p.keys.card, p)

/-- An empty plain map after some accesses. -/
def after (history : List (DenseMap.Access α β)) : FiniteMap α β :=
  history.foldl (fun p c => (p.answer c).2) ∅

end FiniteMap

namespace DenseMap

variable {α β : Type} [BEq α] [Hashable α] {m : DenseMap α β} {k a : α} {v : β}

/-! ## Entries and index -/

/-- The entries and the index are in bijection: the index tells the position of every entry, and of
nothing else, and no key is entered twice. -/
structure Paired (m : DenseMap α β) : Prop where
  index_iff (k : α) (i : Nat) : m.index[k]? = some i ↔ ∃ v, m.entries[i]? = some (k, v)
  nodup : (m.toList.map (·.1)).Nodup
  indexed (i : Nat) (h : i < m.entries.size) : m.index[m.entries[i].1]? = some i
  size : m.index.size = m.entries.size

theorem Sound.indexed (h : m.Sound) (i : Nat) (hi : i < m.entries.size) :
    m.index[m.entries[i].1]? = some i :=
  (h _ i).mpr ⟨m.entries[i].2, Array.getElem?_eq_getElem hi⟩

theorem fst_exchange (m : DenseMap α β) (k : α) (v : β) : (m.exchange k v).1 = m.get? k := by
  unfold exchange
  dsimp only
  cases hk : m.index[k]? with
  | none => exact (get?_of_index_none hk).symm
  | some i => exact (get?_of_index hk).symm

theorem fst_remove (m : DenseMap α β) (k : α) : (m.remove k).1 = m.get? k := by
  unfold remove
  dsimp only
  cases hk : m.index[k]? with
  | none => exact (get?_of_index_none hk).symm
  | some i =>
    rw [get?_of_index hk]
    dsimp only
    split <;> rfl

section Lawful

variable [LawfulBEq α]

/-- The index has a key for each entry. -/
theorem Sound.size_index (h : m.Sound) : m.index.size = m.entries.size := by
  have hsame : m.index.keys.Perm (m.toList.map (·.1)) := by
    refine (List.perm_ext_iff_of_nodup Std.HashMap.nodup_keys h.nodup_keys).mpr fun k => ?_
    rw [Std.HashMap.mem_keys, h.mem_keys_iff]
    exact Std.HashMap.mem_iff_contains
  rw [← Std.HashMap.length_keys, hsame.length_eq, List.length_map, length_toList]
  rfl

theorem Sound.paired (h : m.Sound) : m.Paired := ⟨h, h.nodup_keys, h.indexed, h.size_index⟩

/-! ## Agreement -/

variable [DecidableEq α] {p : FiniteMap α β}

/-- A dense map and a plain map have the same value for every key. -/
structure Agrees (m : DenseMap α β) (p : FiniteMap α β) : Prop where
  sound : m.Sound
  get? (a : α) : m.get? a = p.lookup a

theorem agrees_empty : Agrees (empty : DenseMap α β) ∅ where
  sound := sound_empty
  get? a := by rw [get?_empty, Finmap.lookup_empty]

theorem Agrees.contains (h : Agrees m p) (a : α) : m.contains a = (p.lookup a).isSome := by
  rw [h.sound.contains_eq, h.get?]

/-- Both have as many keys. -/
theorem Agrees.card_keys (h : Agrees m p) : p.keys.card = m.size := by
  have hkeys : p.keys = (m.toList.map (·.1)).toFinset := by
    ext a
    rw [List.mem_toFinset, h.sound.mem_keys_iff, h.contains, Finmap.mem_keys, Finmap.lookup_isSome]
  rw [hkeys, List.toFinset_card_of_nodup h.sound.nodup_keys, List.length_map, length_toList]

theorem Agrees.insert (h : Agrees m p) (k : α) (v : β) : Agrees (m.insert k v) (p.insert k v) where
  sound := h.sound.insert k v
  get? a := by simp only [get?_insert h.sound, FiniteMap.lookup_insert_eq, h.get?, beq_iff_eq]

theorem Agrees.erase (h : Agrees m p) (k : α) : Agrees (m.erase k) (p.erase k) where
  sound := h.sound.erase k
  get? a := by simp only [get?_erase h.sound, FiniteMap.lookup_erase_eq, h.get?, beq_iff_eq]

/-- An access gets the same answer from both, and leaves them in agreement. -/
theorem Agrees.answer (h : Agrees m p) (c : Access α β) :
    (m.answer c).1 = (p.answer c).1 ∧ Agrees (m.answer c).2 (p.answer c).2 := by
  cases c with
  | insert k v =>
    have hold : (m.exchange k v).1 = p.lookup k := (fst_exchange m k v).trans (h.get? k)
    exact ⟨congrArg Answer.value hold, h.insert k v⟩
  | remove k =>
    have hold : (m.remove k).1 = p.lookup k := (fst_remove m k).trans (h.get? k)
    exact ⟨congrArg Answer.value hold, h.erase k⟩
  | change k f =>
    have hget := h.get? k
    simp only [DenseMap.answer, FiniteMap.answer]
    cases hk : p.lookup k with
    | none =>
      rw [hk] at hget
      rw [modify_of_get?_none h.sound hget]
      exact ⟨congrArg Answer.value hget, h⟩
    | some v =>
      rw [hk] at hget
      rw [modify_eq_insert h.sound hget]
      exact ⟨congrArg Answer.value hget, h.insert k (f v)⟩
  | clear => exact ⟨rfl, agrees_empty⟩
  | get k => exact ⟨congrArg Answer.value (h.get? k), h⟩
  | contains k => exact ⟨congrArg Answer.flag (h.contains k), h⟩
  | size => exact ⟨congrArg Answer.number h.card_keys.symm, h⟩

/-- A dense map and a plain map agree after the same accesses. -/
theorem agrees_after (history : List (Access α β)) :
    Agrees (after history) (FiniteMap.after history) :=
  List.foldl_rel agrees_empty fun c _ _ _ h => (h.answer c).2

/-- After any accesses to a new map, its entries and its index are in bijection, and it answers the
next access as a plain map does that went through the same accesses. The removal of a key leaves
all others with their values. A pick, at a position that is drawn from those there are, yields an
entry, and nothing only if there is none; a random entry is such a pick. -/
theorem answer_eq_plain (history : List (Access α β)) :
    (after history).Paired ∧
    (∀ c, ((after history).answer c).1 = ((FiniteMap.after history).answer c).1) ∧
    (∀ k a, k ≠ a → ((after history).remove k).2.get? a = (after history).get? a) ∧
    ∀ {γ : Type} (below : Nat → γ → Nat × γ), (∀ n g, 0 < n → (below n g).1 < n) → ∀ g,
      (((after history).pick below g).1 = none ↔ (after history).isEmpty = true) ∧
      ∀ e, ((after history).pick below g).1 = some e →
        e ∈ (after history).toList ∧ (after history).get? e.1 = some e.2 := by
  have h := agrees_after history
  refine ⟨h.sound.paired, fun c => (h.answer c).1, ?_, ?_⟩
  · intro k a hka
    have herase : ((after history).erase k).get? a = (after history).get? a := by
      rw [get?_erase h.sound, if_neg (by simpa using hka)]
    exact herase
  · intro γ below hbelow g
    have hempty : (after history).isEmpty = true ↔ (after history).size = 0 := isEmpty_iff
    by_cases hsize : (after history).size = 0
    · rw [pick_of_size_eq_zero hsize]
      exact ⟨iff_of_true rfl (hempty.mpr hsize), nofun⟩
    · obtain ⟨e, g', hpick, he⟩ := exists_pick hbelow hsize g
      rw [hpick]
      refine ⟨iff_of_false nofun (mt hempty.mp hsize), ?_⟩
      intro e' heq
      cases heq
      exact ⟨he, h.sound.mem_toList_iff.mp he⟩

end Lawful

/-- The last of three entries moves into the hole that the first leaves, and is then removed
itself. -/
def movedHistory : List (Access Bytes Nat) :=
  [.insert ⟨#[0x61]⟩ 1, .insert ⟨#[0x62]⟩ 2, .insert ⟨#[0x63]⟩ 3, .remove ⟨#[0x61]⟩,
    .change ⟨#[0x62]⟩ (· * 10), .remove ⟨#[0x63]⟩]

theorem answer_eq_plain_moved :
    (after movedHistory).Paired ∧
    ((after movedHistory).answer (.get ⟨#[0x62]⟩)).1 = .value (some 20) ∧
    ((after movedHistory).answer (.remove ⟨#[0x63]⟩)).1 = .value none ∧
    ((after movedHistory).answer .size).1 = .number 1 ∧
    ((after movedHistory).remove ⟨#[0x61]⟩).2.get? ⟨#[0x62]⟩
      = (after movedHistory).get? ⟨#[0x62]⟩ ∧
    (∀ n g, 0 < n → (Xoshiro.below n g).1 < n) ∧
    ∀ g, ((after movedHistory).random g).1 ≠ none := by
  have hbelow : ∀ n g, 0 < n → (Xoshiro.below n g).1 < n := fun _ g hn => Xoshiro.below_lt hn g
  obtain ⟨hpaired, hanswer, hothers, hpick⟩ := answer_eq_plain movedHistory
  have hone : (after movedHistory).size = 1 := Answer.number.inj ((hanswer .size).trans (by decide))
  refine ⟨hpaired, (hanswer _).trans (by decide), (hanswer _).trans (by decide),
    (hanswer _).trans (by decide), hothers _ _ (by decide), hbelow, ?_⟩
  intro g hnone
  have hempty := isEmpty_iff.mp ((hpick Xoshiro.below hbelow g).1.mp hnone)
  omega

end DenseMap

end SampledEviction
