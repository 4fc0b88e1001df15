import SampledEviction.DenseMap
import SampledEviction.Proofs.Tally

/-!
# Dense maps are finite maps

A map is sound if its index and its entries say the same. Every operation keeps a map sound,
and a sound map reads as the finite map of what was written.

* `Sound.insert`, `Sound.modify`, `Sound.erase` — what is kept
* `get?_insert`, `get?_erase` — what is read afterwards
* `Sound.perm_insert`, `Sound.perm_erase` — what becomes of the list of entries
* `exists_pick`, `exists_random` — a random entry is an entry
-/

namespace SampledEviction.DenseMap

/-! ## Filling a hole -/

/-- The array whose last element has moved to position `i`. -/
def fillHole {γ : Type} (xs : Array γ) (i : Nat) : Array γ :=
  (xs.swapIfInBounds i (xs.size - 1)).pop

theorem getElem?_fillHole {γ : Type} {xs : Array γ} {i : Nat} (hi : i < xs.size) (j : Nat) :
    (fillHole xs i)[j]?
      = if j < xs.size - 1 then (if j = i then xs[xs.size - 1]? else xs[j]?) else none := by
  have hlast : xs.size - 1 < xs.size := by omega
  rw [fillHole, Array.getElem?_pop, Array.size_swapIfInBounds, Array.swapIfInBounds_def,
    dif_pos hi, dif_pos hlast]
  by_cases hj : j < xs.size - 1
  · rw [if_pos hj, if_pos hj, Array.getElem?_swap]
    by_cases hji : j = i
    · subst hji
      simp [Array.getElem?_eq_getElem hlast]
      omega
    · have hne : xs.size - 1 ≠ j := by omega
      simp [hji, hne, show i ≠ j from fun h => hji h.symm]
  · rw [if_neg hj, if_neg hj]

variable {α β : Type} [BEq α] [Hashable α] {m : DenseMap α β} {k a : α} {v : β} {i : Nat}

/-- The index holds the position of every key in the entries, and nothing else. -/
def Sound (m : DenseMap α β) : Prop :=
  ∀ (k : α) (i : Nat), m.index[k]? = some i ↔ ∃ v, m.entries[i]? = some (k, v)

/-! ## Reading -/

theorem length_toList (m : DenseMap α β) : m.toList.length = m.size := Array.length_toList

theorem get?_of_index (h : m.index[k]? = some i) : m.get? k = m.entries[i]?.map (·.2) := by
  unfold get?
  cases hi : m.entries[i]? <;> simp [h, hi]

theorem get?_of_index_none (h : m.index[k]? = none) : m.get? k = none := by
  simp [get?, h]

/-- A key has a value exactly if it stands with it at some position. -/
theorem Sound.get?_eq_some_iff (h : m.Sound) :
    m.get? k = some v ↔ ∃ i : Nat, m.entries[i]? = some (k, v) := by
  constructor
  · intro hget
    cases hk : m.index[k]? with
    | none => rw [get?_of_index_none hk] at hget; cases hget
    | some i =>
      obtain ⟨w, hw⟩ := (h k i).mp hk
      rw [get?_of_index hk, hw, Option.map_some] at hget
      cases hget
      exact ⟨i, hw⟩
  · rintro ⟨i, hi⟩
    rw [get?_of_index ((h k i).mpr ⟨v, hi⟩), hi, Option.map_some]

theorem Sound.mem_toList_iff (h : m.Sound) : (k, v) ∈ m.toList ↔ m.get? k = some v := by
  rw [h.get?_eq_some_iff, toList, Array.mem_toList_iff, Array.mem_iff_getElem?]

/-- No two positions hold the same key. -/
theorem Sound.nodup_keys (h : m.Sound) : (m.toList.map (·.1)).Nodup := by
  rw [List.Nodup, List.pairwise_map, List.pairwise_iff_getElem]
  intro i j hi hj hij heq
  have hentry (n : Nat) (hn : n < m.toList.length) :
      m.index[(m.toList[n]).1]? = some n := by
    refine (h _ n).mpr ⟨(m.toList[n]).2, ?_⟩
    rw [← Array.getElem?_toList]
    exact List.getElem?_eq_getElem hn
  have hsame := hentry i hi
  rw [heq, hentry j hj, Option.some.injEq] at hsame
  omega

theorem Sound.nodup (h : m.Sound) : m.toList.Nodup :=
  (List.pairwise_map.mp h.nodup_keys).imp fun hne heq => hne (congrArg Prod.fst heq)

theorem Sound.position_unique (h : m.Sound) {j : Nat} {w : β} (hi : m.entries[i]? = some (k, v))
    (hj : m.entries[j]? = some (k, w)) : i = j :=
  Option.some.inj (((h k i).mpr ⟨v, hi⟩).symm.trans ((h k j).mpr ⟨w, hj⟩))

/-! ## Writing

What becomes of the entries and of the index. -/

/-- The map with another value at a position. -/
def modifyAt (m : DenseMap α β) (i : Nat) (f : β → β) : DenseMap α β :=
  ⟨m.entries.modify i fun e => (e.1, f e.2), m.index⟩

theorem Sound.modifyAt (h : m.Sound) (i : Nat) (f : β → β) : (m.modifyAt i f).Sound := by
  intro k j
  rw [show (m.modifyAt i f).index[k]? = m.index[k]? from rfl, h k j]
  simp only [DenseMap.modifyAt, Array.getElem?_modify]
  by_cases hij : i = j
  · subst hij
    cases hi : m.entries[i]? with
    | none => simp
    | some e => simp [Prod.ext_iff]
  · simp [hij]

theorem modify_of_index (hk : m.index[k]? = some i) (f : β → β) :
    m.modify k f = m.modifyAt i f := by
  simp only [modify, hk, modifyAt]

theorem modify_of_index_none (hk : m.index[k]? = none) (f : β → β) : m.modify k f = m := by
  simp only [modify, hk]

theorem Sound.modify (h : m.Sound) (k : α) (f : β → β) : (m.modify k f).Sound := by
  cases hk : m.index[k]? with
  | none => rwa [modify_of_index_none hk]
  | some i =>
    rw [modify_of_index hk]
    exact h.modifyAt i f

theorem insert_of_index (hk : m.index[k]? = some i) (v : β) :
    m.insert k v = m.modifyAt i fun _ => v := by
  simp only [insert, exchange, hk, modifyAt]

theorem insert_of_index_none (hk : m.index[k]? = none) (v : β) :
    m.insert k v = ⟨m.entries.push (k, v), m.index.insert k m.entries.size⟩ := by
  simp only [insert, exchange, hk]

/-- Changing a value is inserting the changed one. -/
theorem modify_eq_insert (h : m.Sound) (hk : m.get? k = some v) (f : β → β) :
    m.modify k f = m.insert k (f v) := by
  obtain ⟨i, hi⟩ := h.get?_eq_some_iff.mp hk
  have hindex := (h k i).mpr ⟨v, hi⟩
  rw [modify_of_index hindex, insert_of_index hindex, modifyAt, modifyAt]
  congr 1
  refine Array.ext_getElem? fun j => ?_
  rw [Array.getElem?_modify, Array.getElem?_modify]
  split
  · rename_i hij
    rw [← hij, hi]
    rfl
  · rfl

theorem erase_of_index_none (hk : m.index[k]? = none) : m.erase k = m := by
  simp only [erase, remove, hk]

theorem entries_erase (hk : m.index[k]? = some i) :
    (m.erase k).entries = fillHole m.entries i := by
  simp only [erase, remove, hk, fillHole]
  split <;> rfl

theorem index_erase (hk : m.index[k]? = some i) :
    (m.erase k).index = match (fillHole m.entries i)[i]? with
      | some moved => (m.index.erase k).modify moved.1 fun _ => i
      | none => m.index.erase k := by
  simp only [erase, remove, hk, fillHole]
  cases (m.entries.swapIfInBounds i (m.entries.size - 1)).pop[i]? with
  | none => rfl
  | some moved => rfl

/-- The position of an entry after the hole at `i` was filled, in a map of `n` entries. -/
def refilled (n i p : Nat) : Nat := if p = n - 1 then i else p

/-- What is left when a key is removed, and where it stands. -/
theorem Sound.getElem?_entries_erase (h : m.Sound) (hk : m.index[k]? = some i) (j : Nat) :
    (m.erase k).entries[j]? = some (a, v)
      ↔ k ≠ a ∧ ∃ p, m.entries[p]? = some (a, v) ∧ j = refilled m.entries.size i p := by
  obtain ⟨w, hw⟩ := (h k i).mp hk
  obtain ⟨hi, -⟩ := Array.getElem?_eq_some_iff.mp hw
  rw [entries_erase hk, getElem?_fillHole hi]
  constructor
  · intro hj
    split at hj
    · rename_i hlt
      split at hj
      · rename_i hji
        refine ⟨?_, _, hj, by simp [refilled, hji]⟩
        rintro rfl
        have := h.position_unique hw hj
        omega
      · rename_i hji
        refine ⟨?_, j, hj, by simp [refilled]; omega⟩
        rintro rfl
        exact hji (h.position_unique hj hw)
    · cases hj
  · rintro ⟨hne, p, hp, rfl⟩
    obtain ⟨hlt, -⟩ := Array.getElem?_eq_some_iff.mp hp
    have hpi : p ≠ i := by
      rintro rfl
      rw [hp, Option.some.injEq, Prod.mk.injEq] at hw
      exact hne hw.1.symm
    unfold refilled
    by_cases hlast : p = m.entries.size - 1
    · subst hlast
      rw [if_pos rfl, if_pos (by omega), if_pos rfl]
      exact hp
    · rw [if_neg hlast, if_pos (by omega), if_neg hpi]
      exact hp

theorem Sound.map_refilled (h : m.Sound) {last : α × β}
    (hlast : m.entries[m.entries.size - 1]? = some last) (hne : last.1 ≠ a) :
    (m.index[a]?).map (refilled m.entries.size i) = m.index[a]? := by
  cases ha : m.index[a]? with
  | none => rfl
  | some p =>
    have hp : p ≠ m.entries.size - 1 := by
      rintro rfl
      obtain ⟨v, hv⟩ := (h a _).mp ha
      rw [hlast, Option.some.injEq] at hv
      exact hne (congrArg Prod.fst hv)
    simp [refilled, hp]

/-! ## Missing keys -/

theorem Sound.index_of_get?_none (h : m.Sound) (hk : m.get? k = none) : m.index[k]? = none := by
  cases hi : m.index[k]? with
  | none => rfl
  | some i =>
    obtain ⟨v, hv⟩ := (h k i).mp hi
    rw [get?_of_index hi, hv] at hk
    cases hk

theorem erase_of_get?_none (h : m.Sound) (hk : m.get? k = none) : m.erase k = m :=
  erase_of_index_none (h.index_of_get?_none hk)

theorem modify_of_get?_none (h : m.Sound) (hk : m.get? k = none) (f : β → β) : m.modify k f = m :=
  modify_of_index_none (h.index_of_get?_none hk) f

/-! ## Random entries -/

theorem isEmpty_iff : m.entries.isEmpty = true ↔ m.size = 0 := by
  rw [Array.isEmpty_iff_size_eq_zero]
  rfl

section Random

variable {γ : Type} {below : Nat → γ → Nat × γ}

/-- A map that is not empty has an entry at every position below its size. -/
theorem exists_pick (hbelow : ∀ n g, 0 < n → (below n g).1 < n) (hsize : m.size ≠ 0) (g : γ) :
    ∃ e g', m.pick below g = (some e, g') ∧ e ∈ m.toList := by
  have hlt := hbelow m.entries.size g (Nat.pos_of_ne_zero hsize)
  refine ⟨m.entries[(below m.entries.size g).1], (below m.entries.size g).2, ?_, ?_⟩
  · unfold pick
    rw [if_neg (mt isEmpty_iff.mp hsize)]
    exact Prod.ext (Array.getElem?_eq_getElem hlt) rfl
  · exact Array.mem_toList_iff.mpr (Array.getElem_mem hlt)

theorem pick_of_size_eq_zero (hsize : m.size = 0) (g : γ) : m.pick below g = (none, g) := by
  unfold pick
  rw [if_pos (isEmpty_iff.mpr hsize)]

end Random

/-- A map that is not empty has a random entry, whatever the generator puts out. -/
theorem exists_random (hsize : m.size ≠ 0) (g : Xoshiro) :
    ∃ e g', m.random g = (some e, g') ∧ e ∈ m.toList :=
  exists_pick (fun _ g hn => Xoshiro.below_lt hn g) hsize g

theorem random_of_size_eq_zero (hsize : m.size = 0) (g : Xoshiro) : m.random g = (none, g) :=
  pick_of_size_eq_zero hsize g

/-! ## Lawful keys -/

theorem get?_empty (k : α) : (empty : DenseMap α β).get? k = none :=
  get?_of_index_none Std.HashMap.getElem?_empty

variable [LawfulBEq α]

theorem sound_empty : (empty : DenseMap α β).Sound := by
  intro k i
  simp [empty]

theorem Sound.contains_eq (h : m.Sound) (k : α) : m.contains k = (m.get? k).isSome := by
  unfold contains
  rw [Std.HashMap.contains_eq_isSome_getElem?]
  cases hk : m.index[k]? with
  | none => rw [get?_of_index_none hk]; rfl
  | some i =>
    obtain ⟨v, hv⟩ := (h k i).mp hk
    rw [get?_of_index hk, hv]
    rfl

theorem Sound.contains_iff (h : m.Sound) : m.contains k = true ↔ ∃ v, m.get? k = some v := by
  rw [h.contains_eq, Option.isSome_iff_exists]

theorem Sound.mem_keys_iff (h : m.Sound) : k ∈ m.toList.map (·.1) ↔ m.contains k = true := by
  rw [h.contains_iff]
  constructor
  · intro hk
    obtain ⟨⟨k', v⟩, he, rfl⟩ := List.mem_map.mp hk
    exact ⟨v, h.mem_toList_iff.mp he⟩
  · rintro ⟨v, hv⟩
    exact List.mem_map.mpr ⟨(k, v), h.mem_toList_iff.mpr hv, rfl⟩

theorem get?_modifyAt (h : m.Sound) (hk : m.index[k]? = some i) (f : β → β) (a : α) :
    (m.modifyAt i f).get? a = if k == a then (m.get? k).map f else m.get? a := by
  obtain ⟨v, hv⟩ := (h k i).mp hk
  by_cases hka : (k == a) = true
  · obtain rfl := eq_of_beq hka
    rw [if_pos hka, get?_of_index (m := m) hk, get?_of_index (m := m.modifyAt i f) hk]
    simp [modifyAt, Array.getElem?_modify, hv]
  · rw [if_neg hka]
    cases ha : m.index[a]? with
    | none => rw [get?_of_index_none (m := m) ha, get?_of_index_none (m := m.modifyAt i f) ha]
    | some j =>
      have hij : i ≠ j := by
        rintro rfl
        obtain ⟨w, hw⟩ := (h a i).mp ha
        rw [hv, Option.some.injEq, Prod.mk.injEq] at hw
        exact hka (beq_of_eq hw.1)
      rw [get?_of_index (m := m) ha, get?_of_index (m := m.modifyAt i f) ha]
      simp [modifyAt, Array.getElem?_modify, hij]

/-! ## Inserting -/

theorem Sound.insert (h : m.Sound) (k : α) (v : β) : (m.insert k v).Sound := by
  cases hk : m.index[k]? with
  | some i =>
    rw [insert_of_index hk]
    exact h.modifyAt i fun _ => v
  | none =>
    rw [insert_of_index_none hk]
    have hnew : ∀ (j : Nat) (w : β), m.entries[j]? ≠ some (k, w) := by
      intro j w hj
      have hindex := (h k j).mpr ⟨w, hj⟩
      rw [hk] at hindex
      cases hindex
    intro a j
    simp only [Std.HashMap.getElem?_insert, Array.getElem?_push]
    by_cases hka : (k == a) = true
    · obtain rfl := eq_of_beq hka
      rw [if_pos hka]
      constructor
      · intro hj
        exact ⟨v, by rw [if_pos (Option.some.inj hj).symm]⟩
      · rintro ⟨w, hw⟩
        by_cases hj : j = m.entries.size
        · rw [hj]
        · rw [if_neg hj] at hw
          exact absurd hw (hnew j w)
    · rw [if_neg hka, h a j]
      by_cases hj : j = m.entries.size
      · subst hj
        simp [show k ≠ a from fun heq => hka (beq_of_eq heq)]
      · simp [hj]

theorem get?_insert (h : m.Sound) (k : α) (v : β) (a : α) :
    (m.insert k v).get? a = if k == a then some v else m.get? a := by
  have hsound := h.insert k v
  cases hk : m.index[k]? with
  | some i =>
    rw [insert_of_index hk, get?_modifyAt h hk]
    obtain ⟨w, hw⟩ := (h k i).mp hk
    rw [get?_of_index hk, hw]
    rfl
  | none =>
    rw [insert_of_index_none hk] at hsound ⊢
    by_cases hka : (k == a) = true
    · obtain rfl := eq_of_beq hka
      rw [if_pos hka]
      exact hsound.get?_eq_some_iff.mpr ⟨m.entries.size, Array.getElem?_push_size⟩
    · rw [if_neg hka]
      ext w
      rw [hsound.get?_eq_some_iff, h.get?_eq_some_iff]
      simp only [Array.getElem?_push]
      have hne : k ≠ a := fun heq => hka (beq_of_eq heq)
      constructor
      · rintro ⟨j, hj⟩
        split at hj
        · cases hj
          exact absurd rfl hne
        · exact ⟨j, hj⟩
      · rintro ⟨j, hj⟩
        obtain ⟨hlt, -⟩ := Array.getElem?_eq_some_iff.mp hj
        exact ⟨j, by rw [if_neg (Nat.ne_of_lt hlt)]; exact hj⟩

/-! ## Removing -/

theorem Sound.getElem?_index_erase (h : m.Sound) (hk : m.index[k]? = some i) (a : α) :
    (m.erase k).index[a]?
      = if k == a then none else (m.index[a]?).map (refilled m.entries.size i) := by
  obtain ⟨w, hw⟩ := (h k i).mp hk
  obtain ⟨hi, -⟩ := Array.getElem?_eq_some_iff.mp hw
  rw [index_erase hk, getElem?_fillHole hi, if_pos rfl]
  split
  · -- the last entry moves into the hole
    rename_i moved hmoved
    split at hmoved
    · rename_i hlt
      have hlast : m.index[moved.1]? = some (m.entries.size - 1) := (h _ _).mpr ⟨moved.2, hmoved⟩
      have hne : k ≠ moved.1 := by
        rintro rfl
        rw [hk, Option.some.injEq] at hlast
        omega
      rw [Std.HashMap.getElem?_modify, Std.HashMap.getElem?_erase, Std.HashMap.getElem?_erase]
      by_cases hma : (moved.1 == a) = true
      · obtain rfl := eq_of_beq hma
        have hka : ¬ (k == moved.1) = true := by simpa using hne
        rw [if_pos hma, if_neg hka, if_neg hka, hlast]
        simp [refilled]
      · rw [if_neg hma, h.map_refilled hmoved fun heq => hma (beq_of_eq heq)]
    · cases hmoved
  · rename_i hnone
    -- the key was the last one, and nothing moves into its place
    have hend : i = m.entries.size - 1 := by
      split at hnone
      · rw [Array.getElem?_eq_none_iff] at hnone
        omega
      · omega
    rw [Std.HashMap.getElem?_erase]
    split
    · rfl
    · rename_i hka
      rw [hend] at hw
      rw [h.map_refilled hw fun heq => hka (beq_of_eq heq)]

theorem Sound.erase (h : m.Sound) (k : α) : (m.erase k).Sound := by
  cases hk : m.index[k]? with
  | none => rwa [erase_of_index_none hk]
  | some i =>
    intro a j
    rw [h.getElem?_index_erase hk]
    simp only [h.getElem?_entries_erase hk]
    by_cases hka : (k == a) = true
    · obtain rfl := eq_of_beq hka
      simp
    · rw [if_neg hka, Option.map_eq_some_iff]
      have hne : k ≠ a := fun heq => hka (beq_of_eq heq)
      constructor
      · rintro ⟨p, hp, rfl⟩
        obtain ⟨v, hv⟩ := (h a p).mp hp
        exact ⟨v, hne, p, hv, rfl⟩
      · rintro ⟨v, -, p, hp, rfl⟩
        exact ⟨p, (h a p).mpr ⟨v, hp⟩, rfl⟩

theorem get?_erase (h : m.Sound) (k a : α) :
    (m.erase k).get? a = if k == a then none else m.get? a := by
  cases hk : m.index[k]? with
  | none =>
    rw [erase_of_index_none hk]
    split
    · rename_i hka
      obtain rfl := eq_of_beq hka
      exact get?_of_index_none hk
    · rfl
  | some i =>
    ext v
    rw [(h.erase k).get?_eq_some_iff]
    simp only [h.getElem?_entries_erase hk]
    by_cases hka : (k == a) = true
    · obtain rfl := eq_of_beq hka
      simp
    · rw [if_neg hka, h.get?_eq_some_iff]
      have hne : k ≠ a := fun heq => hka (beq_of_eq heq)
      constructor
      · rintro ⟨_, -, p, hp, -⟩
        exact ⟨p, hp⟩
      · rintro ⟨p, hp⟩
        exact ⟨_, hne, p, hp, rfl⟩

/-! ## The list of entries -/

theorem Sound.mem_erase_iff (h : m.Sound) :
    (a, v) ∈ (m.erase k).toList ↔ k ≠ a ∧ (a, v) ∈ m.toList := by
  rw [(h.erase k).mem_toList_iff, h.mem_toList_iff, get?_erase h]
  by_cases hka : (k == a) = true
  · simp [eq_of_beq hka]
  · simp [hka, show k ≠ a from fun heq => hka (beq_of_eq heq)]

theorem Sound.nodup_cons_erase (h : m.Sound) (k : α) (v : β) :
    ((k, v) :: (m.erase k).toList).Nodup :=
  List.nodup_cons.mpr ⟨fun hmem => (h.mem_erase_iff.mp hmem).1 rfl, (h.erase k).nodup⟩

/-- Erasing a key takes its entry out of the list. -/
theorem Sound.perm_erase (h : m.Sound) (hk : m.get? k = some v) :
    m.toList.Perm ((k, v) :: (m.erase k).toList) := by
  refine (List.perm_ext_iff_of_nodup h.nodup (h.nodup_cons_erase k v)).mpr ?_
  rintro ⟨a, w⟩
  rw [List.mem_cons, h.mem_erase_iff]
  constructor
  · intro hmem
    by_cases hka : k = a
    · subst hka
      rw [h.mem_toList_iff, hk, Option.some.injEq] at hmem
      exact Or.inl (by rw [hmem])
    · exact Or.inr ⟨hka, hmem⟩
  · rintro (heq | ⟨-, hmem⟩)
    · cases heq
      exact h.mem_toList_iff.mpr hk
    · exact hmem

/-- Inserting a key puts its entry into the list, in place of any other entry of the key. -/
theorem Sound.perm_insert (h : m.Sound) (k : α) (v : β) :
    (m.insert k v).toList.Perm ((k, v) :: (m.erase k).toList) := by
  refine (List.perm_ext_iff_of_nodup (h.insert k v).nodup (h.nodup_cons_erase k v)).mpr ?_
  rintro ⟨a, w⟩
  rw [List.mem_cons, (h.insert k v).mem_toList_iff, get?_insert h, h.mem_erase_iff,
    h.mem_toList_iff, Prod.mk.injEq]
  by_cases hka : k = a
  · subst hka
    simp [eq_comm]
  · simp [hka, show a ≠ k from fun heq => hka heq.symm]

theorem contains_insert (h : m.Sound) (k : α) (v : β) (a : α) :
    (m.insert k v).contains a = (k == a || m.contains a) := by
  rw [(h.insert k v).contains_eq, h.contains_eq, get?_insert h]
  cases hka : k == a <;> simp

theorem contains_erase (h : m.Sound) (k a : α) :
    (m.erase k).contains a = (!(k == a) && m.contains a) := by
  rw [(h.erase k).contains_eq, h.contains_eq, get?_erase h]
  cases hka : k == a <;> simp

theorem Sound.contains_of_mem (h : m.Sound) {e : α × β} (he : e ∈ m.toList) :
    m.contains e.1 = true :=
  h.contains_iff.mpr ⟨e.2, h.mem_toList_iff.mp he⟩

theorem Sound.size_erase (h : m.Sound) (hk : m.get? k = some v) :
    (m.erase k).size + 1 = m.size := by
  rw [← length_toList, ← length_toList, (h.perm_erase hk).length_eq, List.length_cons]

theorem Sound.size_erase_le (h : m.Sound) (k : α) : (m.erase k).size ≤ m.size := by
  cases hk : m.get? k with
  | none => exact Nat.le_of_eq (congrArg DenseMap.size (erase_of_get?_none h hk))
  | some v =>
    have hsize := h.size_erase hk
    omega

/-- A map has no more entries than one with all its keys. -/
theorem Sound.size_le {γ : Type} {m' : DenseMap α γ} (h : m.Sound) (h' : m'.Sound)
    (hkeys : ∀ k, m.contains k = true → m'.contains k = true) : m.size ≤ m'.size := by
  have hsubset : m.toList.map (·.1) ⊆ m'.toList.map (·.1) := by
    intro k hk
    obtain ⟨e, he, rfl⟩ := List.mem_map.mp hk
    obtain ⟨w, hw⟩ := h'.contains_iff.mp (hkeys e.1 (h.contains_of_mem he))
    exact List.mem_map.mpr ⟨(e.1, w), h'.mem_toList_iff.mpr hw, rfl⟩
  have hlength := h.nodup_keys.length_le_of_subset hsubset
  rwa [List.length_map, List.length_map, length_toList, length_toList] at hlength

end SampledEviction.DenseMap
