import SampledEviction.Sampler

/-!
# Live pools

A pool is only as good as the candidates in its slots: those of an earlier cycle may be gone.
A pool that was emptied and filled again holds nothing but live candidates, and then a
selection finds one.

* `Holds.insert`, `offered_offerAll` — offers of live candidates leave a pool of them
* `select_cases` — a victim is live, and without one nothing is left
* `Holds.select` — what is left was there before
* `Holds.select_isSome` — a pool of live candidates yields one
-/

namespace SampledEviction.Pool

variable {P : Candidate → Prop} {p : Pool} {c : Candidate}

/-- Every occupied slot holds a candidate of a kind. -/
def Holds (P : Candidate → Prop) (p : Pool) : Prop :=
  p.size ≤ capacity ∧
    ∀ (i : Nat) (h : i < 16), i < p.size → ∃ c, p.slots[i].candidate? = some c ∧ P c

theorem holds_of_size_eq_zero (h : p.size = 0) : p.Holds P :=
  ⟨by omega, fun i _ hi => absurd hi (by omega)⟩

/-- The candidates of a pool are those of its occupied slots. -/
theorem Holds.of_mem (h : p.Holds P) (hc : c ∈ p.toList) : P c := by
  obtain ⟨slot, hslot, hcandidate⟩ := List.mem_filterMap.mp hc
  obtain ⟨i, hi, rfl⟩ := List.mem_iff_getElem.mp hslot
  have hlow : i < p.size ∧ i < 16 := by
    rw [← Nat.lt_min]
    simpa [occupied] using hi
  obtain ⟨c', hc', hP⟩ := h.2 i hlow.2 hlow.1
  have heq : p.occupied[i].candidate? = some c' := by
    simpa [occupied] using hc'
  cases heq.symm.trans hcandidate
  exact hP

/-! ## Slots that move -/

theorem getElem_alter (slots : Vector Slot 16) (k : Nat) (f : Slot → Slot) {i : Nat} (h : i < 16) :
    (alter slots k f)[i] = if i = k then f slots[i] else slots[i] := by
  simp [alter]

theorem candidate?_shiftUp {k : Nat} (hk : k ≤ p.size) (c : Candidate) (hroom : p.size < capacity)
    {i : Nat} (h : i < 16) :
    (p.shiftUp k c hroom).slots[i].candidate? =
      if i < k then p.slots[i].candidate?
      else if i = k then some c
      else if i ≤ p.size then p.slots[i - 1].candidate?
      else p.slots[i].candidate? := by
  simp only [shiftUp, getElem_alter, turnUp, Vector.getElem_ofFn, Fin.getElem_fin]
  rcases Nat.lt_trichotomy i k with hlow | rfl | hhigh
  · rw [if_neg (by omega), if_neg (by omega), if_neg (by omega), if_pos hlow]
  · simp
  · have hnot : ¬ i < k := by omega
    have hne : i ≠ k := by omega
    simp [hhigh, hnot, hne]
    split <;> rfl

theorem candidate?_shiftDown {k : Nat} (hk : 0 < k) (c : Candidate) {i : Nat} (h : i < 16) :
    (p.shiftDown k c).slots[i].candidate? =
      if i + 1 < k then (p.slots[i + 1]?.getD p.slots[i]).candidate?
      else if i + 1 = k then some c
      else p.slots[i].candidate? := by
  simp only [shiftDown, getElem_alter, turnDown, Vector.getElem_ofFn, Fin.getElem_fin]
  rcases Nat.lt_trichotomy (i + 1) k with hlow | heq | hhigh
  · rw [if_neg (by omega), if_pos hlow, if_pos hlow]
  · rw [if_pos (by omega), if_neg (by omega), if_pos heq, if_pos heq, if_neg (by omega)]
    exact Slot.candidate?_fill _ _
  · rw [if_neg (by omega), if_neg (by omega), if_neg (by omega), if_neg (by omega),
      if_neg (by omega)]

/-! ## Insertion -/

theorem position_le (p : Pool) (rank : Nat) : p.position rank ≤ p.size :=
  calc p.position rank
      ≤ p.occupied.length := (List.takeWhile_sublist _).length_le
    _ ≤ p.size := by
      unfold occupied
      rw [List.length_take]
      exact Nat.min_le_left _ _

/-- A newcomer that beats the first candidate goes behind it. -/
theorem position_pos {rank : Nat} {first : Slot} (hsize : 0 < p.size)
    (hfirst : p.slots[0]? = some first) (h : first.rank ≤ rank) : 0 < p.position rank := by
  obtain ⟨rest, hslots⟩ : ∃ rest, p.slots.toList = first :: rest := by
    refine List.head?_eq_some_iff.mp ?_
    rwa [List.head?_eq_getElem?, Vector.getElem?_toList]
  obtain ⟨n, hn⟩ := Nat.exists_eq_add_of_lt hsize
  unfold position occupied
  rw [hslots, hn, Nat.zero_add, List.take_succ_cons, List.takeWhile_cons,
    if_pos (decide_eq_true h), List.length_cons]
  omega

@[simp] theorem size_shiftUp (p : Pool) (k : Nat) (c : Candidate) (h : p.size < capacity) :
    (p.shiftUp k c h).size = p.size + 1 := rfl

@[simp] theorem size_shiftDown (p : Pool) (k : Nat) (c : Candidate) :
    (p.shiftDown k c).size = p.size := by
  rw [shiftDown]

theorem Holds.shiftUp (h : p.Holds P) (hc : P c) {k : Nat} (hk : k ≤ p.size)
    (hroom : p.size < capacity) : (p.shiftUp k c hroom).Holds P := by
  unfold Holds
  rw [size_shiftUp]
  refine ⟨hroom, fun i hi hsize => ?_⟩
  rw [candidate?_shiftUp hk c hroom hi]
  by_cases hlow : i < k
  · rw [if_pos hlow]
    exact h.2 i hi (by omega)
  · rw [if_neg hlow]
    by_cases heq : i = k
    · rw [if_pos heq]
      exact ⟨c, rfl, hc⟩
    · rw [if_neg heq, if_pos (by omega)]
      exact h.2 (i - 1) (by omega) (by omega)

theorem Holds.shiftDown (h : p.Holds P) (hc : P c) {k : Nat} (hpos : 0 < k) (hk : k ≤ p.size) :
    (p.shiftDown k c).Holds P := by
  unfold Holds
  rw [size_shiftDown]
  refine ⟨h.1, fun i hi hsize => ?_⟩
  rw [candidate?_shiftDown hpos c hi]
  by_cases hlow : i + 1 < k
  · rw [if_pos hlow]
    have hfit := h.1
    unfold capacity at hfit
    rw [Vector.getElem?_eq_getElem (by omega), Option.getD_some]
    exact h.2 (i + 1) (by omega) (by omega)
  · rw [if_neg hlow]
    by_cases heq : i + 1 = k
    · rw [if_pos heq]
      exact ⟨c, rfl, hc⟩
    · rw [if_neg heq]
      exact h.2 i hi hsize

theorem Holds.insert (h : p.Holds P) (hc : P c) : (p.insert c).2.Holds P := by
  unfold Pool.insert
  have hk := p.position_le c.rank
  dsimp only
  split
  · rename_i hroom
    exact h.shiftUp hc hk hroom
  · rename_i hfull
    unfold capacity at hfull
    split
    · exact h
    · have hfirst : p.slots[0]? = some p.slots[0] := Vector.getElem?_eq_getElem (by decide)
      exact h.shiftDown hc (position_pos (by omega) hfirst (by omega)) hk

/-- A pool never shrinks by an offer, and one that takes it is not empty. -/
theorem size_insert (p : Pool) (c : Candidate) :
    p.size ≤ (p.insert c).2.size ∧ ((p.insert c).1 = true → (p.insert c).2.size ≠ 0) := by
  unfold Pool.insert capacity
  by_cases hroom : p.size < 16
  · simp only [dif_pos hroom, size_shiftUp]
    exact ⟨Nat.le_succ _, fun _ => Nat.succ_ne_zero _⟩
  · simp only [dif_neg hroom]
    split
    · exact ⟨Nat.le_refl _, fun h => absurd h Bool.false_ne_true⟩
    · rw [size_shiftDown]
      exact ⟨Nat.le_refl _, fun _ => by omega⟩

/-- A pool with room takes any offer. -/
theorem insert_of_room (h : p.size < capacity) (c : Candidate) : (p.insert c).1 = true := by
  unfold Pool.insert
  rw [dif_pos h]

/-! ## Many offers -/

/-- What offers in turn come to. -/
structure Offered (p : Pool) (cs : List Candidate) (taken : Nat) (q : Pool) : Prop where
  holds : ∀ {P : Candidate → Prop}, p.Holds P → (∀ c ∈ cs, P c) → q.Holds P
  size_le : p.size ≤ q.size
  size_ne : taken ≠ 0 → q.size ≠ 0
  nothing : p.size < capacity → taken = 0 → cs = [] ∧ q = p

theorem Offered.cons {cs : List Candidate} {taken : Nat} {q : Pool}
    (h : Offered (p.insert c).2 cs taken q) :
    Offered p (c :: cs) ((if (p.insert c).1 then 1 else 0) + taken) q where
  holds hp hcs := h.holds (hp.insert (hcs c List.mem_cons_self)) fun c' hc' =>
    hcs c' (List.mem_cons_of_mem _ hc')
  size_le := Nat.le_trans (p.size_insert c).1 h.size_le
  size_ne htaken := by
    have hle := h.size_le
    by_cases haccepted : (p.insert c).1 = true
    · have := (p.size_insert c).2 haccepted
      omega
    · rw [if_neg haccepted, Nat.zero_add] at htaken
      exact h.size_ne htaken
  nothing hroom htaken := by
    -- a pool with room takes the first offer
    rw [if_pos (insert_of_room hroom c)] at htaken
    omega

/-- The count of offers taken goes on from where it starts. -/
theorem offered_foldl (n : Nat) (p : Pool) (cs : List Candidate) :
    ∃ taken q, cs.foldl (fun (taken, pool) c =>
        let (accepted, pool) := pool.insert c
        (if accepted then taken + 1 else taken, pool)) (n, p) = (n + taken, q) ∧
      Offered p cs taken q := by
  induction cs generalizing n p with
  | nil => exact ⟨0, p, rfl, fun hp _ => hp, Nat.le_refl _, absurd rfl, fun _ _ => ⟨rfl, rfl⟩⟩
  | cons c cs ih =>
    obtain ⟨taken, q, heq, hoffered⟩ :=
      ih (if (p.insert c).1 then n + 1 else n) (p.insert c).2
    refine ⟨_, q, ?_, hoffered.cons⟩
    rw [List.foldl_cons]
    refine heq.trans ?_
    cases (p.insert c).1 with
    | true =>
      show (n + 1 + taken, q) = (n + (1 + taken), q)
      rw [Nat.add_assoc]
    | false =>
      show (n + taken, q) = (n + (0 + taken), q)
      rw [Nat.zero_add]

theorem offered_offerAll (p : Pool) (cs : List Candidate) :
    Offered p cs (Sampler.offerAll p cs).1 (Sampler.offerAll p cs).2 := by
  obtain ⟨taken, q, heq, hoffered⟩ := offered_foldl 0 p cs
  unfold Sampler.offerAll
  rw [heq, Nat.zero_add]
  exact hoffered

/-- Offers go on from where earlier ones have come to. -/
theorem foldl_eq_offerAll (n : Nat) (p : Pool) (cs : List Candidate) :
    cs.foldl (fun (taken, pool) c =>
        let (accepted, pool) := pool.insert c
        (if accepted then taken + 1 else taken, pool)) (n, p)
      = (n + (Sampler.offerAll p cs).1, (Sampler.offerAll p cs).2) := by
  induction cs generalizing n p with
  | nil => rfl
  | cons c cs ih =>
    unfold Sampler.offerAll
    rw [List.foldl_cons, List.foldl_cons]
    dsimp only
    rw [ih, ih]
    cases (p.insert c).1 with
    | true => simp [Nat.add_assoc]
    | false => simp

theorem offerAll_append (p : Pool) (cs cs' : List Candidate) :
    Sampler.offerAll p (cs ++ cs') =
      ((Sampler.offerAll p cs).1 + (Sampler.offerAll (Sampler.offerAll p cs).2 cs').1,
        (Sampler.offerAll (Sampler.offerAll p cs).2 cs').2) :=
  (List.foldl_append ..).trans (foldl_eq_offerAll _ _ cs')

/-! ## Selection -/

/-- A victim is still there, and if there is none, the pool is left empty. -/
theorem select_cases (p : Pool) (present : Nat → Bytes → Bool) (buffer : Bytes) :
    (∀ c, (p.select present buffer).victim = some c → present c.shard c.key = true) ∧
      ((p.select present buffer).victim = none → (p.select present buffer).pool.size = 0) := by
  fun_induction Pool.select p present buffer with
  | case1 p h =>
    refine ⟨fun c hc => absurd hc (by simp), fun _ => ?_⟩
    unfold pop? at h
    split at h
    · assumption
    · cases h
  | case2 p q h s ih => exact ih
  | case3 p c q h hpresent =>
    refine ⟨fun c' hc' => ?_, fun hnone => absurd hnone (by simp)⟩
    cases hc'
    exact hpresent
  | case4 p c q h hpresent s ih => exact ih

theorem pop?_of_size_ne_zero (h : p.size ≠ 0) :
    p.pop? = some (p.slots[p.size - 1]?.bind Slot.candidate?,
      ⟨alter p.slots (p.size - 1) Slot.clear, p.size - 1⟩) := by
  unfold pop?
  rw [if_neg h]

/-- Taking a candidate away leaves the others as they are. -/
theorem Holds.pop? {q : Pool} {x : Option Candidate} (h : p.Holds P) (hpop : p.pop? = some (x, q)) :
    q.Holds P := by
  have hsize : p.size ≠ 0 := by
    intro hzero
    rw [Pool.pop?, if_pos hzero] at hpop
    cases hpop
  rw [pop?_of_size_ne_zero hsize] at hpop
  cases hpop
  refine ⟨Nat.le_trans (Nat.sub_le _ _) h.1, ?_⟩
  intro i hi hlow
  have hlow : i < p.size - 1 := hlow
  rw [getElem_alter, if_neg (Nat.ne_of_lt hlow)]
  exact h.2 i hi (by omega)

/-- What is left by a look for a victim was there before. -/
theorem Holds.select (h : p.Holds P) (present : Nat → Bytes → Bool) (buffer : Bytes) :
    (p.select present buffer).pool.Holds P := by
  fun_induction Pool.select p present buffer with
  | case1 p hpop => exact h
  | case2 p q hpop s ih => exact ih (h.pop? hpop)
  | case3 p c q hpop hpresent => exact h.pop? hpop
  | case4 p c q hpop hpresent s ih => exact ih (h.pop? hpop)

/-- A pool of live candidates yields one. -/
theorem Holds.select_isSome (present : Nat → Bytes → Bool) (buffer : Bytes)
    (h : p.Holds fun c => present c.shard c.key = true) (hsize : p.size ≠ 0) :
    (p.select present buffer).victim.isSome = true := by
  have hfit := h.1
  unfold capacity at hfit
  obtain ⟨c, hc, hpresent⟩ := h.2 (p.size - 1) (by omega) (by omega)
  have hpop := pop?_of_size_ne_zero hsize
  rw [Vector.getElem?_eq_getElem (by omega), Option.bind_some, hc] at hpop
  unfold Pool.select
  split
  · rename_i hnone
    rw [hpop] at hnone
    cases hnone
  · rename_i hsome
    rw [hpop] at hsome
    cases hsome
  · rename_i hsome
    rw [hpop] at hsome
    cases hsome
    rw [if_pos hpresent]
    rfl

end SampledEviction.Pool
