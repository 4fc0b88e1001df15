import Mathlib.Data.List.Sort
import SampledEviction.Proofs.PoolOrder

/-!
# What a pool keeps of many offers

A pool to which candidates are offered one after the other keeps the sixteen highest ranks of them,
in whatever order they came. Of candidates of one rank it does not always keep the latest, nor the
earliest: the oldest of them gives way to a better one, and once the pool is full of others that are
as good, no more of them get in.

The invariant is about the offers and not the candidates, since the same candidate may be offered
twice: every offer so far is held or lost, and no offer is lost to a worse one.

* `exists_placed` — a newcomer stands behind all of its rank that were offered before
* `Survivors.placed`, `Survivors.refused`, `Survivors.displaced` — one more offer
* `exists_survivors` — any number of offers
* `Survivors.ranks` — the ranks that are held are the highest ones
-/

namespace SampledEviction.Pool

variable {c : Candidate} {cs : List Candidate} {held lost : List (Candidate × Nat)}

/-! ## Offers in order -/

/-- An offer goes before another: by rank, and within a rank by turn. An offer is a candidate with
the number of offers before it. -/
def Before (x y : Candidate × Nat) : Prop :=
  x.1.rank < y.1.rank ∨ x.1.rank = y.1.rank ∧ x.2 < y.2

theorem Before.rank_le {x y : Candidate × Nat} (h : Before x y) : x.1.rank ≤ y.1.rank := by
  rcases h with h | ⟨h, -⟩
  · exact Nat.le_of_lt h
  · exact Nat.le_of_eq h

theorem ascending_of_before (h : held.Pairwise Before) : Ascending (held.map Prod.fst) :=
  List.pairwise_map.mpr (h.imp Before.rank_le)

/-- A newcomer goes between the offers that are no better and those that beat it. As it comes after
all of them, this keeps them in order. -/
theorem exists_placed (h : held.Pairwise Before) {n : Nat} (hn : ∀ x ∈ held, x.2 < n)
    (c : Candidate) :
    ∃ below above, held = below ++ above ∧ (below ++ (c, n) :: above).Pairwise Before ∧
      (below ++ (c, n) :: above).map Prod.fst = place c (held.map Prod.fst) := by
  obtain ⟨low, high, hsplit, hplace, hlow, hhigh⟩ := (ascending_of_before h).exists_place c
  obtain ⟨below, above, rfl, rfl, rfl⟩ := List.map_eq_append_iff.mp hsplit
  obtain ⟨hbelow, habove, hacross⟩ := List.pairwise_append.mp h
  have hafter : ∀ x ∈ below, Before x (c, n) := by
    intro x hx
    have hle := hlow x.1 (List.mem_map_of_mem hx)
    have hturn := hn x (List.mem_append_left above hx)
    rcases Nat.lt_or_eq_of_le hle with hlt | heq
    · exact Or.inl hlt
    · exact Or.inr ⟨heq, hturn⟩
  have hbeaten : ∀ y ∈ above, Before (c, n) y := by
    intro y hy
    exact Or.inl (hhigh y.1 (List.mem_map_of_mem hy))
  refine ⟨below, above, rfl, List.pairwise_append.mpr ⟨hbelow, ?_, ?_⟩, ?_⟩
  · exact List.pairwise_cons.mpr ⟨hbeaten, habove⟩
  · intro x hx y hy
    rcases List.mem_cons.mp hy with rfl | hy
    · exact hafter x hx
    · exact hacross x hx y hy
  · rw [hplace]
    simp

/-! ## Held and lost -/

/-- Some of the offers are held, in order, and the others are lost: none of these to a worse one,
and none as long as there is room. -/
structure Survivors (cs : List Candidate) (held lost : List (Candidate × Nat)) : Prop where
  perm : (held ++ lost).Perm cs.zipIdx
  order : held.Pairwise Before
  beaten : ∀ x ∈ lost, ∀ y ∈ held, x.1.rank ≤ y.1.rank
  fits : held.length ≤ capacity
  full : lost ≠ [] → held.length = capacity

namespace Survivors

theorem nil : Survivors [] [] [] where
  perm := List.Perm.refl []
  order := List.Pairwise.nil
  beaten := by simp
  fits := Nat.zero_le _
  full h := absurd rfl h

/-- Held offers have had their turn. -/
theorem turn_lt (h : Survivors cs held lost) : ∀ x ∈ held, x.2 < cs.length := by
  intro x hx
  have hoffered : x ∈ cs.zipIdx := h.perm.subset (List.mem_append_left lost hx)
  exact List.snd_lt_of_mem_zipIdx hoffered

/-- The offers, when there is one more. -/
theorem perm_cons (h : Survivors cs held lost) (c : Candidate) :
    ((c, cs.length) :: (held ++ lost)).Perm (cs ++ [c]).zipIdx := by
  rw [List.zipIdx_append, Nat.zero_add]
  exact (h.perm.cons _).trans (List.perm_append_singleton _ _).symm

/-- As long as there is room, one more offer is held. -/
theorem placed (h : Survivors cs held lost) (hroom : held.length < capacity) (c : Candidate) :
    ∃ held', Survivors (cs ++ [c]) held' lost ∧
      held'.map Prod.fst = place c (held.map Prod.fst) := by
  have hnone : lost = [] := by
    by_contra hsome
    exact absurd (h.full hsome) (Nat.ne_of_lt hroom)
  obtain ⟨below, above, rfl, horder, hplaced⟩ := exists_placed h.order h.turn_lt c
  refine ⟨below ++ (c, cs.length) :: above, ⟨?_, horder, ?_, ?_, ?_⟩, hplaced⟩
  · exact (List.perm_middle.append_right lost).trans (h.perm_cons c)
  · simp [hnone]
  · simp only [List.length_append, List.length_cons] at hroom ⊢
    omega
  · exact fun hsome => absurd hnone hsome

variable {first : Candidate × Nat} {rest : List (Candidate × Nat)}

/-- One that is no better than the first of a full list is lost. -/
theorem refused (h : Survivors cs (first :: rest) lost)
    (hfull : (first :: rest).length = capacity) (hle : c.rank ≤ first.1.rank) :
    Survivors (cs ++ [c]) (first :: rest) ((c, cs.length) :: lost) where
  perm := List.perm_middle.trans (h.perm_cons c)
  order := h.order
  beaten x hx y hy := by
    have hleast := (List.pairwise_cons.mp h.order).1
    rcases List.mem_cons.mp hx with rfl | hx
    · rcases List.mem_cons.mp hy with rfl | hy
      · exact hle
      · exact Nat.le_trans hle (hleast y hy).rank_le
    · exact h.beaten x hx y hy
  fits := h.fits
  full _ := hfull

/-- For a better one the first of a full list is lost, and all that stay are no worse. -/
theorem displaced (h : Survivors cs (first :: rest) lost)
    (hfull : (first :: rest).length = capacity) (hlt : first.1.rank < c.rank) :
    ∃ held', Survivors (cs ++ [c]) held' (first :: lost) ∧
      held'.map Prod.fst = place c (rest.map Prod.fst) := by
  obtain ⟨hleast, hrest⟩ := List.pairwise_cons.mp h.order
  have hturn : ∀ x ∈ rest, x.2 < cs.length := by
    intro x hx
    exact h.turn_lt x (List.mem_cons_of_mem first hx)
  obtain ⟨below, above, rfl, horder, hplaced⟩ := exists_placed hrest hturn c
  have hkept : ∀ y ∈ below ++ (c, cs.length) :: above, first.1.rank ≤ y.1.rank := by
    intro y hy
    rcases List.mem_cons.mp (List.perm_middle.subset hy) with rfl | hy
    · exact Nat.le_of_lt hlt
    · exact (hleast y hy).rank_le
  have hlength : (below ++ (c, cs.length) :: above).length = capacity := by
    simp only [List.length_append, List.length_cons] at hfull ⊢
    omega
  refine ⟨below ++ (c, cs.length) :: above, ⟨?_, horder, ?_, ?_, ?_⟩, hplaced⟩
  · have hswap : (below ++ (c, cs.length) :: above ++ first :: lost).Perm
        ((c, cs.length) :: (first :: (below ++ above) ++ lost)) := by
      refine (List.perm_middle.append_right (first :: lost)).trans (List.Perm.cons _ ?_)
      exact List.perm_middle
    exact hswap.trans (h.perm_cons c)
  · intro x hx y hy
    rcases List.mem_cons.mp hx with rfl | hx
    · exact hkept y hy
    · exact Nat.le_trans (h.beaten x hx first List.mem_cons_self) (hkept y hy)
  · exact Nat.le_of_eq hlength
  · exact fun _ => hlength

/-- One more offer. -/
theorem offer (h : Survivors cs held lost) (c : Candidate) :
    ∃ held' lost', Survivors (cs ++ [c]) held' lost' ∧
      held'.map Prod.fst = Pool.offer (held.map Prod.fst) c := by
  rcases offer_cases (held.map Prod.fst) c with
    ⟨hroom, heq⟩ | ⟨hfull, heq, _, _, hfirst, hle⟩ | ⟨_, _, hfirst, hfull, hlt, heq⟩
  · rw [List.length_map] at hroom
    obtain ⟨held', hnext, hheld⟩ := h.placed hroom c
    exact ⟨held', lost, hnext, hheld.trans heq.symm⟩
  · rw [List.length_map] at hfull
    obtain ⟨first, rest, rfl, rfl, rfl⟩ := List.map_eq_cons_iff.mp hfirst
    exact ⟨first :: rest, (c, cs.length) :: lost, h.refused (Nat.le_antisymm h.fits hfull) hle,
      heq.symm⟩
  · rw [List.length_map] at hfull
    obtain ⟨first, rest, rfl, rfl, rfl⟩ := List.map_eq_cons_iff.mp hfirst
    obtain ⟨held', hnext, hheld⟩ := h.displaced (Nat.le_antisymm h.fits hfull) hlt
    exact ⟨held', first :: lost, hnext, hheld.trans heq.symm⟩

end Survivors

/-- Any number of offers. -/
theorem exists_survivors (cs : List Candidate) :
    ∃ held lost, Survivors cs held lost ∧ held.map Prod.fst = cs.foldl offer [] := by
  induction cs using List.reverseRecOn with
  | nil => exact ⟨[], [], Survivors.nil, rfl⟩
  | append_singleton cs c ih =>
    obtain ⟨held, lost, hsurvivors, hheld⟩ := ih
    obtain ⟨held', lost', hsurvivors', hheld'⟩ := hsurvivors.offer c
    refine ⟨held', lost', hsurvivors', ?_⟩
    rw [hheld', hheld, List.foldl_append]
    rfl

/-! ## The highest ranks -/

/-- A list in ascending order is determined by its members. -/
theorem mergeSort_eq_of_perm {l l' : List Nat} (hperm : l'.Perm l) (h : l'.Pairwise (· ≤ ·)) :
    l.mergeSort = l' := by
  have hsorted : l.mergeSort.Pairwise (· ≤ ·) := List.pairwise_mergeSort' (· ≤ ·) l
  exact ((List.mergeSort_perm l _).trans hperm.symm).eq_of_pairwise' hsorted h

/-- The ranks that are held are the last of all ranks in ascending order. -/
theorem Survivors.ranks (h : Survivors cs held lost) :
    held.map (·.1.rank) = (cs.map (·.rank)).mergeSort.drop (cs.length - capacity) := by
  have hperm : ((lost.map (·.1.rank)).mergeSort ++ held.map (·.1.rank)).Perm
      (cs.map (·.rank)) := by
    have hcs : cs.map (·.rank) = cs.zipIdx.map (·.1.rank) := by
      conv_lhs => rw [← List.zipIdx_map_fst 0 cs, List.map_map]
      rfl
    rw [hcs]
    refine List.Perm.trans ?_ (h.perm.map _)
    rw [List.map_append]
    exact ((List.mergeSort_perm _ _).append_right _).trans List.perm_append_comm
  have hsorted : ((lost.map (·.1.rank)).mergeSort ++ held.map (·.1.rank)).Pairwise (· ≤ ·) := by
    refine List.pairwise_append.mpr ⟨List.pairwise_mergeSort' (· ≤ ·) _, ?_, ?_⟩
    · exact List.pairwise_map.mpr (h.order.imp Before.rank_le)
    · intro m hm n hn
      obtain ⟨x, hx, rfl⟩ := List.mem_map.mp ((List.mergeSort_perm _ _).subset hm)
      obtain ⟨y, hy, rfl⟩ := List.mem_map.mp hn
      exact h.beaten x hx y hy
  have hlost : cs.length - capacity = (lost.map (·.1.rank)).mergeSort.length := by
    have hlength : held.length + lost.length = cs.length := by simpa using h.perm.length_eq
    rw [(List.mergeSort_perm _ _).length_eq, List.length_map]
    by_cases hnone : lost = []
    · have hfits := h.fits
      simp only [hnone, List.length_nil, Nat.add_zero] at hlength ⊢
      omega
    · have hfull := h.full hnone
      omega
  rw [mergeSort_eq_of_perm hperm hsorted, hlost, List.drop_left]

/-- A new pool to which candidates are offered holds the sixteen highest of their ranks, or all if
there are no more, in ascending order; so the order of the offers does not matter. What it holds are
distinct ones of the offers, and those of one rank stand in the order they came. -/
theorem offerAll_keeps_best (cs : List Candidate) :
    let kept := (Sampler.offerAll .empty cs).2.toList
    kept.map (·.rank) = (cs.map (·.rank)).mergeSort.drop (cs.length - capacity) ∧
    (∀ cs', cs'.Perm cs →
      (Sampler.offerAll .empty cs').2.toList.map (·.rank) = kept.map (·.rank)) ∧
    ∃ held : List (Candidate × Nat), held.map Prod.fst = kept ∧ held.Subperm cs.zipIdx ∧
      held.Pairwise Before := by
  have hranks (cs : List Candidate) : (Sampler.offerAll .empty cs).2.toList.map (·.rank)
      = (cs.map (·.rank)).mergeSort.drop (cs.length - capacity) := by
    obtain ⟨held, lost, hsurvivors, hheld⟩ := exists_survivors cs
    rw [((shows_of_size_eq_zero rfl).offerAll cs).toList, ← hheld, ← hsurvivors.ranks, List.map_map]
    rfl
  refine ⟨hranks cs, ?_, ?_⟩
  · intro cs' hperm
    have hsorted : (cs.map (·.rank)).mergeSort.Pairwise (· ≤ ·) :=
      List.pairwise_mergeSort' (· ≤ ·) _
    have hsame : (cs'.map (·.rank)).mergeSort = (cs.map (·.rank)).mergeSort :=
      mergeSort_eq_of_perm ((List.mergeSort_perm _ _).trans (hperm.map _).symm) hsorted
    rw [hranks, hranks, hsame, hperm.length_eq]
  · obtain ⟨held, lost, hsurvivors, hheld⟩ := exists_survivors cs
    refine ⟨held, ?_, ?_, hsurvivors.order⟩
    · rw [((shows_of_size_eq_zero rfl).offerAll cs).toList, hheld]
    · exact (List.sublist_append_left held lost).subperm.trans hsurvivors.perm.subperm

end SampledEviction.Pool
