import Mathlib.Data.List.Induction
import Mathlib.Data.List.InsertIdx
import SampledEviction.Proofs.Pool

/-!
# Pools as lists

A pool stands for a list of at most sixteen candidates. An offer puts a candidate behind all that
are no better, and a full list gives up its first candidate for a better one; a look for a victim
takes candidates off the end. If the list ascends in rank it stays so, and then an offer is lost
only to candidates that are all at least as good.

* `Shows.insert`, `Shows.offerAll`, `Shows.select` — what becomes of the list of a pool
* `Ascending.offer` — the list stays in order
* `Covers.offer` — no offer is lost for a worse one
* `Selected.rank_le_of_covers` — nothing that is still there beats what is selected
-/

namespace SampledEviction.Pool

variable {p q : Pool} {l : List Candidate} {c x : Candidate}

/-! ## The list of a pool -/

/-- The occupied slots hold the candidates of a list, in this order. -/
structure Shows (p : Pool) (l : List Candidate) : Prop where
  size : p.size = l.length
  fits : l.length ≤ capacity
  slots (i : Nat) (h : i < 16) (hi : i < l.length) : p.slots[i].candidate? = some l[i]

theorem shows_of_size_eq_zero (h : p.size = 0) : p.Shows [] where
  size := h
  fits := Nat.zero_le _
  slots _ _ hi := absurd hi (Nat.not_lt_zero _)

theorem Shows.isEmpty_iff (h : p.Shows l) : p.isEmpty = true ↔ l = [] := by
  rw [Pool.isEmpty, beq_iff_eq, h.size, List.length_eq_zero_iff]

theorem Shows.occupied (h : p.Shows l) : p.occupied.map Slot.candidate? = l.map some := by
  have hfits := h.fits
  unfold capacity at hfits
  refine List.ext_getElem ?_ fun i hi hi' => ?_
  · simp [Pool.occupied, h.size]
    omega
  · rw [List.length_map] at hi'
    rw [List.getElem_map, List.getElem_map]
    unfold Pool.occupied
    rw [List.getElem_take, Vector.getElem_toList, h.slots i (by omega) hi']

theorem Shows.toList (h : p.Shows l) : p.toList = l := by
  have hsame : p.occupied.filterMap Slot.candidate?
      = (p.occupied.map Slot.candidate?).filterMap id := by
    rw [List.filterMap_map]
    rfl
  unfold Pool.toList
  rw [hsame, h.occupied, List.filterMap_map]
  exact List.filterMap_some

/-- The ranks of the occupied slots are those of the candidates. -/
theorem Shows.ranks (h : p.Shows l) : p.occupied.map (·.rank) = l.map (·.rank) := by
  refine List.ext_getElem ?_ fun i hi hi' => ?_
  · simpa using congrArg List.length h.occupied
  · rw [List.length_map] at hi hi'
    rw [List.getElem_map, List.getElem_map]
    refine Slot.rank_of_candidate? ?_
    have hslot := List.getElem_of_eq h.occupied (i := i) (by simpa using hi)
    simpa using hslot

theorem Shows.position (h : p.Shows l) (rank : Nat) :
    p.position rank = (l.takeWhile (·.rank ≤ rank)).length := by
  have hranks := congrArg (fun ranks => (ranks.takeWhile (· ≤ rank)).length) h.ranks
  simpa [Pool.position, List.takeWhile_map, Function.comp_def] using hranks

/-! ## Offers -/

/-- A list with a candidate behind all that are no better. -/
def place (c : Candidate) (l : List Candidate) : List Candidate :=
  l.insertIdx (l.takeWhile (·.rank ≤ c.rank)).length c

/-- What becomes of a list by an offer. -/
def offer (l : List Candidate) (c : Candidate) : List Candidate :=
  if l.length < capacity then place c l
  else if l.head?.any (c.rank ≤ ·.rank) then l
  else (place c l).tail

theorem length_place (c : Candidate) (l : List Candidate) : (place c l).length = l.length + 1 :=
  List.length_insertIdx_of_le_length (List.takeWhile_sublist _).length_le ..

theorem Shows.shiftUp (h : p.Shows l) {k : Nat} (hk : k ≤ l.length) (hroom : p.size < capacity)
    (c : Candidate) : (p.shiftUp k c hroom).Shows (l.insertIdx k c) where
  size := by rw [size_shiftUp, h.size, List.length_insertIdx_of_le_length hk]
  fits := by
    rw [List.length_insertIdx_of_le_length hk, ← h.size]
    exact hroom
  slots i hi hil := by
    rw [List.length_insertIdx_of_le_length hk] at hil
    have hsize := h.size
    rw [candidate?_shiftUp (by omega) c hroom hi, List.getElem_insertIdx]
    by_cases hlow : i < k
    · rw [if_pos hlow, dif_pos hlow]
      exact h.slots i hi (by omega)
    · rw [if_neg hlow, dif_neg hlow]
      by_cases heq : i = k
      · rw [if_pos heq, dif_pos heq]
      · rw [if_neg heq, dif_neg heq, if_pos (by omega)]
        exact h.slots (i - 1) (by omega) (by omega)

theorem Shows.shiftDown (h : p.Shows l) {k : Nat} (hpos : 0 < k) (hk : k ≤ l.length)
    (c : Candidate) : (p.shiftDown k c).Shows (l.insertIdx k c).tail where
  size := by
    rw [size_shiftDown, h.size, List.length_tail, List.length_insertIdx_of_le_length hk,
      Nat.add_sub_cancel]
  fits := by
    rw [List.length_tail, List.length_insertIdx_of_le_length hk, Nat.add_sub_cancel]
    exact h.fits
  slots i hi hil := by
    have hfits := h.fits
    unfold capacity at hfits
    rw [List.length_tail, List.length_insertIdx_of_le_length hk, Nat.add_sub_cancel] at hil
    rw [candidate?_shiftDown hpos c hi, List.getElem_tail, List.getElem_insertIdx]
    by_cases hlow : i + 1 < k
    · rw [if_pos hlow, dif_pos hlow, Vector.getElem?_eq_getElem (by omega), Option.getD_some]
      exact h.slots (i + 1) (by omega) (by omega)
    · rw [if_neg hlow, dif_neg hlow]
      by_cases heq : i + 1 = k
      · rw [if_pos heq, dif_pos heq]
      · rw [if_neg heq, dif_neg heq]
        exact h.slots i hi hil

/-- A full pool compares an offer with its first candidate. -/
theorem Shows.rank_first (h : p.Shows l) (hfull : ¬ l.length < capacity) (rank : Nat) :
    l.head?.any (rank ≤ ·.rank) = true ↔ rank ≤ p.slots[0].rank := by
  cases l with
  | nil => exact absurd (by decide) hfull
  | cons y rest =>
    have hfirst : p.slots[0].rank = y.rank :=
      Slot.rank_of_candidate? (h.slots 0 (by omega) (Nat.succ_pos _))
    simp [hfirst]

/-- An offer to a pool is one to its list. -/
theorem Shows.insert (h : p.Shows l) (c : Candidate) : (p.insert c).2.Shows (offer l c) := by
  have hsize := h.size
  have hle : (l.takeWhile (·.rank ≤ c.rank)).length ≤ l.length :=
    (List.takeWhile_sublist _).length_le
  have hfirst : p.slots[0]? = some p.slots[0] := Vector.getElem?_eq_getElem (by decide)
  have hpos := @position_pos p c.rank p.slots[0]
  unfold Pool.insert offer
  rw [h.position] at hpos ⊢
  dsimp only
  by_cases hroom : p.size < capacity
  · rw [dif_pos hroom, if_pos (by omega)]
    exact h.shiftUp hle hroom c
  · have hfull : ¬ l.length < capacity := by omega
    rw [dif_neg hroom, if_neg hfull]
    by_cases hworse : c.rank ≤ p.slots[0].rank
    · rw [if_pos hworse, if_pos ((h.rank_first hfull c.rank).mpr hworse)]
      exact h
    · have hsome : 0 < p.size := Nat.lt_of_lt_of_le (by decide) (Nat.not_lt.mp hroom)
      rw [if_neg hworse, if_neg fun hrefused => hworse ((h.rank_first hfull c.rank).mp hrefused)]
      exact h.shiftDown (hpos hsome hfirst (Nat.le_of_not_le hworse)) hle c

/-- Offers to a pool are offers to its list. -/
theorem Shows.foldl (h : p.Shows l) (n : Nat) (cs : List Candidate) :
    (cs.foldl (fun (taken, pool) c =>
      let (accepted, pool) := Pool.insert pool c
      (if accepted then taken + 1 else taken, pool)) (n, p)).2.Shows (cs.foldl offer l) := by
  induction cs generalizing n p l with
  | nil => exact h
  | cons c cs ih => exact ih (h.insert c) _

theorem Shows.offerAll (h : p.Shows l) (cs : List Candidate) :
    (Sampler.offerAll p cs).2.Shows (cs.foldl offer l) := h.foldl 0 cs

/-! ## Order -/

/-- The ranks of a list ascend. -/
def Ascending (l : List Candidate) : Prop := l.Pairwise (·.rank ≤ ·.rank)

@[simp] theorem place_nil (c : Candidate) : place c [] = [c] := rfl

theorem place_cons_of_le (h : x.rank ≤ c.rank) (l : List Candidate) :
    place c (x :: l) = x :: place c l := by
  unfold place
  rw [List.takeWhile_cons, if_pos (decide_eq_true h)]
  rfl

theorem place_cons_of_lt (h : c.rank < x.rank) (l : List Candidate) :
    place c (x :: l) = c :: x :: l := by
  unfold place
  rw [List.takeWhile_cons, if_neg (by simpa using h)]
  rfl

@[simp] theorem mem_place : x ∈ place c l ↔ x = c ∨ x ∈ l :=
  List.mem_insertIdx (List.takeWhile_sublist _).length_le

/-- A list in order is split by a newcomer: it goes between those that are no better and those that
beat it. -/
theorem Ascending.exists_place (h : Ascending l) (c : Candidate) :
    ∃ below above, l = below ++ above ∧ place c l = below ++ c :: above ∧
      (∀ x ∈ below, x.rank ≤ c.rank) ∧ ∀ x ∈ above, c.rank < x.rank := by
  induction l with
  | nil => exact ⟨[], [], by simp⟩
  | cons y l ih =>
    obtain ⟨hy, hl⟩ := List.pairwise_cons.mp h
    by_cases hle : y.rank ≤ c.rank
    · obtain ⟨below, above, rfl, hplace, hbelow, habove⟩ := ih hl
      refine ⟨y :: below, above, rfl, by rw [place_cons_of_le hle, hplace]; rfl, ?_, habove⟩
      simpa [hle] using hbelow
    · refine ⟨[], y :: l, rfl, place_cons_of_lt (by omega) l, by simp, fun x hx => ?_⟩
      rcases List.mem_cons.mp hx with rfl | hx
      · omega
      · have := hy x hx
        omega

theorem Ascending.place (h : Ascending l) (c : Candidate) : Ascending (place c l) := by
  obtain ⟨below, above, rfl, hplace, hbelow, habove⟩ := h.exists_place c
  rw [hplace]
  obtain ⟨hlow, hhigh, hacross⟩ := List.pairwise_append.mp h
  refine List.pairwise_append.mpr ⟨hlow, List.pairwise_cons.mpr ⟨fun x hx => ?_, hhigh⟩, ?_⟩
  · exact Nat.le_of_lt (habove x hx)
  · intro x hx y hy
    rcases List.mem_cons.mp hy with rfl | hy
    · exact hbelow x hx
    · exact hacross x hx y hy

/-- What an offer does: there is room for it, or it is no better than the first candidate of a full
list, or it takes that one's place. -/
theorem offer_cases (l : List Candidate) (c : Candidate) :
    l.length < capacity ∧ offer l c = place c l ∨
      capacity ≤ l.length ∧ offer l c = l ∧ (∃ y rest, l = y :: rest ∧ c.rank ≤ y.rank) ∨
      ∃ y rest, l = y :: rest ∧ capacity ≤ l.length ∧ y.rank < c.rank ∧
        offer l c = place c rest := by
  unfold offer
  by_cases hroom : l.length < capacity
  · exact Or.inl ⟨hroom, if_pos hroom⟩
  · rw [if_neg hroom]
    cases l with
    | nil => exact absurd (by decide) hroom
    | cons y rest =>
      by_cases hle : c.rank ≤ y.rank
      · have hrefused : (y :: rest).head?.any (c.rank ≤ ·.rank) = true := decide_eq_true hle
        rw [if_pos hrefused]
        exact Or.inr (Or.inl ⟨by omega, rfl, y, rest, rfl, hle⟩)
      · have htaken : ¬ (y :: rest).head?.any (c.rank ≤ ·.rank) = true := by simpa using hle
        rw [if_neg htaken, place_cons_of_le (by omega)]
        exact Or.inr (Or.inr ⟨y, rest, rfl, by omega, by omega, rfl⟩)

/-- An offer keeps a list in order. -/
theorem Ascending.offer (h : Ascending l) (c : Candidate) : Ascending (offer l c) := by
  rcases offer_cases l c with ⟨-, heq⟩ | ⟨-, heq, -⟩ | ⟨y, rest, rfl, -, -, heq⟩
  · rw [heq]
    exact h.place c
  · rwa [heq]
  · have hrest : Ascending rest := (List.pairwise_cons.mp h).2
    rw [heq]
    exact hrest.place c

theorem mem_offer (hx : x ∈ offer l c) : x = c ∨ x ∈ l := by
  rcases offer_cases l c with ⟨-, heq⟩ | ⟨-, heq, -⟩ | ⟨y, rest, rfl, -, -, heq⟩
  · rw [heq] at hx
    exact mem_place.mp hx
  · rw [heq] at hx
    exact Or.inr hx
  · rw [heq] at hx
    exact (mem_place.mp hx).imp_right (List.mem_cons_of_mem y)

/-! ## What is not lost -/

/-- A candidate is in a list, or the list is full of candidates that are at least as good. -/
def Covers (l : List Candidate) (c : Candidate) : Prop :=
  c ∈ l ∨ capacity ≤ l.length ∧ ∀ x ∈ l, c.rank ≤ x.rank

/-- An offer is not lost for a worse candidate. -/
theorem Ascending.covers_offer (h : Ascending l) (c : Candidate) : Covers (Pool.offer l c) c := by
  rcases offer_cases l c with ⟨-, heq⟩ | ⟨hfull, heq, y, rest, rfl, hle⟩ | ⟨y, rest, rfl, -, -, heq⟩
  · rw [heq]
    exact Or.inl (mem_place.mpr (Or.inl rfl))
  · rw [heq]
    refine Or.inr ⟨hfull, fun x hx => ?_⟩
    rcases List.mem_cons.mp hx with rfl | hx
    · exact hle
    · exact Nat.le_trans hle ((List.pairwise_cons.mp h).1 x hx)
  · rw [heq]
    exact Or.inl (mem_place.mpr (Or.inl rfl))

/-- No earlier candidate is lost for a worse one. -/
theorem Covers.offer (h : Ascending l) (hx : Covers l x) (c : Candidate) :
    Covers (Pool.offer l c) x := by
  rcases offer_cases l c with ⟨hroom, heq⟩ | ⟨-, heq, -⟩ | ⟨y, rest, rfl, hfull, hlt, heq⟩
  · rw [heq]
    rcases hx with hx | ⟨hfull, -⟩
    · exact Or.inl (mem_place.mpr (Or.inr hx))
    · omega
  · rwa [heq]
  · have hlength : capacity ≤ (place c rest).length := by rwa [length_place]
    have hfirst := (List.pairwise_cons.mp h).1
    have hleast {z : Candidate} (hz : z ∈ place c rest) : y.rank ≤ z.rank := by
      rcases mem_place.mp hz with rfl | hz
      · omega
      · exact hfirst z hz
    rw [heq]
    rcases hx with hx | ⟨-, hle⟩
    · rcases List.mem_cons.mp hx with rfl | hx
      · -- the first candidate goes, and all that stay are no worse
        exact Or.inr ⟨hlength, fun z hz => hleast hz⟩
      · exact Or.inl (mem_place.mpr (Or.inr hx))
    · exact Or.inr ⟨hlength, fun z hz => Nat.le_trans (hle y List.mem_cons_self) (hleast hz)⟩

/-- What offers come to: a list in order, of candidates that were there or were offered, which
covers all of them. -/
structure Gathered (l cs l' : List Candidate) : Prop where
  ascending : Ascending l'
  mem : ∀ c ∈ l', c ∈ l ∨ c ∈ cs
  covers : ∀ c, Covers l c ∨ c ∈ cs → Covers l' c

theorem gathered (h : Ascending l) (cs : List Candidate) : Gathered l cs (cs.foldl offer l) := by
  induction cs generalizing l with
  | nil => exact ⟨h, fun c hc => Or.inl hc, fun c hc => hc.resolve_right List.not_mem_nil⟩
  | cons c cs ih =>
    have hrest := ih (h.offer c)
    refine ⟨hrest.ascending, fun x hx => ?_, fun x hx => hrest.covers x ?_⟩
    · rcases hrest.mem x hx with hx | hx
      · rcases mem_offer hx with rfl | hx
        · exact Or.inr List.mem_cons_self
        · exact Or.inl hx
      · exact Or.inr (List.mem_cons_of_mem c hx)
    · rcases hx with hx | hx
      · exact Or.inl (hx.offer h c)
      · rcases List.mem_cons.mp hx with rfl | hx
        · exact Or.inl (h.covers_offer x)
        · exact Or.inr hx

/-! ## Selection -/

theorem pop?_of_shows_nil (h : p.Shows []) : p.pop? = none := if_pos h.size

/-- The last candidate is taken off. -/
theorem exists_pop? (h : p.Shows (l ++ [c])) : ∃ q, p.pop? = some (some c, q) ∧ q.Shows l := by
  have hsize : p.size = l.length + 1 := h.size.trans (by simp)
  have hfits : l.length + 1 ≤ 16 := by
    have hfits := h.fits
    rwa [List.length_append] at hfits
  have hlast : p.slots[l.length].candidate? = some c := by
    rw [h.slots l.length (by omega) (by simp), List.getElem_concat_length rfl]
  have hpop := pop?_of_size_ne_zero (p := p) (by omega)
  simp only [hsize, Nat.add_sub_cancel] at hpop
  rw [Vector.getElem?_eq_getElem (by omega), Option.bind_some, hlast] at hpop
  refine ⟨_, hpop, rfl, Nat.le_of_lt hfits, fun i hi hil => ?_⟩
  have hne : i ≠ l.length := by omega
  rw [getElem_alter, if_neg hne, h.slots i hi (by simp; omega), List.getElem_append_left hil]

/-- What a look for a victim comes to: the last candidate that is still there, with all before it
left in the pool; or none, and nothing left. The candidates behind it were asked about, from the
last on, and are counted as gone. -/
inductive Selected (present : Nat → Bytes → Bool) (buffer : Bytes) (l : List Candidate)
    (s : Selection) : Prop where
  | found (below above : List Candidate) (c : Candidate) (hl : l = below ++ c :: above)
    (hvictim : s.victim = some c) (hc : present c.shard c.key = true)
    (habove : ∀ x ∈ above, present x.shard x.key = false) (hleft : s.pool.Shows below)
    (hghosts : s.ghosts = above.length) (hasked : s.asked = above.reverse ++ [c])
    (hbuffer : s.buffer = c.key)
  | nothing (hvictim : s.victim = none) (hl : ∀ x ∈ l, present x.shard x.key = false)
    (hleft : s.pool.Shows []) (hghosts : s.ghosts = l.length) (hasked : s.asked = l.reverse)
    (hbuffer : s.buffer = buffer)

theorem Shows.select (h : p.Shows l) (present : Nat → Bytes → Bool) (buffer : Bytes) :
    Selected present buffer l (p.select present buffer) := by
  induction l using List.reverseRecOn generalizing p with
  | nil =>
    rw [Pool.select]
    split
    · exact .nothing rfl (by simp) h rfl rfl rfl
    · rename_i hpop
      rw [pop?_of_shows_nil h] at hpop
      cases hpop
    · rename_i hpop
      rw [pop?_of_shows_nil h] at hpop
      cases hpop
  | append_singleton l c ih =>
    obtain ⟨q, hq, hleft⟩ := exists_pop? h
    rw [Pool.select]
    split
    · rename_i hpop
      rw [hq] at hpop
      cases hpop
    · rename_i hpop
      rw [hq] at hpop
      cases hpop
    · rename_i hpop
      rw [hq] at hpop
      cases hpop
      by_cases hc : present c.shard c.key = true
      · rw [if_pos hc]
        exact .found l [] c rfl rfl hc (by simp) hleft rfl rfl rfl
      · rw [if_neg hc]
        have hc : present c.shard c.key = false := Bool.eq_false_iff.mpr hc
        cases ih hleft with
        | found below above c' hl hvictim hc' habove hbelow hghosts hasked hbuffer =>
          refine .found below (above ++ [c]) c' (by simp [hl]) hvictim hc' (fun x hx => ?_) hbelow
            (by simp [hghosts]) (by simp [hasked]) hbuffer
          rcases List.mem_append.mp hx with hx | hx
          · exact habove x hx
          · rw [List.mem_singleton.mp hx]
            exact hc
        | nothing hvictim hl hempty hghosts hasked hbuffer =>
          refine .nothing hvictim (fun x hx => ?_) hempty (by simp [hghosts]) (by simp [hasked])
            hbuffer
          rcases List.mem_append.mp hx with hx | hx
          · exact hl x hx
          · rw [List.mem_singleton.mp hx]
            exact hc

variable {present : Nat → Bytes → Bool} {buffer : Bytes} {s : Selection}

/-- The victim is the last candidate that is still there. -/
theorem Selected.victim_eq (h : Selected present buffer l s) :
    s.victim = (l.filter fun c => present c.shard c.key).getLast? := by
  cases h with
  | found below above c hl hvictim hc habove =>
    have hgone : above.filter (fun c => present c.shard c.key) = [] := by simpa using habove
    simp [hvictim, hl, hc, hgone]
  | nothing hvictim hl =>
    have hgone : l.filter (fun c => present c.shard c.key) = [] := by simpa using hl
    simp [hvictim, hgone]

/-! ## Selection from a list in order -/

/-- A pool whose candidates ascend in rank. -/
def Ordered (p : Pool) : Prop := ∃ l, p.Shows l ∧ Ascending l

theorem ordered_of_size_eq_zero (h : p.size = 0) : p.Ordered :=
  ⟨[], shows_of_size_eq_zero h, List.Pairwise.nil⟩

/-- What is left of a list in order is in order. -/
theorem Selected.ordered (h : Selected present buffer l s) (hl : Ascending l) :
    s.pool.Ordered := by
  cases h with
  | found below above c hsplit _ _ _ hleft =>
    rw [hsplit] at hl
    exact ⟨below, hleft, (List.pairwise_append.mp hl).1⟩
  | nothing _ _ hleft => exact ⟨[], hleft, List.Pairwise.nil⟩

/-- Nothing that a list in order covers, and that is still there, beats what is selected from it. -/
theorem Selected.rank_le_of_covers (h : Selected present buffer l s) (hl : Ascending l)
    (hc : s.victim = some c) (hx : Covers l x) (hthere : present x.shard x.key = true) :
    x.rank ≤ c.rank := by
  cases h with
  | nothing hvictim =>
    rw [hvictim] at hc
    cases hc
  | found below above c' hsplit hvictim _ habove =>
    rw [hvictim] at hc
    cases hc
    subst hsplit
    obtain ⟨-, -, hbelow⟩ := List.pairwise_append.mp hl
    rcases hx with hin | ⟨-, hleast⟩
    · rcases List.mem_append.mp hin with hin | hin
      · exact hbelow x hin c List.mem_cons_self
      · rcases List.mem_cons.mp hin with rfl | hin
        · exact Nat.le_refl _
        · -- what was above the victim is gone
          rw [habove x hin] at hthere
          cases hthere
    · exact hleast c (by simp)

end SampledEviction.Pool
