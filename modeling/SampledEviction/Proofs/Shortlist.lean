import Mathlib.Data.List.DropRight
import SampledEviction.Proofs.PoolOrder

/-!
# The pool as a shortlist

A shortlist is a plain list of candidates, of which the last is the best. A pool answers every
request as a shortlist does, whatever moves between its slots and whatever former keys left in their
buffers.

* `Stands.insert`, `Stands.select`, `Stands.clear` — a request keeps a pool and its list together
* `Stands.serve` — and both give the same reply
* `serveAll_refines` — so both do for any requests
-/

namespace SampledEviction

open Pool

/-! ## Requests -/

/-- A request to a pool. -/
inductive Request where
  | insert (c : Candidate)
  | select (present : Nat → Bytes → Bool)
  | clear

/-- The answer to a request. -/
inductive Reply where
  | inserted (taken : Bool)
  /-- A victim, if there is one, with the number of candidates that are gone, and all that were
  asked about. -/
  | selected (victim : Option Candidate) (ghosts : Nat) (asked : List Candidate)
  | cleared

/-- The candidates that an answer tells of. -/
def Reply.told : Reply → List Candidate
  | .selected victim _ asked => victim.toList ++ asked
  | _ => []

/-- Requests one after the other, and the answers to them. -/
def serveAll {α : Type} (serve : Request → α → Reply × α) : List Request → α → List Reply × α
  | [], a => ([], a)
  | request :: rest, a =>
    let (reply, a) := serve request a
    let (replies, a) := serveAll serve rest a
    (reply :: replies, a)

/-- A request to a pool, by one with a buffer for keys. -/
def Pool.serve : Request → Pool × Bytes → Reply × Pool × Bytes
  | .insert c, (p, buffer) =>
    let (taken, p) := p.insert c
    (.inserted taken, p, buffer)
  | .select present, (p, buffer) =>
    let s := p.select present buffer
    (.selected s.victim s.ghosts s.asked, s.pool, s.buffer)
  | .clear, (p, buffer) => (.cleared, p.clear, buffer)

/-! ## Shortlists -/

namespace Shortlist

/-- A candidate goes behind the last one of no higher rank. A list of sixteen gives up its first
candidate for one that beats it, and refuses any other. -/
def insert (l : List Candidate) (c : Candidate) : Bool × List Candidate :=
  let placed := l.rdropWhile (c.rank < ·.rank) ++ c :: l.rtakeWhile (c.rank < ·.rank)
  if l.length < capacity then (true, placed)
  else if l.head?.any (c.rank ≤ ·.rank) then (false, l)
  else (true, placed.tail)

/-- The candidates at the end of a list that are gone. -/
def ghosts (present : Nat → Bytes → Bool) (l : List Candidate) : List Candidate :=
  l.rtakeWhile fun c => !present c.shard c.key

/-- What is left of a list without these; the last of them is the victim. -/
def upToVictim (present : Nat → Bytes → Bool) (l : List Candidate) : List Candidate :=
  l.rdropWhile fun c => !present c.shard c.key

/-- A request to a shortlist, by one with a buffer for keys. -/
def serve : Request → List Candidate × Bytes → Reply × List Candidate × Bytes
  | .insert c, (l, buffer) =>
    let (taken, l) := insert l c
    (.inserted taken, l, buffer)
  | .select present, (l, buffer) =>
    let gone := ghosts present l
    let victim := (upToVictim present l).getLast?
    (.selected victim gone.length (gone.reverse ++ victim.toList),
      (upToVictim present l).dropLast, (victim.map (·.key)).getD buffer)
  | .clear, (_, buffer) => (.cleared, [], buffer)

end Shortlist

namespace Pool

variable {p : Pool} {l : List Candidate} {c : Candidate}

/-! ## Empty slots -/

/-- The slots behind the occupied ones are empty. -/
def Vacant (p : Pool) : Prop := ∀ (i : Nat) (h : i < 16), p.size ≤ i → p.slots[i].candidate? = none

theorem vacant_empty : empty.Vacant := by
  intro i h _
  simp [empty]

theorem Vacant.insert (h : p.Vacant) (c : Candidate) : (p.insert c).2.Vacant := by
  have hk := p.position_le c.rank
  unfold Pool.insert
  dsimp only
  by_cases hroom : p.size < capacity
  · rw [dif_pos hroom]
    intro i hi hsize
    rw [size_shiftUp] at hsize
    rw [candidate?_shiftUp hk c hroom hi, if_neg (by omega), if_neg (by omega), if_neg (by omega)]
    exact h i hi (by omega)
  · rw [dif_neg hroom]
    by_cases hworse : c.rank ≤ p.slots[0].rank
    · rw [if_pos hworse]
      exact h
    · rw [if_neg hworse]
      intro i hi hsize
      rw [size_shiftDown] at hsize
      exact absurd (Nat.lt_of_le_of_lt hsize hi) hroom

theorem Vacant.pop? (h : p.Vacant) {q : Pool} {x : Option Candidate} (hpop : p.pop? = some (x, q)) :
    q.Vacant := by
  have hsize := size_pop? hpop
  rw [pop?_of_size_ne_zero (by omega)] at hpop
  cases hpop
  intro i hi hlow
  rw [getElem_alter]
  split
  · rfl
  · rename_i hne
    dsimp only at hlow
    exact h i hi (by omega)

theorem Vacant.select (h : p.Vacant) (present : Nat → Bytes → Bool) (buffer : Bytes) :
    (p.select present buffer).pool.Vacant := by
  fun_induction Pool.select p present buffer with
  | case1 p hpop => exact h
  | case2 p q hpop s ih => exact ih (h.pop? hpop)
  | case3 p c q hpop hpresent => exact h.pop? hpop
  | case4 p c q hpop hpresent s ih => exact ih (h.pop? hpop)

theorem Vacant.clear (h : p.Vacant) : p.clear.Vacant := by
  intro i hi _
  unfold Pool.clear
  rw [Vector.getElem_ofFn]
  dsimp only
  split
  · rfl
  · exact h i hi (by omega)

/-! ## A pool and its list -/

/-- A pool stands for a list in order: its first slots hold the candidates of the list, and its
other slots are empty. -/
structure Stands (p : Pool) (l : List Candidate) : Prop extends Shows p l where
  ascending : Ascending l
  vacant : p.Vacant

theorem stands_empty : empty.Stands [] :=
  ⟨shows_of_size_eq_zero rfl, List.Pairwise.nil, vacant_empty⟩

theorem Stands.inlineKeys (h : p.Stands l) :
    p.inlineKeys = l.countP (·.key.size ≤ inlineKeyLength) := by
  have hsame : ∀ s ∈ p.occupied, s.isInline =
      s.candidate?.any fun c => decide (c.key.size ≤ inlineKeyLength) := by
    intro s hs
    have hsome : s.candidate? ∈ l.map some := h.occupied ▸ List.mem_map_of_mem hs
    obtain ⟨c, -, hc⟩ := List.mem_map.mp hsome
    rw [← hc, Option.any_some]
    exact Bool.eq_iff_iff.mpr ((Slot.isInline_iff hc.symm).trans decide_eq_true_iff.symm)
  calc p.inlineKeys
      = p.occupied.countP ((Option.any fun c => decide (c.key.size ≤ inlineKeyLength)) ∘
          Slot.candidate?) := List.countP_congr fun s hs => by rw [hsame s hs]; rfl
    _ = (p.occupied.map Slot.candidate?).countP
          (Option.any fun c => decide (c.key.size ≤ inlineKeyLength)) := List.countP_map.symm
    _ = l.countP (·.key.size ≤ inlineKeyLength) := by
      rw [h.occupied, List.countP_map]
      rfl

/-- What a pool shows of the list that it stands for. -/
structure Refines (p : Pool) (l : List Candidate) : Prop where
  toList : p.toList = l
  size : p.size = l.length
  size_le : p.size ≤ capacity
  key (i : Nat) (h : i < 16) : p.slots[i].key?.isSome = true ↔ i < p.size
  ascending : Ascending l
  inlineKeys : p.inlineKeys = l.countP (·.key.size ≤ inlineKeyLength)

theorem Stands.refines (h : p.Stands l) : p.Refines l where
  toList := h.toShows.toList
  size := h.size
  size_le := h.size ▸ h.fits
  key i hi := by
    have hkey : p.slots[i].key?.isSome = p.slots[i].candidate?.isSome := by
      simp [Slot.candidate?]
    rw [hkey, h.size]
    by_cases hin : i < l.length
    · simp [h.slots i hi hin, hin]
    · have hnone := h.vacant i hi (by rw [h.size]; omega)
      simp [hnone, hin]
  ascending := h.ascending
  inlineKeys := h.inlineKeys

/-! ## Insertion -/

theorem rdropWhile_append {α : Type} {f : α → Bool} {below above : List α}
    (h : ∀ x ∈ above, f x = true) :
    (below ++ above).rdropWhile f = below.rdropWhile f ∧
      (below ++ above).rtakeWhile f = below.rtakeWhile f ++ above := by
  have hall : ∀ x ∈ above.reverse, f x = true := by simpa using h
  unfold List.rdropWhile List.rtakeWhile
  rw [List.reverse_append, List.dropWhile_append_of_pos hall, List.takeWhile_append_of_pos hall]
  simp

theorem rdropWhile_of_neg {α : Type} {f : α → Bool} {l : List α} (h : ∀ x ∈ l, f x = false) :
    l.rdropWhile f = l ∧ l.rtakeWhile f = [] := by
  rw [List.rdropWhile_eq_self_iff, List.rtakeWhile_eq_nil_iff, and_self]
  intro hne
  simp [h _ (List.getLast_mem hne)]

/-- The place of a newcomer, counted from the end of a list in order. -/
theorem Ascending.place_eq (h : Ascending l) (c : Candidate) :
    Pool.place c l = l.rdropWhile (c.rank < ·.rank) ++ c :: l.rtakeWhile (c.rank < ·.rank) := by
  obtain ⟨below, above, rfl, hplace, hbelow, habove⟩ := h.exists_place c
  have hbeats : ∀ x ∈ above, decide (c.rank < x.rank) = true := by simpa using habove
  have hloses : ∀ x ∈ below, decide (c.rank < x.rank) = false := by simpa using hbelow
  rw [hplace, (rdropWhile_append hbeats).1, (rdropWhile_append hbeats).2,
    (rdropWhile_of_neg hloses).1, (rdropWhile_of_neg hloses).2, List.nil_append]

theorem Ascending.offer_eq (h : Ascending l) (c : Candidate) :
    (Shortlist.insert l c).2 = Pool.offer l c := by
  unfold Shortlist.insert Pool.offer
  rw [h.place_eq]
  dsimp only
  split
  · rfl
  · split <;> rfl

theorem Shows.insert_taken (h : p.Shows l) (c : Candidate) :
    (p.insert c).1 = (Shortlist.insert l c).1 := by
  have hsize := h.size
  unfold Pool.insert Shortlist.insert
  dsimp only
  by_cases hroom : p.size < capacity
  · rw [dif_pos hroom, if_pos (by omega)]
  · have hfull : ¬ l.length < capacity := by omega
    rw [dif_neg hroom, if_neg hfull]
    by_cases hworse : c.rank ≤ p.slots[0].rank
    · rw [if_pos hworse, if_pos ((h.rank_first hfull c.rank).mpr hworse)]
    · rw [if_neg hworse, if_neg fun hrefused => hworse ((h.rank_first hfull c.rank).mp hrefused)]

theorem Stands.insert (h : p.Stands l) (c : Candidate) :
    (p.insert c).2.Stands (Shortlist.insert l c).2 := by
  rw [h.ascending.offer_eq]
  exact ⟨h.toShows.insert c, h.ascending.offer c, h.vacant.insert c⟩

/-! ## Selection -/

variable {present : Nat → Bytes → Bool} {buffer : Bytes}

theorem upToVictim_of_present {below above : List Candidate}
    (hc : present c.shard c.key = true) (habove : ∀ x ∈ above, present x.shard x.key = false) :
    Shortlist.upToVictim present (below ++ c :: above) = below ++ [c] ∧
      Shortlist.ghosts present (below ++ c :: above) = above := by
  have hgone : ∀ x ∈ above, (!present x.shard x.key) = true := by simpa using habove
  have hsplit : below ++ c :: above = (below ++ [c]) ++ above := by simp
  unfold Shortlist.upToVictim Shortlist.ghosts
  rw [hsplit, (rdropWhile_append hgone).1, (rdropWhile_append hgone).2,
    List.rdropWhile_concat_neg _ _ _ (by simp [hc]),
    List.rtakeWhile_concat_neg _ _ _ (by simp [hc])]
  exact ⟨rfl, rfl⟩

theorem upToVictim_of_gone (hl : ∀ x ∈ l, present x.shard x.key = false) :
    Shortlist.upToVictim present l = [] ∧ Shortlist.ghosts present l = l := by
  unfold Shortlist.upToVictim Shortlist.ghosts
  rw [List.rdropWhile_eq_nil_iff, List.rtakeWhile_eq_self_iff, and_self]
  simpa using hl

/-- The reply to a look for a victim, and the buffer after it, are those of the list. -/
theorem Selected.reply {s : Selection} (h : Selected present buffer l s) :
    (Reply.selected s.victim s.ghosts s.asked, s.buffer)
        = ((Shortlist.serve (.select present) (l, buffer)).1,
          (Shortlist.serve (.select present) (l, buffer)).2.2) ∧
      s.pool.Shows (Shortlist.upToVictim present l).dropLast := by
  cases h with
  | found below above c hl hvictim hc habove hleft hghosts hasked hbuffer =>
    obtain ⟨hupTo, hgone⟩ := @upToVictim_of_present c present below above hc habove
    subst hl
    simp [Shortlist.serve, hupTo, hgone, hvictim, hghosts, hasked, hbuffer, hleft]
  | nothing hvictim hl hleft hghosts hasked hbuffer =>
    obtain ⟨hupTo, hgone⟩ := upToVictim_of_gone hl
    simp [Shortlist.serve, hupTo, hgone, hvictim, hghosts, hasked, hbuffer, hleft]

theorem Stands.select (h : p.Stands l) (present : Nat → Bytes → Bool) (buffer : Bytes) :
    (p.select present buffer).pool.Stands (Shortlist.upToVictim present l).dropLast where
  toShows := (h.toShows.select present buffer).reply.2
  ascending := by
    have hprefix : (Shortlist.upToVictim present l).dropLast <+: l :=
      (List.dropLast_prefix _).trans (List.rdropWhile_prefix _ _)
    exact h.ascending.sublist hprefix.sublist
  vacant := h.vacant.select present buffer

theorem Stands.clear (h : p.Stands l) : p.clear.Stands [] :=
  ⟨shows_of_size_eq_zero rfl, List.Pairwise.nil, h.vacant.clear⟩

/-! ## Any requests -/

/-- A pool answers a request as the list does that it stands for, and goes on standing for it. -/
theorem Stands.serve (h : p.Stands l) (request : Request) (buffer : Bytes) :
    ∃ reply p' l' buffer', Pool.serve request (p, buffer) = (reply, p', buffer') ∧
      Shortlist.serve request (l, buffer) = (reply, l', buffer') ∧ p'.Stands l' := by
  cases request with
  | insert c =>
    refine ⟨.inserted (p.insert c).1, (p.insert c).2, (Shortlist.insert l c).2, buffer, rfl, ?_,
      h.insert c⟩
    rw [h.toShows.insert_taken]
    rfl
  | select present =>
    let s := p.select present buffer
    refine ⟨.selected s.victim s.ghosts s.asked, s.pool, (Shortlist.upToVictim present l).dropLast,
      s.buffer, rfl, ?_, h.select present buffer⟩
    obtain ⟨hreply, hbuffer⟩ := Prod.mk.inj (h.toShows.select present buffer).reply.1
    rw [hreply, hbuffer]
    rfl
  | clear => exact ⟨_, _, _, _, rfl, rfl, h.clear⟩

/-- What a shortlist keeps of an insertion was there before, or is the newcomer. -/
theorem mem_of_insert {x : Candidate} (hx : x ∈ (Shortlist.insert l c).2) : x ∈ l ∨ x = c := by
  have hplaced (hx : x ∈ l.rdropWhile (c.rank < ·.rank) ++ c :: l.rtakeWhile (c.rank < ·.rank)) :
      x ∈ l ∨ x = c := by
    rcases List.mem_append.mp hx with hx | hx
    · exact Or.inl ((List.rdropWhile_prefix _ l).subset hx)
    · rcases List.mem_cons.mp hx with rfl | hx
      · exact Or.inr rfl
      · exact Or.inl ((List.rtakeWhile_suffix _ l).subset hx)
  unfold Shortlist.insert at hx
  dsimp only at hx
  split at hx
  · exact hplaced hx
  · split at hx
    · exact Or.inl hx
    · exact hplaced (List.mem_of_mem_tail hx)

/-- The candidates that a shortlist keeps or tells of were there before, or were inserted. -/
theorem mem_of_serve {request : Request} {reply : Reply} {l' : List Candidate} {buffer' : Bytes}
    (h : Shortlist.serve request (l, buffer) = (reply, l', buffer')) {x : Candidate}
    (hx : x ∈ l' ∨ x ∈ reply.told) : x ∈ l ∨ request = .insert x := by
  cases request with
  | insert c =>
    simp only [Shortlist.serve, Prod.mk.injEq] at h
    obtain ⟨rfl, rfl, -⟩ := h
    rcases mem_of_insert (hx.resolve_right List.not_mem_nil) with hx | rfl
    · exact Or.inl hx
    · exact Or.inr rfl
  | select present =>
    have hkept : Shortlist.upToVictim present l ⊆ l := (List.rdropWhile_prefix _ l).subset
    have hgone : Shortlist.ghosts present l ⊆ l := (List.rtakeWhile_suffix _ l).subset
    have hvictim (hx : x ∈ (Shortlist.upToVictim present l).getLast?) : x ∈ l :=
      hkept (List.mem_of_getLast? hx)
    simp only [Shortlist.serve, Prod.mk.injEq] at h
    obtain ⟨rfl, rfl, -⟩ := h
    left
    rcases hx with hx | hx
    · exact hkept ((List.dropLast_sublist _).subset hx)
    · simp only [Reply.told, List.mem_append, List.mem_reverse, Option.mem_toList] at hx
      rcases hx with hx | hx | hx
      · exact hvictim hx
      · exact hgone hx
      · exact hvictim hx
  | clear =>
    simp only [Shortlist.serve, Prod.mk.injEq] at h
    obtain ⟨rfl, rfl, -⟩ := h
    simp [Reply.told] at hx

/-- A pool answers any requests as the list does that it stands for. The candidates that are kept or
told of were in the list, or were inserted. -/
theorem Stands.serveAll (h : p.Stands l) (requests : List Request) (buffer : Bytes) :
    ∃ replies p' l' buffer',
      serveAll Pool.serve requests (p, buffer) = (replies, p', buffer') ∧
      serveAll Shortlist.serve requests (l, buffer) = (replies, l', buffer') ∧ p'.Stands l' ∧
      ∀ x, (x ∈ l' ∨ ∃ reply ∈ replies, x ∈ reply.told) → x ∈ l ∨ .insert x ∈ requests := by
  induction requests generalizing p l buffer with
  | nil =>
    refine ⟨[], p, l, buffer, rfl, rfl, h, ?_⟩
    rintro x (hx | ⟨_, hreply, -⟩)
    · exact Or.inl hx
    · cases hreply
  | cons request requests ih =>
    obtain ⟨reply, p₁, l₁, buffer₁, hpool, hlist, h₁⟩ := h.serve request buffer
    obtain ⟨replies, p', l', buffer', hpools, hlists, h', hmem⟩ := ih h₁ buffer₁
    refine ⟨reply :: replies, p', l', buffer', ?_, ?_, h', ?_⟩
    · simp only [SampledEviction.serveAll, hpool, hpools]
    · simp only [SampledEviction.serveAll, hlist, hlists]
    · intro x hx
      have hbefore : x ∈ l₁ ∨ x ∈ reply.told ∨ .insert x ∈ requests := by
        rcases hx with hx | ⟨reply', hreply, hx⟩
        · exact (hmem x (Or.inl hx)).imp_right Or.inr
        · rcases List.mem_cons.mp hreply with rfl | hreply
          · exact Or.inr (Or.inl hx)
          · exact (hmem x (Or.inr ⟨reply', hreply, hx⟩)).imp_right Or.inr
      have hfirst (hx : x ∈ l₁ ∨ x ∈ reply.told) : x ∈ l ∨ .insert x ∈ request :: requests := by
        rcases mem_of_serve hlist hx with hx | rfl
        · exact Or.inl hx
        · exact Or.inr List.mem_cons_self
      rcases hbefore with hx | hx | hx
      · exact hfirst (Or.inl hx)
      · exact hfirst (Or.inr hx)
      · exact Or.inr (List.mem_cons_of_mem request hx)

/-- A new pool answers any requests as an empty list does, down to the key in the buffer of the one
who asks, and shows that list all along. Every candidate that is kept or told of was inserted. -/
theorem serveAll_refines (requests : List Request) (buffer : Bytes) :
    ∃ replies p l buffer',
      SampledEviction.serveAll Pool.serve requests (empty, buffer) = (replies, p, buffer') ∧
      SampledEviction.serveAll Shortlist.serve requests ([], buffer) = (replies, l, buffer') ∧
      p.Refines l ∧
      ∀ c, (c ∈ l ∨ ∃ reply ∈ replies, c ∈ reply.told) → .insert c ∈ requests := by
  obtain ⟨replies, p, l, buffer', hpool, hlist, hstands, hmem⟩ :=
    stands_empty.serveAll requests buffer
  refine ⟨replies, p, l, buffer', hpool, hlist, hstands.refines, fun c hc => ?_⟩
  exact (hmem c hc).resolve_left List.not_mem_nil

end Pool

end SampledEviction
