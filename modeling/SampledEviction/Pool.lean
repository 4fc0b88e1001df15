import SampledEviction.Pool.Slot

/-!
# The candidate pool

Sixteen slots hold the best candidates seen so far, the best of them in the last occupied
slot. The pool outlives an eviction cycle, so a candidate may stand for a key that is gone:
`Pool.select` asks before it hands one out.

Slots below `size` are occupied and ascend in rank, those from `size` on are empty. Candidates
move with their slots, so that the buffers in which short keys are kept are used over and over.

* `Pool.size_pop?` — taking the best candidate away empties one slot
-/

namespace SampledEviction

/-- Sixteen slots, of which the first `size` are occupied. -/
structure Pool where
  slots : Vector Slot 16
  size : Nat

/-- The outcome of a look for a victim. -/
structure Selection where
  /-- The best candidate that is still there. -/
  victim : Option Candidate
  /-- The number of candidates that were dropped because they are gone. -/
  ghosts : Nat
  /-- The candidates that were asked about, in that order. -/
  asked : List Candidate
  /-- What is left of the pool. -/
  pool : Pool
  /-- The buffer of the one who looked: the key of the victim, or what it held before. -/
  buffer : Bytes

namespace Pool

/-- The number of slots. -/
abbrev capacity : Nat := 16

/-- The pool without candidates. -/
def empty : Pool := ⟨Vector.replicate 16 .unused, 0⟩

instance : Inhabited Pool := ⟨empty⟩

/-! ## Views -/

/-- The occupied slots. -/
def occupied (p : Pool) : List Slot := p.slots.toList.take p.size

/-- The candidates in ascending rank. -/
def toList (p : Pool) : List Candidate := p.occupied.filterMap Slot.candidate?

def isEmpty (p : Pool) : Bool := p.size == 0

def isFull (p : Pool) : Bool := p.size == capacity

/-- The worst candidate. -/
def first? (p : Pool) : Option Candidate := p.toList.head?

/-- The best candidate. -/
def best? (p : Pool) : Option Candidate := p.toList.getLast?

/-- The lowest rank in the pool. -/
def minRank? (p : Pool) : Option Nat := p.first?.map (·.rank)

/-- The number of candidates whose key is kept in the buffer of their slot. -/
def inlineKeys (p : Pool) : Nat := p.occupied.countP Slot.isInline

/-! ## Moving slots -/

/-- The slots with the one at `k` changed. -/
def alter (slots : Vector Slot 16) (k : Nat) (f : Slot → Slot) : Vector Slot 16 :=
  Vector.ofFn fun i => if i.val = k then f slots[i] else slots[i]

/-- The slots from `k` to `n` in turn: the one at `n` comes to `k`, the others move up by one. -/
def turnUp (slots : Vector Slot 16) (k n : Nat) (h : n < capacity) : Vector Slot 16 :=
  Vector.ofFn fun i =>
    if k < i.val ∧ i.val ≤ n then slots[i.val - 1]
    else if i.val = k ∧ k ≤ n then slots[n]
    else slots[i]

/-- The first `k` slots in turn: the first of them comes last, the others move down by one. -/
def turnDown (slots : Vector Slot 16) (k : Nat) : Vector Slot 16 :=
  Vector.ofFn fun i =>
    if i.val + 1 < k then slots[i.val + 1]?.getD slots[i]
    else if i.val + 1 = k then slots[0]
    else slots[i]

/-! ## Insertion -/

/-- The slot of a newcomer: behind all candidates of no higher rank. -/
def position (p : Pool) (rank : Nat) : Nat := (p.occupied.takeWhile (·.rank ≤ rank)).length

/-- Puts a candidate into slot `k`. The first empty slot moves there, and those from `k` on move
up. -/
def shiftUp (p : Pool) (k : Nat) (c : Candidate) (h : p.size < capacity) : Pool where
  slots := alter (turnUp p.slots k p.size h) k (·.fill c)
  size := p.size + 1

/-- Puts a candidate below slot `k`. The first slot moves there, whose candidate is lost, and those
under `k` move down. -/
def shiftDown (p : Pool) (k : Nat) (c : Candidate) : Pool where
  slots := alter (turnDown p.slots k) (k - 1) (·.fill c)
  size := p.size

/--
Offers a candidate, and tells whether it was taken.

It goes behind its equals. A full pool gives up its worst candidate for a better one, and
refuses one that is no better.
-/
def insert (p : Pool) (c : Candidate) : Bool × Pool :=
  let k := p.position c.rank
  if h : p.size < capacity then (true, p.shiftUp k c h)
  else if c.rank ≤ p.slots[0].rank then (false, p)
  else (true, p.shiftDown k c)

/-- Drops all candidates. -/
def clear (p : Pool) : Pool where
  slots := Vector.ofFn fun i => if i.val < p.size then p.slots[i].clear else p.slots[i]
  size := 0

/-! ## Selection -/

/-- The content of the last occupied slot, and the pool with that slot emptied. -/
def pop? (p : Pool) : Option (Option Candidate × Pool) :=
  if p.size = 0 then none
  else
    some (p.slots[p.size - 1]?.bind Slot.candidate?,
      ⟨alter p.slots (p.size - 1) Slot.clear, p.size - 1⟩)

theorem size_pop? {p q : Pool} {c : Option Candidate} (h : p.pop? = some (c, q)) :
    q.size < p.size := by
  unfold pop? at h
  split at h
  · simp at h
  · simp only [Option.some.injEq, Prod.mk.injEq] at h
    rw [← h.2]
    simp only []
    omega

/--
Takes the best candidate that is still there, and writes its key into a buffer.

Every candidate looked at leaves the pool: those above the victim because they are gone, the
victim because it is handed out.
-/
def select (p : Pool) (present : Nat → Bytes → Bool) (buffer : Bytes) : Selection :=
  match _h : p.pop? with
  | none => ⟨none, 0, [], p, buffer⟩
  | some (none, q) =>
    let s := q.select present buffer
    { s with ghosts := s.ghosts + 1 }
  | some (some c, q) =>
    if present c.shard c.key then ⟨some c, 0, [c], q, c.key⟩
    else
      let s := q.select present buffer
      { s with ghosts := s.ghosts + 1, asked := c :: s.asked }
termination_by p.size
decreasing_by all_goals exact size_pop? _h

end Pool

end SampledEviction
