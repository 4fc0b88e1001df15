import SampledEviction.Bytes

/-!
# Slots

A slot of the pool has room for one candidate. A short key is copied into a buffer that belongs to
the slot and is written over by the next short key; a longer key is kept outside of the slot.

* `Slot.candidate?_fill` — a candidate is read back as it was put in, whatever the slot held before
* `Slot.isInline_iff` — the keys in buffers are the short ones
-/

namespace SampledEviction

/-- A key that may be evicted. -/
structure Candidate where
  /-- The larger, the better a victim. -/
  rank : Nat
  shard : Nat
  key : Bytes
  deriving DecidableEq

/-- The longest key that the buffer of a slot has room for. -/
def inlineKeyLength : Nat := 255

/-- Where a slot keeps its key. -/
inductive KeyPlace where
  /-- There is none: the slot is empty. -/
  | nowhere
  /-- In the first bytes of the buffer. -/
  | inline (length : UInt8)
  /-- Outside, as the buffer has no room for it. -/
  | outside (key : Bytes) (long : inlineKeyLength < key.size)

/-- Room for a candidate. What a former key left in the buffer stays until it is written over. -/
structure Slot where
  rank : Nat
  shard : Nat
  place : KeyPlace
  buffer : Bytes
  size_buffer : buffer.size = inlineKeyLength

namespace Slot

/-- A slot that was never used. -/
def unused : Slot where
  rank := 0
  shard := 0
  place := .nowhere
  buffer := ⟨Array.replicate inlineKeyLength 0⟩
  size_buffer := by simp [ByteArray.size]

/-- Puts a candidate into a slot. -/
def fill (s : Slot) (c : Candidate) : Slot :=
  if h : c.key.size ≤ inlineKeyLength then
    { rank := c.rank
      shard := c.shard
      place := .inline (UInt8.ofNat c.key.size)
      buffer := c.key ++ s.buffer.extract c.key.size s.buffer.size
      size_buffer := by
        rw [ByteArray.size_append, ByteArray.size_extract, s.size_buffer]
        omega }
  else
    { s with
      rank := c.rank
      shard := c.shard
      place := .outside c.key (Nat.lt_of_not_le h) }

/-- Empties a slot. The buffer stays as it is. -/
def clear (s : Slot) : Slot := { s with rank := 0, shard := 0, place := .nowhere }

/-- The key in a slot. -/
def key? (s : Slot) : Option Bytes :=
  match s.place with
  | .nowhere => none
  | .inline length => some (s.buffer.extract 0 length.toNat)
  | .outside key _ => some key

/-- The candidate in a slot. -/
def candidate? (s : Slot) : Option Candidate := s.key?.map (⟨s.rank, s.shard, ·⟩)

/-- Whether the key is in the buffer. -/
def isInline (s : Slot) : Bool :=
  match s.place with
  | .inline _ => true
  | _ => false

/-! ## Reading -/

@[simp] theorem candidate?_unused : unused.candidate? = none := rfl

@[simp] theorem candidate?_clear (s : Slot) : s.clear.candidate? = none := rfl

theorem rank_of_candidate? {s : Slot} {c : Candidate} (h : s.candidate? = some c) :
    s.rank = c.rank := by
  obtain ⟨key, -, rfl⟩ := Option.map_eq_some_iff.mp h
  rfl

/-- A candidate is read back as it was put in, whatever the slot held before. -/
@[simp] theorem candidate?_fill (s : Slot) (c : Candidate) : (s.fill c).candidate? = some c := by
  unfold fill
  split
  · rename_i hshort
    -- a short length is not cut off by the byte that it is kept in
    have hlength : (UInt8.ofNat c.key.size).toNat = c.key.size := by
      rw [UInt8.toNat_ofNat']
      exact Nat.mod_eq_of_lt (Nat.lt_succ_of_le hshort)
    have hkey : (c.key ++ s.buffer.extract c.key.size s.buffer.size).extract 0 c.key.size = c.key :=
      ByteArray.extract_append_eq_left rfl
    simp [candidate?, key?, hlength, hkey]
  · rfl

/-- The keys in buffers are the short ones. -/
theorem isInline_iff {s : Slot} {c : Candidate} (h : s.candidate? = some c) :
    s.isInline = true ↔ c.key.size ≤ inlineKeyLength := by
  obtain ⟨key, hkey, rfl⟩ := Option.map_eq_some_iff.mp h
  unfold key? at hkey
  unfold isInline
  split at hkey
  · cases hkey
  · rename_i length hplace
    cases hkey
    have hfits : (s.buffer.extract 0 length.toNat).size ≤ inlineKeyLength := by
      rw [ByteArray.size_extract, s.size_buffer]
      omega
    simp only [hplace, true_iff]
    exact hfits
  · rename_i outside hlong hplace
    cases hkey
    simp [hplace, hlong]

end Slot

end SampledEviction
