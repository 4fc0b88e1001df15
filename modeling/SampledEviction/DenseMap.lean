import SampledEviction.Random.Draw
import Std.Data.HashMap

/-!
# Dense maps

A finite map whose entries lie in one array without holes, so that a random position is a
random entry. An index tells the position of each key. Removal moves the last entry into the
hole.
-/

namespace SampledEviction

/-- Entries in an array, and the position of each key in it. -/
structure DenseMap (α β : Type) [BEq α] [Hashable α] where
  entries : Array (α × β)
  index : Std.HashMap α Nat

namespace DenseMap

variable {α β : Type} [BEq α] [Hashable α]

/-- The map without entries. -/
def empty : DenseMap α β := ⟨#[], ∅⟩

instance : Inhabited (DenseMap α β) := ⟨empty⟩

/-! ## Reading -/

/-- The number of entries. -/
def size (m : DenseMap α β) : Nat := m.entries.size

def isEmpty (m : DenseMap α β) : Bool := m.entries.isEmpty

/-- Whether a key is in the map. -/
def contains (m : DenseMap α β) (k : α) : Bool := m.index.contains k

/-- The value of a key. -/
def get? (m : DenseMap α β) (k : α) : Option β := do
  let i ← m.index[k]?
  let entry ← m.entries[i]?
  return entry.2

/-- The entries in the order of their positions. -/
def toList (m : DenseMap α β) : List (α × β) := m.entries.toList

/-- The entry at a position that is drawn; an empty map draws nothing. -/
def pick {γ : Type} (below : Nat → γ → Nat × γ) (m : DenseMap α β) (g : γ) :
    Option (α × β) × γ :=
  if m.entries.isEmpty then (none, g)
  else
    let (i, g) := below m.entries.size g
    (m.entries[i]?, g)

/-- A random entry. -/
def random (m : DenseMap α β) (g : Xoshiro) : Option (α × β) × Xoshiro := m.pick Xoshiro.below g

/-! ## Writing -/

/-- Sets the value of a key: in its place if the key is there, else in a new last place. Returns the
value that the key had. -/
def exchange (m : DenseMap α β) (k : α) (v : β) : Option β × DenseMap α β :=
  match m with
  | ⟨entries, index⟩ =>
    match index[k]? with
    | some i => (entries[i]?.map (·.2), ⟨entries.modify i fun e => (e.1, v), index⟩)
    | none =>
      let size := entries.size
      (none, ⟨entries.push (k, v), index.insert k size⟩)

/-- Sets the value of a key. -/
def insert (m : DenseMap α β) (k : α) (v : β) : DenseMap α β := (m.exchange k v).2

/-- Changes the value of a key, if it is there. -/
def modify (m : DenseMap α β) (k : α) (f : β → β) : DenseMap α β :=
  match m with
  | ⟨entries, index⟩ =>
    match index[k]? with
    | some i => ⟨entries.modify i fun e => (e.1, f e.2), index⟩
    | none => ⟨entries, index⟩

/-- Removes a key, if it is there; the last entry takes its place. Returns the value that the key
had. -/
def remove (m : DenseMap α β) (k : α) : Option β × DenseMap α β :=
  match m with
  | ⟨entries, index⟩ =>
    match index[k]? with
    | none => (none, ⟨entries, index⟩)
    | some i =>
      let index := index.erase k
      let value := entries[i]?.map (·.2)
      let entries := (entries.swapIfInBounds i (entries.size - 1)).pop
      match entries[i]? with
      | some moved => (value, ⟨entries, index.modify moved.1 fun _ => i⟩)
      | none => (value, ⟨entries, index⟩)

/-- Removes a key. -/
def erase (m : DenseMap α β) (k : α) : DenseMap α β := (m.remove k).2

end DenseMap

end SampledEviction
