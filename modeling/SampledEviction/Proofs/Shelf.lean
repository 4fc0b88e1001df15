import Mathlib.Control.Monad.Basic
import SampledEviction.Evictor.Cycle

/-!
# A shelf

A small site on which single checks are worked out: one shard of keys, each with its cost. A
deferred deletion leaves the cost in a queue, of which a millisecond of waiting releases the
oldest; some shelves release all of it when the server is told of a key.
-/

namespace SampledEviction

/-- One shard of keys, and what they cost. -/
structure Shelf where
  keys : List (Bytes × Nat)
  used : Nat
  /-- The costs still to be released. -/
  queue : List Nat := []
  /-- Whether costs are released when the server is told of a key. -/
  releasesAtOnce : Bool := false
  /-- The number of readings that will succeed, if not all. -/
  readable : Option Nat := none

namespace Shelf

/-- The cost of a key. -/
def cost? (s : Shelf) (key : Bytes) : Option Nat :=
  (s.keys.find? (·.1 == key)).map (·.2)

/-- The shelf without a key. -/
def without (s : Shelf) (key : Bytes) : Shelf := { s with keys := s.keys.filter (·.1 != key) }

/-- The keys of a shelf, none of which expires. -/
def dataset : Dataset Shelf where
  shards _ := 1
  count s _ scope := if scope = .all then s.keys.length else 0
  sample _ _ n s := ((s.keys.take n).map fun e => (e.1, .stamp default), s)
  stamp? s _ key := (s.cost? key).map fun _ => default
  contains s _ scope key := decide (scope = .all) && (s.cost? key).isSome
  randomKey _ _ s := (s.keys.head?.map (·.1), s)
  delete _ key s :=
    match s.cost? key with
    | none => (false, s)
    | some n => (true, { s.without key with used := s.used - n })
  deleteDeferred _ key s :=
    match s.cost? key with
    | none => (false, s)
    | some n => (true, { s.without key with queue := s.queue ++ [n] })
  pendingReleases s := (s.queue.length, s)

/-- The server around a shelf. -/
def server : Server Shelf where
  usedBytes s :=
    match s.readable with
    | none => (.ok s.used, s)
    | some 0 => (.error (.memoryUnavailable "gone"), s)
    | some (n + 1) => (.ok s.used, { s with readable := some n })
  evicted _ _ s :=
    if s.releasesAtOnce then { s with used := s.queue.foldl (· - ·) s.used, queue := [] } else s

/-- A clock that stands still while costs are released. -/
def clock : Clock Shelf where
  seconds _ := 0
  sleep ms s := { s with used := (s.queue.take ms).foldl (· - ·) s.used, queue := s.queue.drop ms }

/-- An evictor of random keys under a limit, at a shelf. -/
def scene (limit : Nat) (lazy : Bool) (s : Shelf) : Scene Shelf where
  site := s
  evictor :=
    { settings :=
        { policy := .allKeysRandom, maxMemory := limit, lazy := lazy, waitLimit := 1 }
      budget := ⟨limit⟩
      sampler := ⟨5⟩
      ranking := ⟨.allKeysRandom, 1⟩
      pool := .empty
      cursor := 0
      stats := {} }

/-- The result of a check at a shelf, which five deletions are enough for. -/
def check (s : Scene Shelf) : CheckResult Shelf :=
  (Evictor.ensureWithin 5 2 dataset server clock s).getD ⟨.ok .ok, s, []⟩

theorem ensureWithin_eq {s : Scene Shelf}
    (h : (Evictor.ensureWithin 5 2 dataset server clock s).isSome) :
    Evictor.ensureWithin 5 2 dataset server clock s = some (check s) := by
  obtain ⟨r, hr⟩ := Option.isSome_iff_exists.mp h
  rw [check, hr, Option.getD_some]

/-! ## Scenes -/

/-- A key and its cost. -/
def first : Bytes × Nat := (⟨#[1]⟩, 100)

/-- Another key and its cost. -/
def second : Bytes × Nat := (⟨#[2]⟩, 100)

/-- Usage is 250 of 50, and can be read `n` times. -/
def failing (n : Nat) : Scene Shelf :=
  scene 50 false { keys := [first, second], used := 250, readable := some n }

/-- Usage is 250 of 150, and falls enough during the wait. -/
def deferred : Scene Shelf := scene 150 true { keys := [first], used := 250 }

/-- Usage is 200 of 50: half of it the cost of a key, the other half still to be released. -/
def leftover : Scene Shelf := scene 50 false { keys := [first], used := 200, queue := [100] }

/-- Usage is 250 of 20, and falls too little. -/
def crammed : Scene Shelf := scene 20 true { keys := [first, second], used := 250 }

/-- Usage is 150 of 50, and falls enough when the server is told of the key. -/
def prompt : Scene Shelf := scene 50 true { keys := [first], used := 150, releasesAtOnce := true }

/-- A server with replicas, that pauses clients when no key is left. -/
def replicated : Server Shelf :=
  { server with hasReplicas := fun _ => true, clientsPaused := fun s => s.keys.isEmpty }

/-- Usage is 175 of 5, and seventeen keys cost all of the rest. -/
def stocked : Scene Shelf :=
  scene 5 false { keys := (List.range 17).map fun n => (⟨#[n.toUInt8]⟩, 10), used := 175 }

/-- A server behind which the background releases all that is to be released when the exempt bytes
are read. -/
def releasing : Server Shelf :=
  { server with
    exemptBytes := fun s => (0, { s with used := s.queue.foldl (· - ·) s.used, queue := [] }) }

/-- Usage is 180 of 175, of which ten bytes are still to be released. -/
def overfull : Scene Shelf :=
  scene 175 true
    { keys := (List.range 17).map fun n => (⟨#[n.toUInt8]⟩, 10), used := 180, queue := [10] }

end Shelf

end SampledEviction
