import SampledEviction.Bytes
import SampledEviction.Word

/-!
# Charging for entries

Every entry is charged for its key, its value and a fixed overhead, and an entry that expires
for a further overhead. The charges are kept in one counter.
-/

namespace SampledEviction.Keyspace

/-- The overhead of an entry in bytes. -/
def entryOverhead : Nat := 48

/-- The overhead of an expiration in bytes. -/
def deadlineOverhead : Nat := 32

/-- The bytes charged for an entry. -/
def charge (key value : Bytes) (expires : Bool) : Nat :=
  key.size + value.size + entryOverhead + if expires then deadlineOverhead else 0

/-- A counter of bytes: it wraps at the top and stops at zero. -/
structure Counter where
  bytes : Nat := 0
  deriving DecidableEq, Repr, Inhabited

namespace Counter

/-- The counter after a charge. -/
def add (c : Counter) (n : Nat) : Counter := ⟨Word.add c.bytes n⟩

/-- The counter after a release. -/
def sub (c : Counter) (n : Nat) : Counter := ⟨c.bytes - n⟩

end Counter

end SampledEviction.Keyspace
