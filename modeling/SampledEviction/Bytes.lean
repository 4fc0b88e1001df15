/-!
# Byte strings

The keys and values of the keyspace. They are compared by content.
-/

namespace SampledEviction

/-- A byte string. -/
abbrev Bytes := ByteArray

namespace Bytes

instance : DecidableEq Bytes := fun a b =>
  if h : a.data = b.data then isTrue (ByteArray.ext h)
  else isFalse fun e => h (e ▸ rfl)

instance : LawfulBEq Bytes where
  eq_of_beq h := ByteArray.ext (eq_of_beq h)
  rfl {a} := by
    show (a.data == a.data) = true
    exact beq_self_eq_true a.data

end Bytes

end SampledEviction
