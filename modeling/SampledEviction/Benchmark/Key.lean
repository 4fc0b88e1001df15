import SampledEviction.Bytes

/-!
# Benchmark keys

The key of a number is the number in hexadecimal, of a fixed length. It is written over a buffer,
from the last digit to the first.
-/

namespace SampledEviction.Benchmark

/-- A hexadecimal digit in lower case. -/
def hexDigit (n : Nat) : UInt8 := UInt8.ofNat (if n < 10 then 0x30 + n else 0x61 + n - 10)

/-- Writes the last `count` hexadecimal digits of a number over the first `count` bytes of a
buffer. -/
def writeDigits : Nat → Nat → Bytes → Bytes
  | 0, _, buffer => buffer
  | count + 1, n, buffer => writeDigits count (n / 16) (buffer.set! count (hexDigit (n % 16)))

/-- Writes the key of a number over a buffer of its length. Digits that find no room are lost. -/
def writeKey (id : Nat) (buffer : Bytes) : Bytes := writeDigits buffer.size id buffer

/-- The number of keys of a length. -/
def keyCount : Nat → Nat
  | 0 => 1
  | length + 1 => keyCount length * 16

/-- The key of a number. -/
def key (length id : Nat) : Bytes := writeKey id ⟨Array.replicate length 0⟩

theorem size_writeDigits (count n : Nat) (buffer : Bytes) :
    (writeDigits count n buffer).size = buffer.size := by
  induction count generalizing n buffer with
  | zero => rfl
  | succ count ih => rw [writeDigits, ih, ByteArray.size_set!]

theorem size_writeKey (id : Nat) (buffer : Bytes) : (writeKey id buffer).size = buffer.size :=
  size_writeDigits _ _ _

/-- The key of a number is of the fixed length. -/
theorem size_key (length id : Nat) : (key length id).size = length :=
  (size_writeKey _ _).trans Array.size_replicate

end SampledEviction.Benchmark
