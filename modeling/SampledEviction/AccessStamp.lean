import SampledEviction.Frequency
import SampledEviction.Policy

/-!
# Access stamps

Every key carries 24 bits about its use. Under a policy that ranks by frequency they are a
minute of 16 bits and a counter of 8, under any other they are the tick of the last access.
-/

namespace SampledEviction

/-- Twenty-four bits about the use of a key. -/
structure AccessStamp where
  raw : Nat
  raw_lt : raw < Moment.tickCount := by decide
  deriving DecidableEq, Repr

namespace AccessStamp

/-- The number of values of a counter. -/
def counterCount : Nat := 0x100

instance : Inhabited AccessStamp := ⟨⟨0, by decide⟩⟩

/-- The stamp of the low 24 bits of a number. -/
def ofRaw (n : Nat) : AccessStamp := ⟨n % Moment.tickCount, Nat.mod_lt _ (by decide)⟩

/-- The stamp of an access at a tick. -/
def ofTick (tick : Nat) : AccessStamp := ofRaw tick

/-- The stamp of a counter written at a minute. -/
def ofFrequency (minute counter : Nat) : AccessStamp where
  raw := minute % Moment.minuteCount * counterCount + counter % counterCount
  raw_lt := by
    simp only [Moment.tickCount, Moment.minuteCount, counterCount]
    omega

/-- The tick of the last access. -/
def tick (s : AccessStamp) : Nat := s.raw

/-- The minute at which the counter was written. -/
def minute (s : AccessStamp) : Nat := s.raw / counterCount

/-- The counter. -/
def counter (s : AccessStamp) : Nat := s.raw % counterCount

theorem counter_le (s : AccessStamp) : s.counter ≤ Frequency.top :=
  Nat.le_of_lt_succ (Nat.mod_lt _ (by decide))

theorem minute_ofFrequency (minute counter : Nat) :
    (ofFrequency minute counter).minute = minute % Moment.minuteCount := by
  simp only [ofFrequency, AccessStamp.minute, Moment.minuteCount, counterCount]
  omega

theorem counter_ofFrequency (minute counter : Nat) :
    (ofFrequency minute counter).counter = counter % counterCount := by
  simp only [ofFrequency, AccessStamp.counter, counterCount]
  omega

end AccessStamp

end SampledEviction
