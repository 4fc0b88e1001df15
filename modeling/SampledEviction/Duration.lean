import SampledEviction.Moment
import SampledEviction.Word

/-!
# Durations and a clock moved by hand
-/

namespace SampledEviction

/-- A length of time in seconds and nanoseconds. -/
structure Duration where
  seconds : Nat
  nanos : Nat := 0
  deriving DecidableEq, Repr

namespace Duration

/-- The nanoseconds of a second. -/
def nanosPerSecond : Nat := 1_000_000_000

/-- A number of milliseconds. -/
def ofMillis (n : Nat) : Duration := ⟨n / 1000, n % 1000 * 1000000⟩

/-- Seconds and any number of nanoseconds. -/
def ofParts (seconds nanos : Nat) : Duration :=
  ⟨seconds + nanos / nanosPerSecond, nanos % nanosPerSecond⟩

/-- The longest duration. -/
def longest : Duration := ⟨Word.top, nanosPerSecond - 1⟩

/-- The whole milliseconds, as a 64-bit counter shows them. -/
def millis (d : Duration) : Nat := Word.wrap (d.seconds * 1000 + d.nanos / 1000000)

end Duration

/-- A clock that stands still unless it is set, advanced or waited on. -/
structure ManualClock where
  /-- The time in milliseconds. -/
  millis : Nat := 0
  /-- The number of waits. -/
  sleeps : Nat := 0
  /-- The time spent waiting in milliseconds. -/
  sleptMillis : Nat := 0
  deriving DecidableEq, Repr, Inhabited

namespace ManualClock

/-- A clock that shows some second; it cannot show one beyond its counter. -/
def start (seconds : Nat) : ManualClock := { millis := Word.saturatingMul seconds 1000 }

/-- Sets the clock to some second. -/
def set (c : ManualClock) (seconds : Nat) : ManualClock :=
  { c with millis := Word.saturatingMul seconds 1000 }

/-- Moves the clock on. -/
def advance (c : ManualClock) (d : Duration) : ManualClock :=
  { c with millis := Word.add c.millis d.millis }

/-- Waits: the clock moves on, and the wait is counted. -/
def sleep (c : ManualClock) (d : Duration) : ManualClock where
  millis := Word.add c.millis d.millis
  sleeps := c.sleeps + 1
  sleptMillis := Word.add c.sleptMillis d.millis

/-- The second that the clock shows. -/
def seconds (c : ManualClock) : Nat := c.millis / 1000

/-- The moment that the clock shows. -/
def now (c : ManualClock) : Moment := ⟨c.seconds⟩

end ManualClock

end SampledEviction
