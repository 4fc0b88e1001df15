import SampledEviction.Moment
import SampledEviction.Random.Draw

/-!
# Access frequency

A counter of eight bits stands for how often a key is used. It grows with a chance that
shrinks as it grows, so that it measures the logarithm of the accesses, and it falls by one
for every period of minutes that passes without an access. The fall is computed when the
counter is read.
-/

namespace SampledEviction.Frequency

/-- The counter of a new key: it takes some time to lose its first points. -/
def initial : Nat := 5

/-- The largest counter. -/
def top : Nat := 255

/-- How the counters of a keyspace move. -/
structure Pace where
  /-- The larger, the slower counters grow. -/
  logFactor : Nat := 10
  /-- Minutes without access that cost one point; with zero no point is lost. -/
  decayMinutes : Nat := 1
  deriving DecidableEq, Repr

/-- The minutes from one reading of the minute counter to a later one. -/
def elapsed (since now : Nat) : Nat :=
  if since ≤ now then now - since else Moment.minuteCount - 1 - since + now

/-- The periods of decay between two readings of the minute counter. -/
def periods (since now decayMinutes : Nat) : Nat :=
  if decayMinutes = 0 then 0 else elapsed since now / decayMinutes

/-- The counter that is left at minute `now` of a counter written at minute `since`. -/
def decayed (since counter now decayMinutes : Nat) : Nat :=
  if counter < periods since now decayMinutes then 0
  else counter - periods since now decayMinutes

/-- The chance that an access raises the counter. -/
def chance (counter logFactor : Nat) : Float :=
  1.0 / (Float.ofNat (counter - initial) * Float.ofNat logFactor + 1.0)

/-- The counter after an access. A full counter stays, and draws nothing. -/
def raised (counter logFactor : Nat) (g : Xoshiro) : Nat × Xoshiro :=
  if counter = top then (top, g)
  else
    let (x, g) := g.unit
    (if x < chance counter logFactor then counter + 1 else counter, g)

end SampledEviction.Frequency
