import SampledEviction.AccessStamp
import SampledEviction.Settings

/-!
# Keeping stamps

A keyspace stamps its keys through a tracker, which knows the policy in force and owns the
generator by whose draws counters are raised.
-/

namespace SampledEviction

/-- What stamps keys when they are written and read. -/
structure Tracker where
  policy : Policy
  pace : Frequency.Pace
  random : Xoshiro
  deriving Repr

namespace Tracker

/-- The stamp of a key that is written. -/
def created (t : Tracker) (now : Moment) : AccessStamp :=
  if t.policy.isLfu then .ofFrequency now.minute Frequency.initial else .ofTick now.tick

/-- The stamp of a key that is read: a counter first decays, then may be raised. -/
def accessed (t : Tracker) (stamp : AccessStamp) (now : Moment) : AccessStamp × Tracker :=
  if t.policy.isLfu then
    let counter := Frequency.decayed stamp.minute stamp.counter now.minute t.pace.decayMinutes
    let (counter, random) := Frequency.raised counter t.pace.logFactor t.random
    (.ofFrequency now.minute counter, { t with random })
  else
    (.ofTick now.tick, t)

/-- The tracker under given settings; `entropy` is the seed where they have none. -/
def ofSettings (s : Settings) (entropy : Nat) : Tracker :=
  { policy := s.policy, pace := s.pace, random := .ofSeed (s.seed.getD entropy) }

/-- The tracker under another policy; its generator goes on. -/
def setPolicy (t : Tracker) (policy : Policy) (pace : Frequency.Pace) : Tracker :=
  { t with policy, pace }

end Tracker

end SampledEviction
