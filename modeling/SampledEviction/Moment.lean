/-!
# Moments

A moment is read off a clock in seconds. Access stamps have no room for all of it: they keep
either the low 24 bits of the seconds, the *tick*, or the low 16 bits of the minutes.
-/

namespace SampledEviction

/-- A clock reading in seconds since the epoch. -/
structure Moment where
  seconds : Nat
  deriving DecidableEq, Repr

namespace Moment

/-- The number of ticks before the tick counter starts over, `2 ^ 24`. -/
def tickCount : Nat := 0x100_0000

/-- The number of minutes before the minute counter starts over, `2 ^ 16`. -/
def minuteCount : Nat := 0x1_0000

/-- The seconds as a 24-bit counter. -/
def tick (m : Moment) : Nat := m.seconds % tickCount

/-- The minutes as a 16-bit counter. -/
def minute (m : Moment) : Nat := m.seconds / 60 % minuteCount

theorem tick_lt (m : Moment) : m.tick < tickCount := Nat.mod_lt _ (by decide)

theorem minute_lt (m : Moment) : m.minute < minuteCount := Nat.mod_lt _ (by decide)

end Moment

end SampledEviction
