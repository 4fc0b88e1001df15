import SampledEviction.AccessStamp
import SampledEviction.Word

/-!
# Ranking keys

A rank is a number of 64 bits: the larger, the sooner a key is evicted. Ranks of one policy
are not comparable to those of another.
-/

namespace SampledEviction

/-- What a sample tells about a key. -/
inductive Sampled where
  /-- The stamp of its last access. -/
  | stamp (s : AccessStamp)
  /-- The second at which it expires. -/
  | deadline (second : Nat)
  deriving DecidableEq, Repr

namespace Rank

/-- The milliseconds since the last access. Where the tick counter has started over since,
the count is one tick short. -/
def idle (last now : Nat) : Nat :=
  (if last ≤ now then now - last else now + (Moment.tickCount - 1 - last)) * 1000

/-- The points that the counter, decayed to the present minute, lacks of a full one. -/
def infrequent (s : AccessStamp) (minute decayMinutes : Nat) : Nat :=
  Frequency.top - Frequency.decayed s.minute s.counter minute decayMinutes

/-- The nearer the deadline, the larger; a deadline that has passed has the top rank. -/
def urgent (deadline now : Nat) : Nat := Word.top - (deadline - now)

end Rank

/-- How the samples of a policy are ranked. -/
structure Ranking where
  policy : Policy
  decayMinutes : Nat
  deriving DecidableEq, Repr

namespace Ranking

/-- The rank of a sample, if it tells what the policy ranks by. -/
def rank? (r : Ranking) (sampled : Sampled) (now : Moment) : Option Nat :=
  match sampled with
  | .stamp s =>
    if r.policy.isLru then some (Rank.idle s.tick now.tick)
    else if r.policy.isLfu then some (Rank.infrequent s now.minute r.decayMinutes)
    else none
  | .deadline t => if r.policy.isTtl then some (Rank.urgent t now.seconds) else none

end Ranking

end SampledEviction
