import SampledEviction.Event
import SampledEviction.Policy

/-!
# What an evictor reports

The reports of an evictor as data, and the events that they are written as.
-/

namespace SampledEviction.Evictor

/-- A report of an evictor. -/
inductive Notice where
  /-- New settings changed the policy. -/
  | policyChanged (old new : Policy)
  /-- A key was deleted, and some bytes were seen to be freed by it. -/
  | keyEvicted (shard keyLength freed : Nat)
  /-- A cycle got back within budget, or was interrupted. -/
  | cycleComplete (policy : Policy) (keys freed excess : Nat)
  /-- The budget is exceeded, and the policy forbids eviction. -/
  | evictionDisabled (used budget : Nat)
  /-- A cycle ended above the budget. -/
  | nothingToEvict (policy : Policy) (used budget freed : Nat)
  deriving DecidableEq, Repr

/-- Events of an evictor are reported under this target. -/
def target : String := "evict::engine"

/-- The event that a report is written as. -/
def Notice.event : Notice → Event
  | policyChanged old new =>
    { level := .debug, target, message := "eviction policy changed"
      fields := [("from", .text old.name), ("to", .text new.name)] }
  | keyEvicted shard keyLength freed =>
    { level := .trace, target, message := "evicted key"
      fields := [("shard", .count shard), ("key_len", .count keyLength), ("freed", .count freed)] }
  | cycleComplete policy keys freed excess =>
    { level := .debug, target, message := "eviction cycle complete"
      fields := [("policy", .text policy.name), ("keys", .count keys), ("freed", .count freed),
        ("to_free", .count excess)] }
  | evictionDisabled used budget =>
    { level := .debug, target, message := "over budget with eviction disabled"
      fields := [("used", .count used), ("budget", .count budget)] }
  | nothingToEvict policy used budget freed =>
    { level := .warn, target, message := "unable to free memory: no evictable keys"
      fields := [("policy", .text policy.name), ("used", .count used), ("budget", .count budget),
        ("freed", .count freed)] }

end SampledEviction.Evictor
