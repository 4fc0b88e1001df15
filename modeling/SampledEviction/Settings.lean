import SampledEviction.Policy
import SampledEviction.Frequency

/-!
# Eviction settings

What an evictor is told: the policy, the memory budget, and how hard to try. Settings built in
a program may be anything; an evictor accepts only those that `Settings.validate` passes.
-/

namespace SampledEviction

/-- Why an eviction could not be set up or carried out. -/
inductive EvictionError where
  /-- The server could not tell how much memory is in use. -/
  | memoryUnavailable (cause : String)
  /-- The settings make no sense. -/
  | invalidSettings (reason : String)
  deriving DecidableEq, Repr

/-- The wording of an error. -/
def EvictionError.message : EvictionError → String
  | .memoryUnavailable cause => "memory usage unavailable: " ++ cause
  | .invalidSettings reason => "invalid configuration: " ++ reason

/-- The settings of an evictor. -/
structure Settings where
  policy : Policy := .noEviction
  /-- The memory budget in bytes; with zero there is none. -/
  maxMemory : Nat := 0
  /-- The number of keys sampled from each shard in a round. -/
  samples : Nat := 5
  pace : Frequency.Pace := {}
  /-- Whether the memory of evicted values is released in the background. -/
  lazy : Bool := false
  /-- Whether a replica leaves eviction to its primary. -/
  replicaIgnores : Bool := true
  /-- The longest wait for background releases, in milliseconds. -/
  waitLimit : Nat := 1000
  /-- The seed of the random choices, if they are to be repeatable. -/
  seed : Option Nat := none
  deriving DecidableEq, Repr

namespace Settings

/-- The largest number of samples that makes sense. -/
def maxSamples : Nat := 64

/-- Accepts settings that ask for a sensible number of samples. -/
def validate (s : Settings) : Except EvictionError Unit :=
  if 1 ≤ s.samples ∧ s.samples ≤ maxSamples then .ok ()
  else
    .error (.invalidSettings
      s!"samples ({s.samples}) must be between 1 and {maxSamples}")

end Settings

end SampledEviction
