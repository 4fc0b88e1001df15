/-!
# Xoshiro256++

A generator of 64-bit words with 256 bits of state. A single word seeds it: the four state
words are the first four outputs of a SplitMix64 sequence.
-/

namespace SampledEviction

/-- Rotation of a word to the left, for `0 < k < 64`. -/
def rotateLeft (x k : UInt64) : UInt64 := (x <<< k) ||| (x >>> (64 - k))

namespace SplitMix

/-- The step between two states. -/
def gamma : UInt64 := 0x9e3779b97f4a7c15

/-- The output that belongs to a state. -/
def mix (x : UInt64) : UInt64 :=
  let z := (x ^^^ (x >>> 30)) * 0xbf58476d1ce4e5b9
  let z := (z ^^^ (z >>> 27)) * 0x94d049bb133111eb
  z ^^^ (z >>> 31)

/-- The `n`-th output, from 1, of the sequence started at `seed`. -/
def output (seed n : UInt64) : UInt64 := mix (seed + n * gamma)

end SplitMix

/-- The state of the generator. -/
structure Xoshiro where
  s0 : UInt64
  s1 : UInt64
  s2 : UInt64
  s3 : UInt64
  deriving DecidableEq, Repr, Inhabited

namespace Xoshiro

/-- The generator that a seed starts; seeds are counted modulo `2 ^ 64`. -/
def ofSeed (seed : Nat) : Xoshiro :=
  let x := UInt64.ofNat seed
  ⟨SplitMix.output x 1, SplitMix.output x 2, SplitMix.output x 3, SplitMix.output x 4⟩

/-- The word that a state puts out. -/
def word (g : Xoshiro) : UInt64 := rotateLeft (g.s0 + g.s3) 23 + g.s0

/-- The state that follows. -/
def step (g : Xoshiro) : Xoshiro :=
  let t := g.s1 <<< 17
  let s2 := g.s2 ^^^ g.s0
  let s3 := g.s3 ^^^ g.s1
  ⟨g.s0 ^^^ s3, g.s1 ^^^ s2, s2 ^^^ t, rotateLeft s3 45⟩

/-- One word and the state that follows. -/
def next (g : Xoshiro) : UInt64 × Xoshiro := (g.word, g.step)

end Xoshiro

end SampledEviction
