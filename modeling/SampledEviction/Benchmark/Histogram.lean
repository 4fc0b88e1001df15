/-!
# Histograms

Counts of durations in buckets. Up to 255 a bucket holds one value; above, every power of two
is split into 128 buckets of one width, so a bucket tells its values to within one percent.
-/

namespace SampledEviction.Benchmark

/-- Counts of 64-bit values by bucket. -/
structure Histogram where
  counts : Array Nat

namespace Histogram

/-- The logarithm of the number of buckets in a power of two. -/
def grouping : Nat := 7

/-- The number of buckets per power of two. -/
def width : Nat := 1 <<< grouping

/-- The number of all buckets. -/
def bucketCount : Nat := (64 - grouping + 1) * width

/-- The bucket of a value. -/
def bucket (n : Nat) : Nat :=
  if n < 2 * width then n
  else
    let shift := n.log2 - grouping
    shift * width + n >>> shift

/-- The largest value of a bucket. -/
def last (bucket : Nat) : Nat :=
  if bucket < 2 * width then bucket
  else
    let shift := bucket / width - 1
    (bucket % width + width + 1) <<< shift - 1

/-- The histogram without values. -/
def empty : Histogram := ⟨Array.replicate bucketCount 0⟩

/-- Counts a value `times` times. -/
def record (h : Histogram) (value : Nat) (times : Nat := 1) : Histogram :=
  ⟨h.counts.modify (bucket value) (· + times)⟩

/-- The number of values counted. -/
def total (h : Histogram) : Nat := h.counts.foldl (· + ·) 0

/-- The bucket in which the `rank`-th value is found, from a bucket on, if any is left. -/
def bucketOf? : List Nat → Nat → Nat → Option Nat
  | [], _, _ => none
  | count :: rest, bucket, rank =>
    if rank ≤ count then some bucket else bucketOf? rest (bucket + 1) (rank - count)

/-- A value that is not exceeded by this many thousandths of all values, if there are any. -/
def quantile? (h : Histogram) (thousandths : Nat) : Option Nat :=
  if h.total = 0 then none
  else
    let rank := max 1 ((h.total * thousandths + 999) / 1000)
    (bucketOf? h.counts.toList 0 rank).map last

end Histogram

end SampledEviction.Benchmark
