import Recollection.Json.Record
import Recollection.Number.Rounding
/-!
# Summaries of samples

Samples are summed up by percentiles of the nearest rank: the least sample that has at least the
given share of all samples at or below it. A summary depends only on which samples there are, not on
their order.
-/

set_option autoImplicit false

namespace Recollection.Benchmark

/-- The samples in ascending order. -/
def sortSamples (samples : List Binary64) : List Binary64 :=
  samples.mergeSort Binary64.totalLe

/-- The rank of a percentile among a number of samples, from one on; percentiles lie between one
and a hundred. -/
def rankOf (count : Nat) (percentile : UInt32) : Nat :=
  let percentile := min (max percentile.toNat 1) 100
  max ((count * percentile + 99) / 100) 1

/-- The sample at the rank of a percentile among ordered samples. -/
def nearestRank? (sorted : List Binary64) (percentile : UInt32) : Option Binary64 :=
  sorted[rankOf sorted.length percentile - 1]?

/-- Some samples, summed up. -/
structure Summary where
  /-- How many there are. -/
  count : UInt64
  /-- The median. -/
  p50 : Binary64
  /-- The 95th percentile. -/
  p95 : Binary64
  /-- The greatest. -/
  greatest : Binary64
deriving DecidableEq, Repr

namespace Summary

/-- The summary of some samples; everything is zero if there are none. -/
def ofSamples (samples : List Binary64) : Summary :=
  let sorted := sortSamples samples
  { count := .ofNat sorted.length
    p50 := (nearestRank? sorted 50).getD .zero
    p95 := (nearestRank? sorted 95).getD .zero
    greatest := (nearestRank? sorted 100).getD .zero }

/-- Loads a summary. -/
def load : Load Summary := fun document => do
  let record ← Record.ofJson ["count", "p50", "p95", "max"] document
  return ⟨← record.required "count" .word64, ← record.required "p50" .number,
    ← record.required "p95" .number, ← record.required "max" .number⟩

/-- The document of a summary. -/
def encode (summary : Summary) : Json :=
  .object [("count", .ofUInt64 summary.count), ("p50", .ofBinary64 summary.p50),
    ("p95", .ofBinary64 summary.p95), ("max", .ofBinary64 summary.greatest)]

end Summary

end Recollection.Benchmark
