import Recollection.Json.Record
import Recollection.Number.Rounding
/-!
# Plans of benchmarks

A plan says how much a benchmark calls for and what it tolerates. The workload counts are per store,
and the stores are exercised one after the other in the order of the list.
-/

set_option autoImplicit false

namespace Recollection.Benchmark

/-- How much is called for. -/
structure WorkloadPlan where
  /-- The events that are sent to each store, and sent again. -/
  events : UInt64
  /-- The recalls from each store. -/
  queries : UInt64
  /-- The greatest number of items of a recall. -/
  maxItems : UInt32
  /-- The greatest number of tokens of a recall. -/
  tokenBudget : UInt32
  /-- The stores. -/
  stores : List String
  /-- The seed of all random choices. -/
  seed : UInt64
deriving DecidableEq, Repr

/-- What is tolerated. -/
structure Thresholds where
  /-- Milliseconds for an ingest, at the 95th percentile. -/
  ingestMillis : Binary64
  /-- Milliseconds for an ingest of an event sent before, at the 95th percentile. -/
  replayMillis : Binary64
  /-- Milliseconds for a recall, at the 95th percentile. -/
  recallMillis : Binary64
  /-- Bytes for the greatest answer to a recall. -/
  recallBytes : UInt64
deriving DecidableEq, Repr

/-- Everything that a benchmark needs to know. -/
structure Plan where
  /-- How much is called for. -/
  workload : WorkloadPlan
  /-- What is tolerated. -/
  thresholds : Thresholds
  /-- The directory that takes the report. -/
  outputDirectory : String
deriving DecidableEq, Repr

/-! ## What holds if nothing else is said -/

/-- The standard workload. -/
def WorkloadPlan.standard : WorkloadPlan where
  events := 2000
  queries := 300
  maxItems := 8
  tokenBudget := 512
  stores := ["store-a", "store-b"]
  seed := 42

/-- The standard thresholds. -/
def Thresholds.standard : Thresholds where
  ingestMillis := .ofNat 5
  replayMillis := .ofNat 5
  recallMillis := .ofNat 25
  recallBytes := 16384

/-- The standard plan. -/
def Plan.standard : Plan :=
  ⟨.standard, .standard, "bench-output"⟩

/-! ## Documents -/

/-- Loads a workload. -/
def WorkloadPlan.load : Load WorkloadPlan := fun document => do
  let record ← Record.ofJson
    ["events", "queries", "maxItems", "tokenBudget", "stores", "seed"] document
  return ⟨← record.required "events" .word64, ← record.required "queries" .word64,
    ← record.required "maxItems" .word32, ← record.required "tokenBudget" .word32,
    ← record.required "stores" (.list .text), ← record.required "seed" .word64⟩

/-- The document of a workload. -/
def WorkloadPlan.encode (plan : WorkloadPlan) : Json :=
  .object [("events", .ofUInt64 plan.events), ("queries", .ofUInt64 plan.queries),
    ("maxItems", .ofUInt32 plan.maxItems), ("tokenBudget", .ofUInt32 plan.tokenBudget),
    ("stores", .ofTexts plan.stores), ("seed", .ofUInt64 plan.seed)]

/-- Loads thresholds. -/
def Thresholds.load : Load Thresholds := fun document => do
  let record ← Record.ofJson
    ["ingestP95Ms", "replayP95Ms", "recallP95Ms", "recallMaxPayloadBytes"] document
  return ⟨← record.required "ingestP95Ms" .number, ← record.required "replayP95Ms" .number,
    ← record.required "recallP95Ms" .number,
    ← record.required "recallMaxPayloadBytes" .word64⟩

/-- The document of thresholds. -/
def Thresholds.encode (thresholds : Thresholds) : Json :=
  .object [("ingestP95Ms", .ofBinary64 thresholds.ingestMillis),
    ("replayP95Ms", .ofBinary64 thresholds.replayMillis),
    ("recallP95Ms", .ofBinary64 thresholds.recallMillis),
    ("recallMaxPayloadBytes", .ofUInt64 thresholds.recallBytes)]

end Recollection.Benchmark
