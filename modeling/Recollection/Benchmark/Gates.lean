import Recollection.Benchmark.Samples
import Recollection.Benchmark.Summary
/-!
# Metrics and gates

The metrics of a scope, a store or all stores together, are its samples summed up. Six gates hold
them against the thresholds; a metric at its threshold passes.
-/

set_option autoImplicit false

namespace Recollection.Benchmark

/-! ## Metrics -/

/-- The samples of a scope, summed up. -/
structure Metrics where
  /-- The events. -/
  events : UInt64
  /-- The queries. -/
  queries : UInt64
  /-- The times of the first pass. -/
  ingestMillis : Summary
  /-- The times of the second pass. -/
  replayMillis : Summary
  /-- The times of the third pass. -/
  recallMillis : Summary
  /-- The sizes of the answers of the third pass. -/
  recallBytes : Summary
  /-- The duplicates that the second pass was taken for. -/
  replayDuplicates : UInt64
  /-- The calls of the first pass that failed. -/
  ingestErrors : UInt64
  /-- The calls of the second pass that failed. -/
  replayErrors : UInt64
  /-- The calls of the third pass that failed. -/
  recallErrors : UInt64
deriving DecidableEq, Repr

namespace Metrics

/-- The metrics of some samples and a number of queries. -/
def ofSamples (samples : Samples) (queries : UInt64) : Metrics where
  events := samples.events
  queries := queries
  ingestMillis := .ofSamples samples.ingestMillis
  replayMillis := .ofSamples samples.replayMillis
  recallMillis := .ofSamples samples.recallMillis
  recallBytes := .ofSamples samples.recallBytes
  replayDuplicates := samples.replayDuplicates
  ingestErrors := samples.ingestErrors
  replayErrors := samples.replayErrors
  recallErrors := samples.recallErrors

/-- The calls of all passes that failed. -/
def engineErrors (metrics : Metrics) : UInt64 :=
  metrics.ingestErrors + metrics.replayErrors + metrics.recallErrors

/-- The members of a document of metrics. -/
def memberNames : List String :=
  ["events", "queries", "ingestLatencyMs", "replayLatencyMs", "recallLatencyMs",
    "recallPayloadBytes", "replayDuplicatesCaptured", "ingestErrors", "replayErrors",
    "recallErrors"]

/-- Loads metrics. -/
def load : Load Metrics := fun document => do
  let record ← Record.ofJson memberNames document
  return ⟨← record.required "events" .word64, ← record.required "queries" .word64,
    ← record.required "ingestLatencyMs" Summary.load,
    ← record.required "replayLatencyMs" Summary.load,
    ← record.required "recallLatencyMs" Summary.load,
    ← record.required "recallPayloadBytes" Summary.load,
    ← record.required "replayDuplicatesCaptured" .word64,
    ← record.required "ingestErrors" .word64, ← record.required "replayErrors" .word64,
    ← record.required "recallErrors" .word64⟩

/-- The document of metrics. -/
def encode (metrics : Metrics) : Json :=
  .object [("events", .ofUInt64 metrics.events), ("queries", .ofUInt64 metrics.queries),
    ("ingestLatencyMs", metrics.ingestMillis.encode),
    ("replayLatencyMs", metrics.replayMillis.encode),
    ("recallLatencyMs", metrics.recallMillis.encode),
    ("recallPayloadBytes", metrics.recallBytes.encode),
    ("replayDuplicatesCaptured", .ofUInt64 metrics.replayDuplicates),
    ("ingestErrors", .ofUInt64 metrics.ingestErrors),
    ("replayErrors", .ofUInt64 metrics.replayErrors),
    ("recallErrors", .ofUInt64 metrics.recallErrors)]

end Metrics

/-! ## Gates -/

/-- Which gates pass. -/
structure Gates where
  /-- The first pass is fast enough. -/
  ingestMillis : Bool
  /-- The second pass is fast enough. -/
  replayMillis : Bool
  /-- The third pass is fast enough. -/
  recallMillis : Bool
  /-- No answer is too great. -/
  recallBytes : Bool
  /-- There are as many duplicates as events. -/
  replayDuplicates : Bool
  /-- No call failed. -/
  engineErrors : Bool
deriving DecidableEq, Repr

namespace Gates

/-- Holds metrics against thresholds. -/
def evaluate (metrics : Metrics) (thresholds : Thresholds) : Gates where
  ingestMillis := metrics.ingestMillis.p95.le thresholds.ingestMillis
  replayMillis := metrics.replayMillis.p95.le thresholds.replayMillis
  recallMillis := metrics.recallMillis.p95.le thresholds.recallMillis
  recallBytes := metrics.recallBytes.greatest.le (.ofNat thresholds.recallBytes.toNat)
  replayDuplicates := metrics.replayDuplicates == metrics.events
  engineErrors := metrics.engineErrors == 0

/-- Every gate by its name, with whether it passes. -/
def verdicts (gates : Gates) : List (String × Bool) :=
  [("ingestP95", gates.ingestMillis), ("replayP95", gates.replayMillis),
    ("recallP95", gates.recallMillis), ("recallMaxPayload", gates.recallBytes),
    ("replayDuplicates", gates.replayDuplicates), ("engineErrors", gates.engineErrors)]

/-- The names of the gates that fail. -/
def failed (gates : Gates) : List String :=
  gates.verdicts.filterMap fun (name, passes) => if passes then none else some name

/-- Whether all gates pass. -/
def passed (gates : Gates) : Bool :=
  gates.failed.isEmpty

/-- Loads gates. -/
def load : Load Gates := fun document => do
  let record ← Record.ofJson ["ingestP95", "replayP95", "recallP95", "recallMaxPayload",
    "replayDuplicates", "engineErrors"] document
  return ⟨← record.required "ingestP95" .flag, ← record.required "replayP95" .flag,
    ← record.required "recallP95" .flag, ← record.required "recallMaxPayload" .flag,
    ← record.required "replayDuplicates" .flag, ← record.required "engineErrors" .flag⟩

/-- The document of gates. -/
def encode (gates : Gates) : Json :=
  .object (gates.verdicts.map fun (name, passes) => (name, .bool passes))

end Gates

end Recollection.Benchmark
