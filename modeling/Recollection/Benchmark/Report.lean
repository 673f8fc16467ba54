import Recollection.Benchmark.Gates
import Recollection.Identity.RunId
import Recollection.Json.Lenient
import Recollection.Time.Timestamp
/-!
# Reports

The report of a benchmark has a scope for all stores together and one for each store. It passes if
every gate of every scope does.
-/

set_option autoImplicit false

namespace Recollection.Benchmark

/-- A scope of a report. -/
structure Scope where
  /-- The store, or the name of all stores together. -/
  storeId : String
  /-- Its metrics. -/
  metrics : Metrics
  /-- Its gates. -/
  gates : Gates
deriving DecidableEq, Repr

namespace Scope

/-- The scope of some samples under thresholds. -/
def ofSamples (storeId : String) (samples : Samples) (queries : UInt64)
    (thresholds : Thresholds) : Scope :=
  let metrics := Metrics.ofSamples samples queries
  ⟨storeId, metrics, .evaluate metrics thresholds⟩

/-- The gates of a scope that fail, each behind the name of the scope and a point. -/
def failedGates (scope : Scope) : List String :=
  scope.gates.failed.map fun gate => scope.storeId ++ "." ++ gate

/-- Loads a scope. -/
def load : Load Scope := fun document => do
  let record ← Record.ofJson ["storeId", "metrics", "gates"] document
  return ⟨← record.required "storeId" .text, ← record.required "metrics" Metrics.load,
    ← record.required "gates" Gates.load⟩

/-- The document of a scope. -/
def encode (scope : Scope) : Json :=
  .object [("storeId", .string scope.storeId), ("metrics", scope.metrics.encode),
    ("gates", scope.gates.encode)]

end Scope

/-- What a benchmark found. -/
structure Report where
  /-- The run. -/
  runId : RunId
  /-- When the report was made. -/
  generatedAt : Timestamp
  /-- The engine that was measured. -/
  implementation : EngineIdentity
  /-- What was called for. -/
  workload : WorkloadPlan
  /-- What was tolerated. -/
  thresholds : Thresholds
  /-- All stores together. -/
  aggregate : Scope
  /-- The stores. -/
  stores : List Scope
deriving DecidableEq, Repr

/-- The name of all stores together. -/
def aggregateName : String := "aggregate"

namespace Report

/-- The report on the samples of some stores. -/
def assemble (runId : RunId) (generatedAt : Timestamp) (identity : EngineIdentity) (plan : Plan)
    (perStore : List (String × Samples)) : Report where
  runId := runId
  generatedAt := generatedAt
  implementation := identity
  workload := plan.workload
  thresholds := plan.thresholds
  aggregate := .ofSamples aggregateName (.union (perStore.map Prod.snd))
    (plan.workload.queries * .ofNat perStore.length) plan.thresholds
  stores := perStore.map fun (storeId, samples) =>
    .ofSamples storeId samples plan.workload.queries plan.thresholds

/-- All scopes, that of all stores together first. -/
def scopes (report : Report) : List Scope :=
  report.aggregate :: report.stores

/-- The gates that fail in any scope. -/
def failedGates (report : Report) : List String :=
  report.scopes.flatMap Scope.failedGates

/-- Whether every gate of every scope passes. -/
def passed (report : Report) : Bool :=
  report.scopes.all fun scope => scope.gates.passed

/-! ## Documents -/

/-- Loads a report. -/
def load : Load Report := fun document => do
  let record ← Record.ofJson ["runId", "generatedAt", "implementation", "workload", "thresholds",
    "aggregate", "stores"] document
  let instant : Load Timestamp := fun value => Load.ofOption (value.text?.bind Timestamp.read)
  return ⟨← record.required "runId" RunId.load, ← record.required "generatedAt" instant,
    ← record.required "implementation" EngineIdentity.load,
    ← record.required "workload" WorkloadPlan.load,
    ← record.required "thresholds" Thresholds.load,
    ← record.required "aggregate" Scope.load, ← record.required "stores" (.list Scope.load)⟩

/-- The document of a report. -/
def encode (report : Report) : Json :=
  .object [("runId", .string report.runId.render),
    ("generatedAt", .string (report.generatedAt.render "Z")),
    ("implementation", report.implementation.encode), ("workload", report.workload.encode),
    ("thresholds", report.thresholds.encode), ("aggregate", report.aggregate.encode),
    ("stores", .array (report.stores.map Scope.encode))]

/-- The report that a text holds. No member of a report may be null, so a part of the text that has
no value does harm only where a member is declared. -/
def ofText? (text : String) : Option Report :=
  match Json.readLenient text with
  | .ok document => (load document).toOption
  | .error _ => none

end Report

/-- The name of the file that takes the document of a report. -/
def documentFile : String := "mnem-bench-report.json"

/-- The name of the file that takes the tables of a report. -/
def tablesFile : String := "mnem-bench-report.md"

end Recollection.Benchmark
