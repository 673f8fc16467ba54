import Recollection.Benchmark.Outcome
import Recollection.Benchmark.Workload
/-!
# Engines

An engine is what a benchmark measures: a machine that takes in events and recalls what it took in.
Any call may fail.
-/

set_option autoImplicit false

namespace Recollection.Benchmark

/-- What an engine says it is. -/
structure EngineIdentity where
  /-- Where it comes from. -/
  source : String
  /-- The name it goes by there. -/
  exportName : String
deriving DecidableEq, Repr

namespace EngineIdentity

/-- Loads an identity. -/
def load : Load EngineIdentity := fun document => do
  let record ← Record.ofJson ["source", "exportName"] document
  return ⟨← record.required "source" .text, ← record.required "exportName" .text⟩

/-- The document of an identity. -/
def encode (identity : EngineIdentity) : Json :=
  .object [("source", .string identity.source), ("exportName", .string identity.exportName)]

end EngineIdentity

/-- What can be asked of an engine. -/
inductive Operation
  /-- To take in an event. -/
  | ingest
  /-- To answer a query. -/
  | recollect
deriving DecidableEq, Repr

/-- The name of an operation. -/
def Operation.name : Operation → String
  | .ingest => "ingest"
  | .recollect => "recall"

/-- A call that failed. -/
structure EngineFault where
  /-- What was asked. -/
  operation : Operation
  /-- The store it was asked of. -/
  store : String
  /-- What the engine says about it. -/
  reason : String
deriving DecidableEq, Repr

/-- The text of the fault. -/
def EngineFault.message (fault : EngineFault) : String :=
  "engine " ++ fault.operation.name ++ " failed for " ++ fault.store ++ ": " ++ fault.reason

/-- A machine with states of a type. -/
structure Engine (σ : Type) where
  /-- What it says it is. -/
  identity : EngineIdentity
  /-- Takes in an event. -/
  ingest : Event → σ → Except EngineFault IngestOutcome × σ
  /-- Answers a query. -/
  recollect : Query → σ → Except EngineFault RecallOutcome × σ

end Recollection.Benchmark
