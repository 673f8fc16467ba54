import Recollection.Service.Basic
import Recollection.Service.Clock
/-!
# Permissive services

Services that accept everything and keep nothing. They stand in for boundaries without a real
service, and answer every request in the form its contract asks for.
-/

set_option autoImplicit false

namespace Recollection.Permissive

variable {σ : Type}

/-- The version after an expected one; the last version is its own successor. -/
def versionAfter (expected : Option UInt64) : UInt64 :=
  match expected with
  | none => 1
  | some version => if version + 1 = 0 then version else version + 1

/-- Accepts every write at the version after the expected one, and never finds anything to
remove. -/
def storage (clock : Clock) : StorageService σ where
  upsert timeOfDay request state :=
    (.ok ⟨request.spaceId, request.memoryId, true, clock.read timeOfDay,
      versionAfter request.expectedVersion⟩, state)
  delete _ request state := (.ok ⟨request.spaceId, request.memoryId, false⟩, state)

/-- Finds nothing. -/
def retrieval : RetrievalService σ where
  query _ request state := (.ok (.empty request.spaceId), state)

/-- Scores nothing. -/
def evaluation : EvaluationService σ where
  evaluate _ _ state := (.ok ⟨[], []⟩, state)

/-- Allows everything. -/
def policy (clock : Clock) : PolicyService σ where
  decide timeOfDay _ state := (.ok (.allowed (clock.read timeOfDay)), state)

/-- Accepts every record of every batch. -/
def ingestion (clock : Clock) : IngestionService σ where
  ingest timeOfDay request state := (.ok (.acceptAll request (clock.read timeOfDay)), state)

/-- All permissive services. -/
def services (clock : Clock) : ServiceSet σ where
  storage := storage clock
  retrieval := retrieval
  evaluation := evaluation
  policy := policy clock
  ingestion := ingestion clock

end Recollection.Permissive
