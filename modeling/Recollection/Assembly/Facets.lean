import Recollection.Assembly.Basic
/-!
# Facets of an assembly

An assembly is put together from eight facets that may come from several sources. Merging two
collections of facets keeps what the first one has and takes the rest from the second, so it is
associative, the empty collection is its unit, and no facet is lost. An assembly can be built from
facets that are all there.
-/

set_option autoImplicit false

namespace Recollection

/-- Some of the facets of an assembly. -/
structure Facets (σ : Type) where
  /-- The settings. -/
  settings : Option Settings
  /-- The settings of the log. -/
  logger : Option LogSettings
  /-- The clock. -/
  clock : Option Clock
  /-- The storage boundary. -/
  storage : Option (StorageService σ)
  /-- The retrieval boundary. -/
  retrieval : Option (RetrievalService σ)
  /-- The evaluation boundary. -/
  evaluation : Option (EvaluationService σ)
  /-- The policy boundary. -/
  policy : Option (PolicyService σ)
  /-- The ingestion boundary. -/
  ingestion : Option (IngestionService σ)

/-- A facet that an assembly cannot do without. -/
structure MissingFacet where
  /-- The name of the facet. -/
  facet : String
deriving DecidableEq, Repr

/-- The text of the fault. -/
def MissingFacet.message (fault : MissingFacet) : String :=
  "runtime facet `" ++ fault.facet ++ "` was not provided"

namespace Facets

variable {σ : Type}

/-- No facet. -/
def empty : Facets σ :=
  ⟨none, none, none, none, none, none, none, none⟩

instance : EmptyCollection (Facets σ) := ⟨empty⟩

/-- Facets with all services replaced. -/
def withServices (facets : Facets σ) (services : ServiceSet σ) : Facets σ :=
  { facets with
    storage := some services.storage
    retrieval := some services.retrieval
    evaluation := some services.evaluation
    policy := some services.policy
    ingestion := some services.ingestion }

/-- All facets of an assembly. -/
def ofAssembly (assembly : Assembly σ) : Facets σ :=
  withServices
    { (empty : Facets σ) with
      settings := some assembly.settings
      logger := some assembly.logger
      clock := some assembly.clock }
    assembly.services

/-- The facets of the first collection, and those of the second that the first has not. -/
def merge (first second : Facets σ) : Facets σ where
  settings := first.settings.or second.settings
  logger := first.logger.or second.logger
  clock := first.clock.or second.clock
  storage := first.storage.or second.storage
  retrieval := first.retrieval.or second.retrieval
  evaluation := first.evaluation.or second.evaluation
  policy := first.policy.or second.policy
  ingestion := first.ingestion.or second.ingestion

/-- Every facet by its name, with whether it is there. -/
def presence (facets : Facets σ) : List (String × Bool) :=
  [("config", facets.settings.isSome), ("logger", facets.logger.isSome),
    ("clock", facets.clock.isSome), ("storage", facets.storage.isSome),
    ("retrieval", facets.retrieval.isSome), ("evaluation", facets.evaluation.isSome),
    ("policy", facets.policy.isSome), ("ingestion", facets.ingestion.isSome)]

/-- The names of the facets that are missing, in order. -/
def missing (facets : Facets σ) : List String :=
  facets.presence.filterMap fun (name, present) => if present then none else some name

/-- A facet that has to be there. -/
def needed {α : Type} (name : String) : Option α → Except MissingFacet α
  | some facet => .ok facet
  | none => .error ⟨name⟩

/-- The assembly of some facets, or the first one that is missing. -/
def build (facets : Facets σ) : Except MissingFacet (Assembly σ) := do
  let settings ← needed "config" facets.settings
  let logger ← needed "logger" facets.logger
  let clock ← needed "clock" facets.clock
  let storage ← needed "storage" facets.storage
  let retrieval ← needed "retrieval" facets.retrieval
  let evaluation ← needed "evaluation" facets.evaluation
  let policy ← needed "policy" facets.policy
  let ingestion ← needed "ingestion" facets.ingestion
  return ⟨settings, logger, clock, ⟨storage, retrieval, evaluation, policy, ingestion⟩⟩

/-- How facets are shown. -/
def shown (facets : Facets σ) : String :=
  Text.shown "RuntimeBuilder" [("missing", Text.quotedList facets.missing)] true

end Facets

end Recollection
