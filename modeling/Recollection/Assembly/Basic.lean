import Recollection.Service.InMemory.Evaluation
import Recollection.Service.InMemory.Ingestion
import Recollection.Service.InMemory.Policy
import Recollection.Service.InMemory.Retrieval
import Recollection.Service.InMemory.Storage
import Recollection.Service.Permissive
import Recollection.Settings.Shown
/-!
# Assemblies

An assembly is everything a process needs: its settings, its log, its clock and a service for every
boundary. Three are ready made: over memory, for reproducible runs, and with permissive services for
production.
-/

set_option autoImplicit false

namespace Recollection

/-- The services in memory that some settings and a clock give. -/
def InMemory.services (settings : Settings) (clock : Clock) : ServiceSet InMemory.State where
  storage := storage clock
  retrieval := retrieval settings.maxLimit
  evaluation := evaluation settings.strictEvaluation
  policy := policy settings.policy clock
  ingestion := ingestion clock

/-- Settings, log, clock and services. -/
structure Assembly (σ : Type) where
  /-- The settings. -/
  settings : Settings
  /-- The settings of the log, which may differ from those among the settings. -/
  logger : LogSettings
  /-- The clock. -/
  clock : Clock
  /-- The services. -/
  services : ServiceSet σ

namespace Assembly

/-- The services in memory. -/
def inMemory (settings : Settings) (clock : Clock) : Assembly InMemory.State :=
  ⟨settings, settings.log, clock, InMemory.services settings clock⟩

/-- The assembly of reproducible runs. -/
def deterministic {σ : Type} : Assembly σ :=
  ⟨.deterministic, Settings.deterministic.log, .deterministic,
    Permissive.services .deterministic⟩

/-- Permissive services by the time of day. -/
def production {σ : Type} (settings : Settings) : Assembly σ :=
  ⟨settings, settings.log, .system, Permissive.services .system⟩

/-- How an assembly is shown. -/
def shown {σ : Type} (assembly : Assembly σ) : String :=
  Text.shown "Runtime"
    [("config", assembly.settings.shown), ("logger", assembly.logger.shown),
      ("clock", assembly.clock.render)] true

end Assembly

/-- How services are shown. -/
def ServiceSet.shown {σ : Type} (_ : ServiceSet σ) : String :=
  Text.shown "ServiceSet" [] true

end Recollection
