import Recollection.Boundary.Retrieval
import Recollection.Service.InMemory.Policy
import Recollection.Settings.Log
/-!
# Settings

What can be set without changing the program: names for the logs, the log itself, the greatest page
of a query, whether an evaluation may come out empty, and the rules of the policy. `validate` says
which settings can be worked with; the label of the deployment is free.
-/

set_option autoImplicit false

namespace Recollection

/-- The rules that hold if nothing else is said. -/
def PolicyRules.standard : PolicyRules where
  deniedActions := []
  destructiveActions := ["delete", "purge", "overwrite"]
  restrictedContextKey := "restricted"

/-- All settings. -/
structure Settings where
  /-- The name under which the service logs. -/
  serviceName : String
  /-- The label of the deployment. -/
  environment : String
  /-- The log. -/
  log : LogSettings
  /-- The greatest page that a query may ask for. -/
  maxLimit : UInt32
  /-- Whether an evaluation that selects nothing fails. -/
  strictEvaluation : Bool
  /-- The rules of the policy. -/
  policy : PolicyRules
deriving DecidableEq, Repr

/-- A setting that cannot be worked with. -/
structure InvalidSetting where
  /-- The setting. -/
  field : String
  /-- Why it cannot be worked with. -/
  reason : String
deriving DecidableEq, Repr

/-- The text of the fault. -/
def InvalidSetting.message (fault : InvalidSetting) : String :=
  "invalid configuration field `" ++ fault.field ++ "`: " ++ fault.reason

namespace Settings

/-- What holds if nothing else is said. -/
def standard : Settings where
  serviceName := "mnem"
  environment := "development"
  log := .standard
  maxLimit := 100
  strictEvaluation := false
  policy := .standard

/-- The settings of reproducible runs. -/
def deterministic : Settings :=
  { standard with
    serviceName := "mnem-deterministic"
    environment := "test"
    log := ⟨"warn", .pretty⟩ }

/-- Whether a number may be the greatest page. -/
def isPageLimit (limit : UInt32) : Bool :=
  1 ≤ limit && limit ≤ Retrieval.maxLimit

/-- Why a number is refused as the greatest page. -/
def pageLimitReason : String :=
  "must be between 1 and " ++ toString Retrieval.maxLimit.toNat

/-- The first setting that cannot be worked with. -/
def validate (settings : Settings) : Except InvalidSetting Unit := do
  if Text.isBlankText settings.serviceName then
    .error ⟨"service_name", "must not be blank"⟩
  unless LogSettings.levels.contains settings.log.level do
    .error ⟨"log.level", "`" ++ settings.log.level ++ "` is not a log level"⟩
  unless isPageLimit settings.maxLimit do
    .error ⟨"retrieval.max_limit", pageLimitReason⟩

end Settings

end Recollection
