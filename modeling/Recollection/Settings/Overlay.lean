import Recollection.Number.Reading
import Recollection.Settings.Basic
import Recollection.Settings.Variable
/-!
# Settings from the environment

Five settings can be given by environment variables, which go before what other sources say. The
white space around the text of a variable does not count. The variables are looked at in a fixed
order, and the first one of no use is the fault.
-/

set_option autoImplicit false

namespace Recollection

namespace Settings

/-- The name under which the service logs. -/
def serviceNameVariable : Variable String :=
  ⟨"MNEM_SERVICE_NAME", Variable.readVisible⟩

/-- The label of the deployment. -/
def environmentVariable : Variable String :=
  ⟨"MNEM_ENVIRONMENT", Variable.readVisible⟩

/-- The least severity that is logged, in any ASCII case. -/
def logLevelVariable : Variable String where
  name := "MNEM_LOG_LEVEL"
  read text :=
    let level := Text.lowerAscii (Text.trim text)
    if LogSettings.levels.contains level then .ok level
    else .error ("expected one of " ++ ", ".intercalate LogSettings.levels)

/-- The form of the log, in any ASCII case. -/
def logFormatVariable : Variable LogFormat where
  name := "MNEM_LOG_FORMAT"
  read text :=
    match LogFormat.ofName? (Text.trim text) with
    | some format => .ok format
    | none => .error "expected pretty or json"

/-- The greatest page that a query may ask for. -/
def maxLimitVariable : Variable UInt32 where
  name := "MNEM_RETRIEVAL_MAX_LIMIT"
  read text :=
    match Numeral.readUInt32? (Text.trim text) with
    | none => .error "expected a positive integer"
    | some limit => if isPageLimit limit then .ok limit else .error pageLimitReason

/-- The names of the variables, in the order in which they are looked at. -/
def variableNames : List String :=
  [serviceNameVariable.name, environmentVariable.name, logLevelVariable.name,
    logFormatVariable.name, maxLimitVariable.name]

/-- The settings with those that the environment gives in place of their own. -/
def overlay (settings : Settings) (environment : Environment) :
    Except UnusableVariable Settings := do
  let serviceName ← serviceNameVariable.valueOr environment settings.serviceName
  let label ← environmentVariable.valueOr environment settings.environment
  let level ← logLevelVariable.valueOr environment settings.log.level
  let format ← logFormatVariable.valueOr environment settings.log.format
  let maxLimit ← maxLimitVariable.valueOr environment settings.maxLimit
  return { settings with serviceName, environment := label, log := ⟨level, format⟩, maxLimit }

/-- The standard settings with those that the environment gives. -/
def ofEnvironment (environment : Environment) : Except UnusableVariable Settings :=
  standard.overlay environment

end Settings

end Recollection
