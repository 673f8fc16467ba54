import Recollection.Settings.Basic
import Recollection.Text.Shown
/-!
# Shown settings

How settings are shown in logs.
-/

set_option autoImplicit false

namespace Recollection

/-- How the form of a log is shown. -/
def LogFormat.shown : LogFormat → String
  | .pretty => "Pretty"
  | .json => "Json"

/-- How the settings of the log are shown. -/
def LogSettings.shown (settings : LogSettings) : String :=
  Text.shown "LogSettings"
    [("level", Text.quoted settings.level), ("format", settings.format.shown)] false

/-- How the rules of a policy are shown. -/
def PolicyRules.shown (rules : PolicyRules) : String :=
  Text.shown "PolicyConfig"
    [("denied_actions", Text.quotedList rules.deniedActions),
      ("destructive_actions", Text.quotedList rules.destructiveActions),
      ("restricted_context_key", Text.quoted rules.restrictedContextKey)] false

/-- How all settings are shown. -/
def Settings.shown (settings : Settings) : String :=
  Text.shown "RuntimeConfig"
    [("service_name", Text.quoted settings.serviceName),
      ("environment", Text.quoted settings.environment), ("log", settings.log.shown),
      ("retrieval", Text.shown "RetrievalConfig"
        [("max_limit", toString settings.maxLimit.toNat)] false),
      ("evaluation", Text.shown "EvaluationConfig"
        [("strict", Text.shownFlag settings.strictEvaluation)] false),
      ("policy", settings.policy.shown)] false

end Recollection
