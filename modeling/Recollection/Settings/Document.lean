import Recollection.Settings.Basic
import Recollection.Toml.Reader
/-!
# Documents of settings

Settings are kept in documents of either language, mostly TOML texts. Whatever a document leaves out
is as in the standard settings, and members that are not known are ignored. A TOML text must hold
settings that can be worked with.
-/

set_option autoImplicit false

namespace Recollection

/-- Loads rules; absent ones are the standard ones. -/
def PolicyRules.load (language : DocumentLanguage) : Load PolicyRules := fun document => do
  let record ← Record.ofDocument language
    ["denied_actions", "destructive_actions", "restricted_context_key"] document
  return ⟨← record.withDefault "denied_actions" standard.deniedActions (.list .text),
    ← record.withDefault "destructive_actions" standard.destructiveActions (.list .text),
    ← record.withDefault "restricted_context_key" standard.restrictedContextKey .text⟩

/-- The document of some rules. -/
def PolicyRules.encode (rules : PolicyRules) : Json :=
  .object [("denied_actions", .ofTexts rules.deniedActions),
    ("destructive_actions", .ofTexts rules.destructiveActions),
    ("restricted_context_key", .string rules.restrictedContextKey)]

/-- Why a text holds no settings. -/
inductive SettingsFault
  /-- It is not the text of settings at all. -/
  | unreadable
  /-- It holds settings that cannot be worked with. -/
  | invalid (setting : InvalidSetting)
deriving DecidableEq, Repr

namespace Settings

/-- Loads a setting that stands alone in a section of its own. -/
def loadSection {α : Type} (language : DocumentLanguage) (name : String) (default : α)
    (load : Load α) : Load α :=
  fun document => do
    (← Record.ofDocument language [name] document).withDefault name default load

/-- Loads settings; absent ones are the standard ones. -/
def load (language : DocumentLanguage) : Load Settings := fun document => do
  let record ← Record.ofDocument language
    ["service_name", "environment", "log", "retrieval", "evaluation", "policy"] document
  return ⟨← record.withDefault "service_name" standard.serviceName .text,
    ← record.withDefault "environment" standard.environment .text,
    ← record.withDefault "log" standard.log (LogSettings.load language),
    ← record.withDefault "retrieval" standard.maxLimit
      (loadSection language "max_limit" standard.maxLimit .word32),
    ← record.withDefault "evaluation" standard.strictEvaluation
      (loadSection language "strict" standard.strictEvaluation .flag),
    ← record.withDefault "policy" standard.policy (PolicyRules.load language)⟩

/-- The document of the settings. -/
def encode (settings : Settings) : Json :=
  .object [("service_name", .string settings.serviceName),
    ("environment", .string settings.environment), ("log", settings.log.encode),
    ("retrieval", .object [("max_limit", .ofUInt32 settings.maxLimit)]),
    ("evaluation", .object [("strict", .bool settings.strictEvaluation)]),
    ("policy", settings.policy.encode)]

/-- The settings of a TOML text. -/
def ofToml (text : String) : Except SettingsFault Settings :=
  match (Toml.read text).map (load .toml) with
  | some (.ok settings) => (settings.validate.map fun () => settings).mapError .invalid
  | _ => .error .unreadable

end Settings

end Recollection
