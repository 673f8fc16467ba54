import Recollection.Json.Record
import Recollection.Text.Blank
/-!
# Log settings

How much is logged, and in which form.
-/

set_option autoImplicit false

namespace Recollection

/-- The form of a log. -/
inductive LogFormat
  /-- For people, on several lines. -/
  | pretty
  /-- One document for each event. -/
  | json
deriving DecidableEq, Repr

namespace LogFormat

/-- Every form. -/
def all : List LogFormat :=
  [.pretty, .json]

/-- The name of a form. -/
def name : LogFormat → String
  | .pretty => "pretty"
  | .json => "json"

/-- The form with a name, in any ASCII case. -/
def ofName? (text : String) : Option LogFormat :=
  all.find? fun format => format.name == Text.lowerAscii text

/-- Loads the exact name of a form. -/
def load (language : DocumentLanguage) : Load LogFormat :=
  .namedIn language name all

end LogFormat

/-- The settings of the log. -/
structure LogSettings where
  /-- The least severity that is logged. -/
  level : String
  /-- The form. -/
  format : LogFormat
deriving DecidableEq, Repr

namespace LogSettings

/-- The severities, the least one first. -/
def levels : List String :=
  ["trace", "debug", "info", "warn", "error"]

/-- What holds if nothing else is said. -/
def standard : LogSettings :=
  ⟨"info", .pretty⟩

/-- Loads settings; absent ones are the standard ones. -/
def load (language : DocumentLanguage) : Load LogSettings := fun document => do
  let record ← Record.ofDocument language ["level", "format"] document
  return ⟨← record.withDefault "level" standard.level .text,
    ← record.withDefault "format" standard.format (LogFormat.load language)⟩

/-- The document of the settings. -/
def encode (settings : LogSettings) : Json :=
  .object [("level", .string settings.level), ("format", .string settings.format.name)]

end LogSettings

end Recollection
