import Recollection.Text.Quoted
/-!
# Shown values

In logs a value with parts is shown by a name and its parts, as in `LogSettings { level: "info",
format: Pretty }`. Two points at the end stand for parts that are not shown.
-/

set_option autoImplicit false

namespace Recollection.Text

/-- The parts of a value, each with its name. -/
def shownParts (parts : List (String × String)) : List String :=
  parts.map fun (name, value) => name ++ ": " ++ value

/-- A value, with whether some of its parts are not shown. -/
def shown (name : String) (parts : List (String × String)) (abridged : Bool) : String :=
  let listed := shownParts parts ++ if abridged then [".."] else []
  name ++ " \x7b " ++ ", ".intercalate listed ++ " \x7d"

/-- A truth value. -/
def shownFlag (value : Bool) : String :=
  if value then "true" else "false"

end Recollection.Text
