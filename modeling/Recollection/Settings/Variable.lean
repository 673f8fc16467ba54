import Recollection.Text.Blank
import Recollection.Text.Quoted
/-!
# Environment variables

Settings may be given by environment variables. A variable that is not set leaves its setting as it
is; one that is set must hold a usable text, and `Variable.valueOr` fails with the reason otherwise.
-/

set_option autoImplicit false

namespace Recollection

/-- The texts of the variables that are set. -/
abbrev Environment : Type :=
  String → Option String

/-- A variable that is set to a text it must not hold. -/
structure UnusableVariable where
  /-- The name of the variable. -/
  name : String
  /-- The text it holds. -/
  text : String
  /-- Why the text is of no use. -/
  reason : String
deriving DecidableEq, Repr

/-- The text of the fault. -/
def UnusableVariable.message (fault : UnusableVariable) : String :=
  "invalid value " ++ Text.quoted fault.text ++ " for " ++ fault.name ++ ": " ++ fault.reason

/-- A variable and how its text is read. -/
structure Variable (α : Type) where
  /-- The name of the variable. -/
  name : String
  /-- The value of a text, or why it has none. -/
  read : String → Except String α

namespace Variable

variable {α : Type}

/-- Text that must not be blank, trimmed. -/
def readVisible (text : String) : Except String String :=
  if Text.isBlankText text then .error "must not be blank" else .ok (Text.trim text)

/-- The value of a variable, or a default if it is not set. -/
def valueOr (v : Variable α) (environment : Environment) (default : α) :
    Except UnusableVariable α :=
  match environment v.name with
  | none => .ok default
  | some text => (v.read text).mapError fun reason => ⟨v.name, text, reason⟩

theorem valueOr_of_unset {v : Variable α} {environment : Environment}
    (h : environment v.name = none) (default : α) :
    v.valueOr environment default = .ok default := by
  simp [valueOr, h]

theorem valueOr_of_set {v : Variable α} {environment : Environment} {text : String}
    (h : environment v.name = some text) (default : α) :
    v.valueOr environment default =
      (v.read text).mapError fun reason => ⟨v.name, text, reason⟩ := by
  simp [valueOr, h]

end Variable

end Recollection
