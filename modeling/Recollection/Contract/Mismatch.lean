import Recollection.Contract.Path
import Recollection.Json.Writer
import Recollection.Text.Quoted
/-!
# Mismatches

A mismatch is the first point at which a document departs from what a contract requires: where it
is, what is required there and what the document holds there. What is found is described shortly
and without regard to the order of members, so a document has one mismatch.
-/

set_option autoImplicit false

namespace Recollection

/-- The greatest number of characters of a string that a description quotes. -/
def excerptLength : Nat := 32

/-- A short description of a document. -/
def Json.describe (document : Json) : String :=
  match document with
  | .null => "null"
  | .bool true => "boolean true"
  | .bool false => "boolean false"
  | .integer _ | .double _ => "number " ++ document.compact
  | .string text =>
    let characters := text.toList
    let excerpt := "string " ++ Text.quoted (String.ofList (characters.take excerptLength))
    if excerptLength < characters.length then excerpt ++ "…" else excerpt
  | .array items => "array of " ++ toString items.length ++ " items"
  | .object members => "object with " ++ toString members.length ++ " fields"

/-- The first point at which a document departs from a contract. -/
structure Mismatch where
  /-- Where it departs. -/
  path : Path
  /-- What is required there. -/
  expected : String
  /-- What the document holds there. -/
  found : String
deriving DecidableEq, Repr

namespace Mismatch

/-- A value of the wrong kind. -/
def ofDocument (path : Path) (expected : String) (document : Json) : Mismatch :=
  ⟨path, expected, document.describe⟩

/-- A required member that is absent. -/
def missing (path : Path) : Mismatch :=
  ⟨path, "required field", "nothing"⟩

/-- A member that is not declared, in an object with the given declared members. -/
def undeclared (path : Path) (declared : List String) : Mismatch :=
  ⟨path, "only the fields " ++ ", ".intercalate declared, "an unknown field"⟩

/-- The text of a mismatch. -/
def message (mismatch : Mismatch) : String :=
  "at " ++ mismatch.path.render ++ ": expected " ++ mismatch.expected ++
    ", found " ++ mismatch.found

/-- The text tells the place by its steps, what is required there and what is found. -/
theorem message_eq (mismatch : Mismatch) :
    mismatch.message = "at $" ++ Path.stepsText mismatch.path.segments ++ ": expected " ++
      mismatch.expected ++ ", found " ++ mismatch.found := by
  have hplace : "at " ++ mismatch.path.render =
      "at $" ++ Path.stepsText mismatch.path.segments := by
    rw [Path.render_eq, ← String.append_assoc]
    rfl
  rw [message, hplace]

end Mismatch

end Recollection
