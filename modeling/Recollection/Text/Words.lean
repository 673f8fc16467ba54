import Recollection.Text.Alphanumeric
import Recollection.Text.Lowercase
/-!
# Words

The words of a text are its maximal runs of alphanumeric characters, in lower case. Memories are
found by the words they share with a query.
-/

set_option autoImplicit false

namespace Recollection.Text

/-- Adds a run, held in reverse, in front of other runs unless it is empty. -/
def closeRun (run : List Char) (runs : List (List Char)) : List (List Char) :=
  if run.isEmpty then runs else run.reverse :: runs

/-- The maximal runs of alphanumeric characters; `run` is the one being read, in reverse. -/
def alphanumericRuns (run : List Char) : List Char → List (List Char)
  | [] => closeRun run []
  | c :: rest =>
    if isAlphanumeric c then alphanumericRuns (c :: run) rest
    else closeRun run (alphanumericRuns [] rest)

/-- The words of a text, in the order of the text. -/
def words (text : String) : List String :=
  (alphanumericRuns [] text.toList).map fun run => String.ofList (lowerChars run)

end Recollection.Text
