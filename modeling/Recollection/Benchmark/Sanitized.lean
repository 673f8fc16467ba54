import Recollection.Text.Blank
import Recollection.Text.Split
/-!
# Sanitized text

Before a text is kept, its script blocks are taken out and the values of its keys are replaced. A
script block that is never closed goes on to the end of the text; the value of a key goes on to the
next white space.
-/

set_option autoImplicit false

namespace Recollection.Benchmark

/-- What opens a script block. -/
def scriptOpening : List Char :=
  ['<', 's', 'c', 'r', 'i', 'p', 't', '>']

/-- What closes a script block. -/
def scriptClosing : List Char :=
  ['<', '/', 's', 'c', 'r', 'i', 'p', 't', '>']

/-- What names the value of a key. -/
def secretName : List Char :=
  ['a', 'p', 'i', '_', 'k', 'e', 'y', '=']

/-- What the value of a key starts with, behind its name. -/
def secretMarker : List Char :=
  secretName ++ ['s', 'k', '-']

/-- What the value of a key is replaced by. -/
def redaction : List Char :=
  ['[', 'R', 'E', 'D', 'A', 'C', 'T', 'E', 'D', ']']

theorem scriptOpening_ne_nil : scriptOpening ≠ [] :=
  List.cons_ne_nil _ _

theorem scriptClosing_ne_nil : scriptClosing ≠ [] :=
  List.cons_ne_nil _ _

theorem secretMarker_ne_nil : secretMarker ≠ [] :=
  List.cons_ne_nil _ _

/-- The text behind the end of a script block, whose opening is behind us. -/
def behindScript (text : List Char) : List Char :=
  match Text.splitAround? scriptClosing text with
  | some (_, behind) => behind
  | none => []

theorem length_behindScript_le (text : List Char) :
    (behindScript text).length ≤ text.length := by
  unfold behindScript
  split
  · rename_i found
    exact Nat.le_of_lt (Text.length_lt_of_splitAround? scriptClosing_ne_nil found)
  · simp

/-- The text without its script blocks, and their number. -/
def stripScripts (text : List Char) : List Char × Nat :=
  match _ : Text.splitAround? scriptOpening text with
  | none => (text, 0)
  | some (before, behind) =>
    let (rest, count) := stripScripts (behindScript behind)
    (before ++ rest, count + 1)
termination_by text.length
decreasing_by
  have := Text.length_lt_of_splitAround? scriptOpening_ne_nil ‹_›
  have := length_behindScript_le behind
  omega

/-- The text with the values of its keys replaced, and their number. -/
def redactSecrets (text : List Char) : List Char × Nat :=
  match _ : Text.splitAround? secretMarker text with
  | none => (text, 0)
  | some (before, behind) =>
    let (rest, count) := redactSecrets (behind.dropWhile fun c => !Text.isBlank c)
    (before ++ secretName ++ redaction ++ rest, count + 1)
termination_by text.length
decreasing_by
  have := Text.length_lt_of_splitAround? secretMarker_ne_nil ‹_›
  have := (List.dropWhile_sublist (fun c => !Text.isBlank c) (l := behind)).length_le
  omega

/-- A text that may be kept, with what was done to it. -/
structure Sanitized where
  /-- The text. -/
  text : String
  /-- How many values of keys were replaced. -/
  redacted : Nat
  /-- How many script blocks were taken out. -/
  stripped : Nat
deriving DecidableEq, Repr

/-- Takes out the script blocks of a text, replaces the values of its keys, and takes away the white
space at its end. -/
def sanitize (text : String) : Sanitized :=
  let (unscripted, stripped) := stripScripts text.toList
  let (clean, redacted) := redactSecrets unscripted
  ⟨String.ofList (Text.trimEndChars clean), redacted, stripped⟩

end Recollection.Benchmark
