import Recollection.Toml.Date
import Recollection.Toml.Scalar
import Recollection.Toml.Table
/-!
# Reading TOML

Settings files are written in TOML: lines that give a key its value, under headers that name the
table they belong to. A text is read as the document that its tables stand for.
-/

set_option autoImplicit false

namespace Recollection.Toml

/-! ## Values -/

/-- The items of a list, behind its opening bracket, in at most `steps` items. -/
def readItems (item : Reader Json) : (steps : Nat) → Reader (List Json)
  | 0, _ => none
  | steps + 1, text =>
    match skipLines false text with
    | ']' :: rest => some ([], rest)
    | text => do
      let (value, rest) ← item text
      match skipLines false rest with
      | ',' :: rest => do
        let (values, rest) ← readItems item steps rest
        return (value :: values, rest)
      | ']' :: rest => return ([value], rest)
      | _ => none

/-- A path of keys and the value it stands for. -/
def readKeyValue (item : Reader Json) : Reader (List String × String × Json) := fun text => do
  let ((path, key), rest) ← readPath text
  match rest with
  | '=' :: rest => do
    let (value, rest) ← item (skipSpaces rest)
    return ((path, key, value), rest)
  | _ => none

/-- The entries of a table in braces, behind the first key that is due, in at most `steps`
entries. -/
def readInlineEntries (item : Reader Json) : (steps : Nat) → Entries → Reader Entries
  | 0, _, _ => none
  | steps + 1, entries, text => do
    let ((path, key, value), rest) ← readKeyValue item text
    let entries ← insertValue path key value .header entries
    match skipSpaces rest with
    | ',' :: rest => readInlineEntries item steps entries rest
    | '\x7d' :: rest => return (entries, rest)
    | _ => none

/-- A table in braces, behind the opening brace. -/
def readInline (item : Reader Json) : Reader Json := fun text =>
  match skipSpaces text with
  | '\x7d' :: rest => some (.object [], rest)
  | text => do
    let (entries, rest) ← readInlineEntries item (text.length + 1) [] text
    return (.object (entryDocuments entries), rest)

/-- A value without parts. -/
def readScalar : Reader Json
  | '"' :: rest => do
    let (value, rest) ← readString '"' rest
    return (.string value, rest)
  | '\'' :: rest => do
    let (value, rest) ← readString '\'' rest
    return (.string value, rest)
  | 't' :: 'r' :: 'u' :: 'e' :: rest => some (.bool true, rest)
  | 'f' :: 'a' :: 'l' :: 's' :: 'e' :: rest => some (.bool false, rest)
  | text => (readDate text).or (readNumber text)

/-- A value with at most `depth` lists and tables within each other. -/
def readValue : (depth : Nat) → Reader Json
  | 0, text => readScalar text
  | depth + 1, text =>
    match text with
    | '[' :: rest => do
      let (items, rest) ← readItems (readValue depth) (rest.length + 1) rest
      return (.array items, rest)
    | '\x7b' :: rest => readInline (readValue depth) rest
    | text => readScalar text

/-! ## Lines -/

/-- What the lines read so far have built. -/
structure Progress where
  /-- The entries of the whole text. -/
  entries : Entries
  /-- The table that lines belong to, by its path. -/
  current : List String

/-- Reads a header, behind its opening bracket. -/
def readHeader (progress : Progress) : Reader Progress
  | '[' :: rest => do
    let ((path, key), rest) ← readPath rest
    match rest with
    | ']' :: ']' :: rest => return (⟨← appendTable path key progress.entries, path ++ [key]⟩, rest)
    | _ => none
  | text => do
    let ((path, key), rest) ← readPath text
    match rest with
    | ']' :: rest => return (⟨← openTable path key progress.entries, path ++ [key]⟩, rest)
    | _ => none

/-- Reads a line that gives a key its value. -/
def readEntry (progress : Progress) : Reader Progress := fun text => do
  let ((path, key, value), rest) ← readKeyValue (readValue depthLimit) text
  let entries ← withinTable false (insertValue path key value) progress.current .header
    progress.entries
  return (⟨entries, progress.current⟩, rest)

/-- Reads all lines, at most `steps`. -/
def readLines : (steps : Nat) → Progress → List Char → Option Entries
  | 0, _, _ => none
  | steps + 1, progress, text =>
    match skipLines false text with
    | [] => some progress.entries
    | '[' :: rest => do
      let (progress, rest) ← readHeader progress rest
      readLines steps progress (← readLineEnd rest)
    | text => do
      let (progress, rest) ← readEntry progress text
      readLines steps progress (← readLineEnd rest)

/-- The document that a text stands for. A byte order mark in front of it does not count. -/
def read (text : String) : Option Json :=
  let text := match text.toList with
    | '\uFEFF' :: rest => rest
    | text => text
  (readLines (text.length + 1) ⟨[], []⟩ text).map fun entries => .object (entryDocuments entries)

end Recollection.Toml
