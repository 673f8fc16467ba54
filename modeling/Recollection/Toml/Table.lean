import Recollection.Json.Value
/-!
# Tables of a TOML text

The lines of a TOML text build a tree of tables. How a table came to be decides what later lines may
do with it: a table with a header of its own is closed to further headers and to dotted keys from
outside, a table that only lies on the way to a deeper header may still get a header, and a table
made by a dotted key may only be extended by dotted keys of the same table.

`withinTable` is the one way into the tree; headers and key lines differ in what they do at its end.
-/

set_option autoImplicit false

namespace Recollection.Toml

/-- How a table came to be. -/
inductive Origin
  /-- It has a header. -/
  | header
  /-- It lies on the way to the table of a header. -/
  | path
  /-- It lies on the way of a dotted key. -/
  | dotted
deriving DecidableEq, Repr

/-- What a key stands for while a text is read. -/
inductive Node
  /-- A value, to which nothing can be added. -/
  | value (value : Json)
  /-- A table. -/
  | table (origin : Origin) (entries : List (String × Node))
  /-- A list of tables with headers, the last of which may still grow. -/
  | tables (earlier : List (List (String × Node))) (last : List (String × Node))
deriving Inhabited

/-- The keys of a table, with what they stand for. -/
abbrev Entries := List (String × Node)

/-- The entries with another node for a key that is there, or with a new key at the end. -/
def setEntry (entries : Entries) (key : String) (node : Node) : Entries :=
  if entries.any fun entry => entry.1 == key then
    entries.map fun entry => if entry.1 == key then (key, node) else entry
  else entries ++ [(key, node)]

/-- Acts on the table at the end of a path of keys, making the tables on the way that are absent.
There is no way through a value, and a dotted key has none into a table with a header. -/
def withinTable (isDotted : Bool) (act : Origin → Entries → Option Entries) :
    List String → Origin → Entries → Option Entries
  | [], origin, entries => act origin entries
  | key :: path, _, entries =>
    match entries.lookup key with
    | none => do
      let origin := if isDotted then .dotted else .path
      return entries ++ [(key, .table origin (← withinTable isDotted act path origin []))]
    | some (.value _) => none
    | some (.table origin inner) =>
      if isDotted && origin = .header then none
      else do
        return setEntry entries key (.table origin (← withinTable isDotted act path origin inner))
    | some (.tables earlier last) => do
      return setEntry entries key (.tables earlier (← withinTable isDotted act path .header last))

/-- Puts a value under a new key at the end of a dotted path. A path of several keys has to end in a
table made by dotted keys, and a path of one key must not. -/
def insertValue (path : List String) (key : String) (value : Json) (origin : Origin)
    (entries : Entries) : Option Entries :=
  withinTable true
    (fun origin entries =>
      if path.isEmpty == (origin == .dotted) then none
      else if (entries.lookup key).isSome then none
      else some (entries ++ [(key, .value value)]))
    path origin entries

/-- Gives a table its header. -/
def openTable (path : List String) (key : String) (entries : Entries) : Option Entries :=
  withinTable false
    (fun _ entries =>
      match entries.lookup key with
      | none => some (entries ++ [(key, .table .header [])])
      | some (.table .path inner) => some (setEntry entries key (.table .header inner))
      | some _ => none)
    path .header entries

/-- Adds a table to a list of tables. -/
def appendTable (path : List String) (key : String) (entries : Entries) : Option Entries :=
  withinTable false
    (fun _ entries =>
      match entries.lookup key with
      | none => some (entries ++ [(key, .tables [] [])])
      | some (.tables earlier last) =>
        some (setEntry entries key (.tables (earlier ++ [last]) []))
      | some _ => none)
    path .header entries

mutual

/-- The document that a node stands for. -/
def Node.document : Node → Json
  | .value value => value
  | .table _ entries => .object (entryDocuments entries)
  | .tables earlier last => .array (tableDocuments earlier ++ [.object (entryDocuments last)])

/-- The members that some entries stand for. -/
def entryDocuments : List (String × Node) → List (String × Json)
  | [] => []
  | (key, node) :: rest => (key, node.document) :: entryDocuments rest

/-- The objects that some tables stand for. -/
def tableDocuments : List (List (String × Node)) → List Json
  | [] => []
  | entries :: rest => .object (entryDocuments entries) :: tableDocuments rest

end

end Recollection.Toml
