import Recollection.Contract.Mismatch
/-!
# Shapes of documents

A shape says which documents stand for the values of a type: a leaf reads one kind of value, a list
holds items of one shape, and a record is an object with declared members and no others. Decoding
and encoding are two readings of one shape, so they cannot drift apart.

Decoding reports the first mismatch: members in the order they are declared, items by index, a
fault inside a member before a later member, and an undeclared member only when every declared
member of its object decodes. Of several undeclared members the one with the least key is reported.
-/

set_option autoImplicit false

namespace Recollection

/-- A shape without parts: what a message calls it, how it is read and how it is written. -/
structure Leaf (α : Type) where
  /-- What a mismatch says was expected. -/
  expected : String
  /-- The value a document stands for. -/
  read : Json → Option α
  /-- The document that stands for a value. -/
  write : α → Json

/-- How an absent value of an optional member is written. -/
inductive Absence
  /-- The member is left out. -/
  | omitted
  /-- The member is null. -/
  | null
deriving DecidableEq, Repr

mutual

/-- The documents that stand for the values of a type. -/
inductive Shape : Type → Type 1
  /-- A value without parts. -/
  | leaf {α : Type} (kind : Leaf α) : Shape α
  /-- A list of values of one shape. -/
  | list {α : Type} (item : Shape α) : Shape (List α)
  /-- An object with declared members, put together and taken apart by two functions. -/
  | record {α β : Type} (members : Members β) (make : β → α) (parts : α → β) : Shape α

/-- The declared members of an object, in order. -/
inductive Members : Type → Type 1
  /-- No further members. -/
  | done : Members Unit
  /-- A member that must be present. -/
  | required {α β : Type} (name : String) (shape : Shape α) (rest : Members β) : Members (α × β)
  /-- A member that may be absent or null. -/
  | optional {α β : Type} (name : String) (absence : Absence) (shape : Shape α)
      (rest : Members β) : Members (Option α × β)

end

/-- The names of the declared members, in order. -/
def Members.names {β : Type} : Members β → List String
  | .done => []
  | .required name _ rest => name :: rest.names
  | .optional name _ _ rest => name :: rest.names

/-- The least of some texts. -/
def leastText? : List String → Option String
  | [] => none
  | text :: rest =>
    match leastText? rest with
    | some least => some (if least < text then least else text)
    | none => some text

/-- The least key that is not among the declared names. -/
def leastUndeclared? (declared : List String) (members : List (String × Json)) : Option String :=
  leastText? ((members.map Prod.fst).filter fun key => !declared.contains key)

/-- Decodes the items of a list in order, the first one at `index`. -/
def decodeItems {α : Type} (decode : Path → Json → Except Mismatch α) (path : Path) :
    Nat → List Json → Except Mismatch (List α)
  | _, [] => .ok []
  | index, item :: rest => do
    let value ← decode (path.item index) item
    let values ← decodeItems decode path (index + 1) rest
    return value :: values

mutual

/-- The value that a document at a location stands for, or the first mismatch. -/
def Shape.decode {α : Type} : Shape α → Path → Json → Except Mismatch α
  | .leaf kind, path, document =>
    match kind.read document with
    | some value => .ok value
    | none => .error (.ofDocument path kind.expected document)
  | .list item, path, document =>
    match document with
    | .array items => decodeItems item.decode path 0 items
    | other => .error (.ofDocument path "array" other)
  | .record members make _, path, document =>
    match document with
    | .object present => do
      let parts ← members.decode path present
      match leastUndeclared? members.names present with
      | some key => .error (.undeclared (path.member key) members.names)
      | none => return make parts
    | other => .error (.ofDocument path "object" other)

/-- The values of the declared members of an object at a location, or the first mismatch. -/
def Members.decode {β : Type} :
    Members β → Path → List (String × Json) → Except Mismatch β
  | .done, _, _ => .ok ()
  | .required name shape rest, path, present =>
    match present.lookup name with
    | some document => do
      let value ← shape.decode (path.member name) document
      let values ← rest.decode path present
      return (value, values)
    | none => .error (.missing (path.member name))
  | .optional name _ shape rest, path, present =>
    match present.lookup name with
    | none | some .null => do
      let values ← rest.decode path present
      return (none, values)
    | some document => do
      let value ← shape.decode (path.member name) document
      let values ← rest.decode path present
      return (some value, values)

end

mutual

/-- The document that stands for a value. -/
def Shape.encode {α : Type} : Shape α → α → Json
  | .leaf kind, value => kind.write value
  | .list item, values => .array (values.map item.encode)
  | .record members _ parts, value => .object (members.encode (parts value))

/-- The members that stand for some values. -/
def Members.encode {β : Type} : Members β → β → List (String × Json)
  | .done, _ => []
  | .required name shape rest, (value, values) => (name, shape.encode value) :: rest.encode values
  | .optional name _ shape rest, (some value, values) =>
    (name, shape.encode value) :: rest.encode values
  | .optional _ .omitted _ rest, (none, values) => rest.encode values
  | .optional name .null _ rest, (none, values) => (name, .null) :: rest.encode values

end

end Recollection
