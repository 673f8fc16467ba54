import Recollection.Json.Value
/-!
# Loading records

Settings, workloads and reports are loaded from documents more freely than contracts are: a record
is an object in which undeclared members are ignored, or a list of its values in the order in which
they are declared. A declared member may occur once only; a list may leave out values at its end
that have a default, and holds no further values.

Settings are also written in TOML, which differs in two points: a list may hold further values, and
the value that stands for nothing is an empty table or an empty list, because there is no null.

Loading a document either succeeds, or fails on its shape, or is refused by the rules of a type
that keeps an invariant of its own.
-/

set_option autoImplicit false

namespace Recollection

/-- Why a document could not be loaded. -/
inductive LoadFault
  /-- The document has not the shape of the type. -/
  | shape
  /-- The type refuses the value, for the given reason. -/
  | refused (reason : String)
deriving DecidableEq, Repr

/-- The language in which a document is written. -/
inductive DocumentLanguage
  /-- JSON. -/
  | json
  /-- TOML, read as the document that its tables stand for. -/
  | toml
deriving DecidableEq, Repr

/-- Whether a value stands for nothing. -/
def DocumentLanguage.isNothing : DocumentLanguage → Json → Bool
  | .json, .null => true
  | .toml, .object [] => true
  | .toml, .array [] => true
  | _, _ => false

/-- Loads a document as a value of a type. -/
abbrev Load (α : Type) : Type := Json → Except LoadFault α

namespace Load

/-- A value that may have been read. -/
def ofOption {α : Type} : Option α → Except LoadFault α
  | some value => .ok value
  | none => .error .shape

/-- Any string. -/
def text : Load String := fun document =>
  ofOption document.text?

/-- A truth value. -/
def flag : Load Bool := fun document =>
  ofOption document.bool?

/-- An integer in `0 ≤ n < 2 ^ 64`. -/
def word64 : Load UInt64 := fun document =>
  ofOption ((document.natBelow? UInt64.size).map UInt64.ofNat)

/-- An integer in `0 ≤ n < 2 ^ 32`. -/
def word32 : Load UInt32 := fun document =>
  ofOption ((document.natBelow? UInt32.size).map UInt32.ofNat)

/-- Any number. -/
def number : Load Binary64 := fun document =>
  ofOption document.number?

/-- Any document. -/
def document : Load Json := .ok

/-- A list of values of one type. -/
def list {α : Type} (item : Load α) : Load (List α)
  | .array items => items.mapM item
  | _ => .error .shape

/-- A value that may be null. -/
def orNull {α : Type} (load : Load α) : Load (Option α)
  | .null => .ok none
  | document => (load document).map some

/-- One of some values, by its name: a string, or an object whose only key is the name, with a
value that stands for nothing. -/
def namedIn {α : Type} (language : DocumentLanguage) (name : α → String) (values : List α) : Load α
  | .string text => ofOption (values.find? fun value => name value == text)
  | .object [(key, payload)] =>
    if language.isNothing payload then ofOption (values.find? fun value => name value == key)
    else .error .shape
  | _ => .error .shape

/-- One of some values, by its name in a JSON document. -/
def named {α : Type} (name : α → String) (values : List α) : Load α :=
  namedIn .json name values

end Load

/-- The values of a record, by the names of its members. -/
structure Record where
  /-- The members that the document gives. -/
  members : List (String × Json)

namespace Record

/-- Whether some name occurs more than once as a key. -/
def repeatsName (names : List String) (members : List (String × Json)) : Bool :=
  names.any fun name => 1 < (members.filter fun entry => entry.1 == name).length

/-- The record that a document gives for the declared names; undeclared members are ignored. -/
def ofJson (names : List String) : Load Record
  | .object members => if repeatsName names members then .error .shape else .ok ⟨members⟩
  | .array items => if names.length < items.length then .error .shape else .ok ⟨names.zip items⟩
  | _ => .error .shape

/-- The record that a document in some language gives for the declared names; the values of a TOML
list beyond the declared ones are ignored. -/
def ofDocument : DocumentLanguage → List String → Load Record
  | .toml, names, .array items => ofJson names (.array (items.take names.length))
  | _, names, document => ofJson names document

/-- The record that a document gives for the declared names; an undeclared member is refused. -/
def ofJsonClosed (names : List String) : Load Record := fun document => do
  match document with
  | .object members =>
    if members.all fun entry => names.contains entry.1 then ofJson names document
    else .error .shape
  | _ => ofJson names document

/-- The value of a member that must be present. -/
def required {α : Type} (record : Record) (name : String) (load : Load α) : Except LoadFault α :=
  match record.members.lookup name with
  | some document => load document
  | none => .error .shape

/-- The value of a member that has a default. -/
def withDefault {α : Type} (record : Record) (name : String) (default : α) (load : Load α) :
    Except LoadFault α :=
  match record.members.lookup name with
  | some document => load document
  | none => .ok default

/-- The value of a member that may be absent or null. -/
def optional {α : Type} (record : Record) (name : String) (load : Load α) :
    Except LoadFault (Option α) :=
  record.withDefault name none (Load.orNull load)

end Record

end Recollection
