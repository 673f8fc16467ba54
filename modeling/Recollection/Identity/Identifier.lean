import Recollection.Contract.Leaf
import Recollection.Text.Blank
/-!
# Identifiers

Everything that requests name has an identifier, and identifiers of different kinds are different
types. An identifier is a text without white space at its ends that is not empty; it is built from
any text by trimming it. Identifiers are ordered as their texts.
-/

set_option autoImplicit false

namespace Recollection

/-- What an identifier names. -/
inductive IdentifierKind
  /-- The owner of projects and spaces. -/
  | tenant
  /-- A project. -/
  | project
  /-- A job role. -/
  | role
  /-- A user, who may act. -/
  | user
  /-- A space, in which memories live. -/
  | space
  /-- A profile of a user or of a role. -/
  | profile
  /-- A memory. -/
  | memory
  /-- An item of evidence. -/
  | evidence
deriving DecidableEq, Repr

namespace IdentifierKind

/-- Every kind. -/
def all : List IdentifierKind :=
  [.tenant, .project, .role, .user, .space, .profile, .memory, .evidence]

/-- The name of a kind. -/
def name : IdentifierKind → String
  | .tenant => "tenant"
  | .project => "project"
  | .role => "role"
  | .user => "user"
  | .space => "space"
  | .profile => "profile"
  | .memory => "memory"
  | .evidence => "evidence"

end IdentifierKind

/-- An identifier of one kind. -/
structure Identifier (kind : IdentifierKind) where
  /-- The text. -/
  text : String
  /-- No white space at either end. -/
  trimmed : Text.trim text = text
  /-- Not empty. -/
  nonempty : text ≠ ""
deriving DecidableEq

/-- A text from which no identifier can be built. -/
structure InvalidIdentifier where
  /-- What was to be named. -/
  kind : IdentifierKind
deriving DecidableEq, Repr

/-- The text of the fault. -/
def InvalidIdentifier.message (fault : InvalidIdentifier) : String :=
  fault.kind.name ++ " id must be a non-empty string"

namespace Identifier

variable {kind : IdentifierKind}

/-- The identifier that a text stands for, if the text is not blank. -/
def ofText? (kind : IdentifierKind) (raw : String) : Option (Identifier kind) :=
  if h : Text.trim raw = "" then none
  else some ⟨Text.trim raw, Text.trim_trim raw, h⟩

/-- The identifier that a text stands for, or the reason why there is none. -/
def ofText (kind : IdentifierKind) (raw : String) :
    Except InvalidIdentifier (Identifier kind) :=
  match ofText? kind raw with
  | some identifier => .ok identifier
  | none => .error ⟨kind⟩

/-- Identifiers in documents. -/
def leaf (kind : IdentifierKind) : Leaf (Identifier kind) where
  expected := "non-empty " ++ kind.name ++ " id"
  read document := document.text?.bind (ofText? kind)
  write identifier := .string identifier.text

theorem ext_text {a b : Identifier kind} (h : a.text = b.text) : a = b := by
  cases a
  cases b
  simp_all

/-- The text of an identifier stands for that identifier. -/
theorem ofText?_text (identifier : Identifier kind) :
    ofText? kind identifier.text = some identifier := by
  unfold ofText?
  rw [dif_neg (by rw [identifier.trimmed]; exact identifier.nonempty)]
  exact congrArg some (ext_text identifier.trimmed)

instance : Ord (Identifier kind) := ⟨fun a b => compare a.text b.text⟩

instance : Std.TransOrd (Identifier kind) where
  eq_swap {a b} := Std.OrientedOrd.eq_swap (a := a.text) (b := b.text)
  isLE_trans {a b c} h k :=
    @Std.TransCmp.isLE_trans String compare inferInstance a.text b.text c.text h k

instance : Std.LawfulEqOrd (Identifier kind) where
  compare_self {a} := Std.compare_self (a := a.text)
  eq_of_compare h := ext_text (Std.LawfulEqOrd.eq_of_compare h)

end Identifier

/-- The identifier of a project. -/
abbrev ProjectId := Identifier .project

/-- The identifier of a job role. -/
abbrev RoleId := Identifier .role

/-- The identifier of a user. -/
abbrev UserId := Identifier .user

/-- The identifier of a space. -/
abbrev SpaceId := Identifier .space

/-- The identifier of a memory. -/
abbrev MemoryId := Identifier .memory

/-- The identifier of an item of evidence. -/
abbrev EvidenceId := Identifier .evidence

end Recollection
