import Recollection.Identity.Identifier
import Recollection.Json.Record
/-!
# Scopes

A scope is the part of the memories that a request is anchored to: everything a tenant shares, one
project, one job role or one user. A scope carries exactly the anchor that its level asks for, so
code that holds a scope has nothing to check.

A document writes a scope as its level and one member for the anchor, as in a project with its
`projectId`. Two readers accept such documents: decoding is strict and says where a document fails,
loading is the free reading of records.
-/

set_option autoImplicit false

namespace Recollection

/-- How wide a scope is. -/
inductive ScopeLevel
  /-- Everyone in the tenant. -/
  | common
  /-- One project. -/
  | project
  /-- One job role. -/
  | jobRole
  /-- One user. -/
  | user
deriving DecidableEq, Repr

namespace ScopeLevel

/-- Every level, the widest first. -/
def all : List ScopeLevel :=
  [.common, .project, .jobRole, .user]

/-- The name of a level. -/
def name : ScopeLevel → String
  | .common => "common"
  | .project => "project"
  | .jobRole => "job_role"
  | .user => "user"

/-- The level with a given name. -/
def ofName? (text : String) : Option ScopeLevel :=
  all.find? fun level => level.name == text

/-- The member that holds the anchor of a level. -/
def anchorField? : ScopeLevel → Option String
  | .common => none
  | .project => some "projectId"
  | .jobRole => some "roleId"
  | .user => some "userId"

/-- Levels in documents. -/
def leaf : Leaf ScopeLevel :=
  .named name all

/-- Loads a level by its name. -/
def load : Load ScopeLevel :=
  .named name all

end ScopeLevel

/-- An anchor that partitions the memories. -/
inductive Scope
  /-- Everyone in the tenant. -/
  | common
  /-- One project. -/
  | project (anchor : ProjectId)
  /-- One job role. -/
  | jobRole (anchor : RoleId)
  /-- One user. -/
  | user (anchor : UserId)
deriving DecidableEq

/-- Why a level and an anchor do not make a scope. -/
inductive InvalidScope
  /-- The level asks for an anchor and there is none. -/
  | missingAnchor (level : ScopeLevel)
  /-- The level does not accept the anchor in the given member. -/
  | unexpectedAnchor (level : ScopeLevel) (field : String)
  /-- The anchor is no identifier. -/
  | invalidAnchor (level : ScopeLevel) (fault : InvalidIdentifier)
deriving DecidableEq, Repr

/-- The text of the fault. -/
def InvalidScope.message : InvalidScope → String
  | missingAnchor level => "scope level `" ++ level.name ++ "` requires an anchor"
  | unexpectedAnchor level field =>
    "scope level `" ++ level.name ++ "` does not accept anchor `" ++ field ++ "`"
  | invalidAnchor level fault =>
    "scope level `" ++ level.name ++ "` has an invalid anchor: " ++ fault.message

namespace Scope

/-- The level of a scope. -/
def level : Scope → ScopeLevel
  | common => .common
  | project _ => .project
  | jobRole _ => .jobRole
  | user _ => .user

/-- The text of the anchor. -/
def anchor? : Scope → Option String
  | common => none
  | project anchor => some anchor.text
  | jobRole anchor => some anchor.text
  | user anchor => some anchor.text

/-- The text of a scope: its level, and its anchor behind a colon. -/
def render (scope : Scope) : String :=
  match scope.anchor? with
  | some anchor => scope.level.name ++ ":" ++ anchor
  | none => scope.level.name

/-- The scope of a level and an anchor. -/
def make (level : ScopeLevel) (anchor : Option String) : Except InvalidScope Scope :=
  match level, anchor with
  | .common, none => .ok .common
  | .common, some _ => .error (.unexpectedAnchor level "anchor")
  | _, none => .error (.missingAnchor level)
  | .project, some raw =>
    ((Identifier.ofText .project raw).map project).mapError (.invalidAnchor level)
  | .jobRole, some raw =>
    ((Identifier.ofText .role raw).map jobRole).mapError (.invalidAnchor level)
  | .user, some raw => ((Identifier.ofText .user raw).map user).mapError (.invalidAnchor level)

end Scope

/-! ## Scopes in documents -/

/-- The members of a document that stands for a scope, before the anchors are compared with the
level. -/
structure ScopeForm where
  /-- The level. -/
  level : ScopeLevel
  /-- The anchor in `projectId`. -/
  projectId : Option String
  /-- The anchor in `roleId`. -/
  roleId : Option String
  /-- The anchor in `userId`. -/
  userId : Option String
deriving DecidableEq, Repr

namespace ScopeForm

/-- The anchors that are present, with the members that hold them. -/
def anchors (form : ScopeForm) : List (String × String) :=
  [("projectId", form.projectId), ("roleId", form.roleId), ("userId", form.userId)].filterMap
    fun (field, anchor) => anchor.map fun text => (field, text)

/-- The scope of a form: the level accepts every anchor that is present, and has the one it asks
for. -/
def toScope (form : ScopeForm) : Except InvalidScope Scope :=
  match form.anchors.find? fun (field, _) => some field != form.level.anchorField? with
  | some (field, _) => .error (.unexpectedAnchor form.level field)
  | none => Scope.make form.level (form.anchors.getLast?.map Prod.snd)

/-- The form of a scope. -/
def ofScope (scope : Scope) : ScopeForm :=
  match scope with
  | .common => ⟨.common, none, none, none⟩
  | .project anchor => ⟨.project, some anchor.text, none, none⟩
  | .jobRole anchor => ⟨.jobRole, none, some anchor.text, none⟩
  | .user anchor => ⟨.user, none, none, some anchor.text⟩

/-- The shape of forms. -/
def shape : Shape ScopeForm :=
  .record
    (.required "level" (.leaf ScopeLevel.leaf) <|
      .optional "projectId" .omitted (.leaf .text) <|
      .optional "roleId" .omitted (.leaf .text) <|
      .optional "userId" .omitted (.leaf .text) .done)
    (fun (level, projectId, roleId, userId, ()) => ⟨level, projectId, roleId, userId⟩)
    (fun form => (form.level, form.projectId, form.roleId, form.userId, ()))

/-- Loads a form; undeclared members are refused. -/
def load : Load ScopeForm := fun document => do
  let record ← Record.ofJsonClosed ["level", "projectId", "roleId", "userId"] document
  return {
    level := ← record.required "level" ScopeLevel.load
    projectId := ← record.optional "projectId" .text
    roleId := ← record.optional "roleId" .text
    userId := ← record.optional "userId" .text }

end ScopeForm

namespace Scope

/-- The member that a fault is about, below the location of the scope. -/
def faultPath (path : Path) : InvalidScope → Path
  | .unexpectedAnchor _ field => path.member field
  | .missingAnchor level | .invalidAnchor level _ =>
    path.member (level.anchorField?.getD "level")

/-- The scope that a document at a location stands for, or the first mismatch. -/
def decode (path : Path) (document : Json) : Except Mismatch Scope := do
  let form ← ScopeForm.shape.decode path document
  form.toScope.mapError fun fault =>
    ⟨faultPath path fault, "exactly one anchor matching the scope level", fault.message⟩

/-- The document that stands for a scope. -/
def encode (scope : Scope) : Json :=
  ScopeForm.shape.encode (.ofScope scope)

/-- Loads a scope. -/
def load : Load Scope := fun document => do
  let form ← ScopeForm.load document
  form.toScope.mapError fun fault => .refused fault.message

end Scope

/-- Loads an identifier. -/
def Identifier.load (kind : IdentifierKind) : Load (Identifier kind) := fun document => do
  let raw ← Load.text document
  (Identifier.ofText kind raw).mapError fun fault => .refused fault.message

end Recollection
