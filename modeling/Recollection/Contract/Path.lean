/-!
# Locations in a document

A location is the way from the root of a document to one of its values: members by name, items of a
list by index. Mismatches name the location they are about, as in `$.records[2].recordId`.
-/

set_option autoImplicit false

namespace Recollection

/-- One step into a document. -/
inductive Segment
  /-- The member of an object with a given name. -/
  | member (name : String)
  /-- The item of a list at a given index. -/
  | item (index : Nat)
deriving DecidableEq, Repr

/-- A location, by the steps from the root. -/
structure Path where
  /-- The steps, outermost first. -/
  segments : List Segment
deriving DecidableEq, Repr

/-- The text of a step. -/
def Segment.render : Segment → String
  | .member name => "." ++ name
  | .item index => "[" ++ toString index ++ "]"

namespace Path

/-- The whole document. -/
def root : Path :=
  ⟨[]⟩

/-- The location of a member below a location. -/
def member (path : Path) (name : String) : Path :=
  ⟨path.segments ++ [.member name]⟩

/-- The location of an item below a location. -/
def item (path : Path) (index : Nat) : Path :=
  ⟨path.segments ++ [.item index]⟩

/-- The text of a location. -/
def render (path : Path) : String :=
  path.segments.foldl (fun text segment => text ++ segment.render) "$"

/-- The whole document is a dollar sign. -/
theorem render_root : root.render = "$" :=
  rfl

/-- A member is its name, behind a dot. -/
theorem render_member (path : Path) (name : String) :
    (path.member name).render = path.render ++ "." ++ name := by
  rw [render, member, List.foldl_append, String.append_assoc]
  rfl

/-- An item is its index, in brackets. -/
theorem render_item (path : Path) (index : Nat) :
    (path.item index).render = path.render ++ "[" ++ toString index ++ "]" := by
  have hstep : (Segment.item index).render = "[" ++ (toString index ++ "]") :=
    String.append_assoc
  rw [render, item, List.foldl_append, String.append_assoc, String.append_assoc, ← hstep]
  rfl

/-- What is behind the dollar sign: for each member a dot and its name, for each item its index in
brackets. -/
def stepsText : List Segment → String
  | [] => ""
  | .member name :: rest => "." ++ name ++ stepsText rest
  | .item index :: rest => "[" ++ toString index ++ "]" ++ stepsText rest

/-- Steps below a location are written behind it. -/
theorem render_append (path : Path) (steps : List Segment) :
    render ⟨path.segments ++ steps⟩ = path.render ++ stepsText steps := by
  induction steps generalizing path with
  | nil => rw [List.append_nil, stepsText, String.append_empty]
  | cons step rest ih =>
    rw [List.append_cons]
    cases step with
    | member name =>
      refine (ih (path.member name)).trans ?_
      simp only [render_member, stepsText, String.append_assoc]
    | item index =>
      refine (ih (path.item index)).trans ?_
      simp only [render_item, stepsText, String.append_assoc]

/-- A location is a dollar sign and its steps. -/
theorem render_eq (path : Path) : path.render = "$" ++ stepsText path.segments :=
  render_append root path.segments

end Path

end Recollection
