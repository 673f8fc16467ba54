import Mathlib.Data.Set.Image
import Recollection.Proofs.Contract.Language
/-!
# The faults of a document

A document can fail to have a shape in many places at once. `Shape.faults` gathers all of these
places, each with the steps that lead to it and what is wrong there: a required member is absent, a
member is not declared, or a value is not of the kind that is expected. Every one of them can be
shown in the document.
-/

set_option autoImplicit false

namespace Recollection

/-! ## Places -/

/-- One step from a value into one of its parts, as its shape sees the part. -/
inductive Step
  /-- The item of a list at a given index. -/
  | item (index : Nat)
  /-- A declared member of an object, by its position among the declared ones. -/
  | declared (position : Nat) (name : String)
  /-- A member of an object that is not declared. -/
  | undeclared (key : String)

/-- The step in the document. -/
def Step.segment : Step → Segment
  | .item index => .item index
  | .declared _ name => .member name
  | .undeclared key => .member key

/-- What can be wrong at a place. -/
inductive Flaw
  /-- A required member is absent. -/
  | missing
  /-- The member is not among those that are declared. -/
  | undeclared (declared : List String)
  /-- What is there is not what is expected. -/
  | unfit (expected : String) (found : Json)

/-- A place where a document has not the shape that it should have. -/
structure ShapeFault where
  /-- The steps to the place, outermost first. -/
  trace : List Step
  /-- What is wrong there. -/
  flaw : Flaw

namespace ShapeFault

/-- The place in the document. -/
def location (fault : ShapeFault) : List Segment :=
  fault.trace.map Step.segment

/-- A fault of a part, as a fault of the whole. -/
def under (step : Step) (fault : ShapeFault) : ShapeFault :=
  ⟨step :: fault.trace, fault.flaw⟩

end ShapeFault

/-! ## All faults -/

/-- The faults of some items, the first of them at `index`. -/
def itemFaults (faults : Json → Set ShapeFault) : Nat → List Json → Set ShapeFault
  | _, [] => ∅
  | index, item :: rest =>
    ShapeFault.under (.item index) '' faults item ∪ itemFaults faults (index + 1) rest

/-- The faults that the undeclared members of an object are. -/
def undeclaredFaults (declared : List String) (present : List (String × Json)) : Set ShapeFault :=
  {fault | ∃ key ∈ present.map Prod.fst, key ∉ declared ∧
    fault = ⟨[.undeclared key], .undeclared declared⟩}

mutual

/-- The faults of a document. -/
def Shape.faults {α : Type} : Shape α → Json → Set ShapeFault
  | .leaf kind, document => {fault | kind.read document = none ∧
      fault = ⟨[], .unfit kind.expected document⟩}
  | .list item, document =>
    match document with
    | .array items => itemFaults item.faults 0 items
    | other => {⟨[], .unfit "array" other⟩}
  | .record members _ _, document =>
    match document with
    | .object present => members.faults 0 present ∪ undeclaredFaults members.names present
    | other => {⟨[], .unfit "object" other⟩}

/-- The faults of the declared members of an object, the first of them at `position`. -/
def Members.faults {β : Type} : Members β → Nat → List (String × Json) → Set ShapeFault
  | .done, _, _ => ∅
  | .required name shape rest, position, present =>
    (match present.lookup name with
    | some document => ShapeFault.under (.declared position name) '' shape.faults document
    | none => {⟨[.declared position name], .missing⟩}) ∪ rest.faults (position + 1) present
  | .optional name _ shape rest, position, present =>
    (match present.lookup name with
    | none | some .null => ∅
    | some document => ShapeFault.under (.declared position name) '' shape.faults document) ∪
      rest.faults (position + 1) present

end

theorem exists_of_mem_itemFaults {faults : Json → Set ShapeFault} {fault : ShapeFault}
    {index : Nat} {items : List Json} (hmem : fault ∈ itemFaults faults index items) :
    ∃ offset item part, items[offset]? = some item ∧ part ∈ faults item ∧
      fault = part.under (.item (index + offset)) := by
  induction items generalizing index with
  | nil => exact hmem.elim
  | cons item items ih =>
    rcases hmem with ⟨part, hpart, rfl⟩ | hmem
    · exact ⟨0, item, part, rfl, hpart, rfl⟩
    · obtain ⟨offset, other, part, hother, hpart, rfl⟩ := ih hmem
      refine ⟨offset + 1, other, part, hother, hpart, ?_⟩
      rw [Nat.add_right_comm, Nat.add_assoc]

theorem exists_trace_of_mem_memberFaults {β : Type} {fault : ShapeFault} :
    {members : Members β} → {position : Nat} → {present : List (String × Json)} →
      fault ∈ members.faults position present →
      ∃ place name rest, fault.trace = .declared place name :: rest ∧ position ≤ place
  | .done, _, _, hmem => hmem.elim
  | .required name shape rest, position, present, hmem => by
    rcases hmem with hmem | hmem
    · split at hmem
      · obtain ⟨part, -, rfl⟩ := hmem
        exact ⟨position, name, part.trace, rfl, Nat.le_refl position⟩
      · obtain rfl := hmem
        exact ⟨position, name, [], rfl, Nat.le_refl position⟩
    · obtain ⟨place, other, below, htrace, hle⟩ := exists_trace_of_mem_memberFaults hmem
      exact ⟨place, other, below, htrace, by omega⟩
  | .optional name _ shape rest, position, present, hmem => by
    rcases hmem with hmem | hmem
    · split at hmem
      · exact hmem.elim
      · exact hmem.elim
      · obtain ⟨part, -, rfl⟩ := hmem
        exact ⟨position, name, part.trace, rfl, Nat.le_refl position⟩
    · obtain ⟨place, other, below, htrace, hle⟩ := exists_trace_of_mem_memberFaults hmem
      exact ⟨place, other, below, htrace, by omega⟩

/-! ## Faults are in the document -/

/-- The part of a document at a place. -/
def Json.at? : List Segment → Json → Option Json
  | [], document => some document
  | .member name :: rest, .object present => (present.lookup name).bind (at? rest)
  | .item index :: rest, .array items => items[index]?.bind (at? rest)
  | _, _ => none

mutual

/-- Whether some names are those that a shape declares for the object at a place. -/
def Shape.Declares {α : Type} : Shape α → List Segment → List String → Prop
  | .leaf _, _, _ => False
  | .list item, place, names => ∃ index rest, place = .item index :: rest ∧ item.Declares rest names
  | .record members _ _, place, names =>
    (place = [] ∧ names = members.names) ∨
      ∃ name rest, place = .member name :: rest ∧ members.Declares name rest names

/-- Whether some names are those that are declared for the object at a place in a member. -/
def Members.Declares {β : Type} : Members β → String → List Segment → List String → Prop
  | .done, _, _, _ => False
  | .required other shape rest, name, place, names =>
    (other = name ∧ shape.Declares place names) ∨ rest.Declares name place names
  | .optional other _ shape rest, name, place, names =>
    (other = name ∧ shape.Declares place names) ∨ rest.Declares name place names

end

/-- Whether a document has a fault, `Declares` saying which names are declared at which places: it
has an object that lacks a declared member, or an object with a member that is not declared, or the
value that is not as expected. -/
def ShapeFault.IsReal (Declares : List Segment → List String → Prop) (document : Json)
    (fault : ShapeFault) : Prop :=
  match fault.flaw with
  | .missing => ∃ place name present declared, fault.location = place ++ [.member name] ∧
      document.at? place = some (.object present) ∧ present.lookup name = none ∧
      Declares place declared ∧ name ∈ declared
  | .undeclared declared => ∃ place key present, fault.location = place ++ [.member key] ∧
      document.at? place = some (.object present) ∧ key ∈ present.map Prod.fst ∧
      Declares place declared ∧ key ∉ declared
  | .unfit _ found => document.at? fault.location = some found

/-- A fault that a part of a document has is one that the document has. -/
theorem ShapeFault.IsReal.under {Declares Whole : List Segment → List String → Prop}
    {part document : Json} {fault : ShapeFault} {step : Step} (hreal : fault.IsReal Declares part)
    (hpart : ∀ place, document.at? (step.segment :: place) = part.at? place)
    (hdeclares : ∀ place names, Declares place names → Whole (step.segment :: place) names) :
    (fault.under step).IsReal Whole document := by
  obtain ⟨trace, flaw⟩ := fault
  cases flaw with
  | missing =>
    obtain ⟨place, name, present, declared, hlocation, hobject, habsent, hdeclared, hmem⟩ := hreal
    refine ⟨step.segment :: place, name, present, declared, congrArg (step.segment :: ·) hlocation,
      (hpart place).trans hobject, habsent, hdeclares place declared hdeclared, hmem⟩
  | undeclared declared =>
    obtain ⟨place, key, present, hlocation, hobject, hmem, hdeclared, hother⟩ := hreal
    exact ⟨step.segment :: place, key, present, congrArg (step.segment :: ·) hlocation,
      (hpart place).trans hobject, hmem, hdeclares place declared hdeclared, hother⟩
  | unfit expected found => exact (hpart _).trans hreal

theorem ShapeFault.IsReal.mono {Declares Whole : List Segment → List String → Prop}
    {document : Json} {fault : ShapeFault} (hreal : fault.IsReal Declares document)
    (hdeclares : ∀ place names, Declares place names → Whole place names) :
    fault.IsReal Whole document := by
  obtain ⟨trace, flaw⟩ := fault
  cases flaw with
  | missing =>
    obtain ⟨place, name, present, declared, hlocation, hobject, habsent, hdeclared, hmem⟩ := hreal
    exact ⟨place, name, present, declared, hlocation, hobject, habsent,
      hdeclares place declared hdeclared, hmem⟩
  | undeclared declared =>
    obtain ⟨place, key, present, hlocation, hobject, hmem, hdeclared, hother⟩ := hreal
    exact ⟨place, key, present, hlocation, hobject, hmem, hdeclares place declared hdeclared,
      hother⟩
  | unfit expected found => exact hreal

/-- Whether an object has a fault in its declared members. -/
inductive MemberFaultIsReal {β : Type} (members : Members β) (present : List (String × Json)) :
    ShapeFault → Prop
  /-- A declared member is absent. -/
  | missing {position : Nat} {name : String} (hname : name ∈ members.names)
      (habsent : present.lookup name = none) :
      MemberFaultIsReal members present ⟨[.declared position name], .missing⟩
  /-- What is there under a declared name has a fault. -/
  | inside {position : Nat} {name : String} {document : Json} {part : ShapeFault}
      (hfound : present.lookup name = some document)
      (hreal : part.IsReal (members.Declares name) document) :
      MemberFaultIsReal members present (part.under (.declared position name))

theorem MemberFaultIsReal.mono {β γ : Type} {members : Members β} {all : Members γ}
    {present : List (String × Json)} {fault : ShapeFault} (hnames : members.names ⊆ all.names)
    (hdeclares : ∀ name place names, members.Declares name place names →
      all.Declares name place names)
    (hreal : MemberFaultIsReal members present fault) : MemberFaultIsReal all present fault := by
  cases hreal with
  | missing hname habsent => exact .missing (hnames hname) habsent
  | inside hfound hreal => exact .inside hfound (hreal.mono (hdeclares _))

/-- What is missing in or inside the declared members is missing in or inside the object. -/
theorem ShapeFault.isReal_of_memberFaultIsReal {α β : Type} {members : Members β} {make : β → α}
    {parts : α → β} {present : List (String × Json)} {fault : ShapeFault}
    (hreal : MemberFaultIsReal members present fault) :
    fault.IsReal (Shape.record members make parts).Declares (.object present) := by
  cases hreal with
  | missing hname habsent =>
    exact ⟨[], _, present, members.names, rfl, rfl, habsent, .inl ⟨rfl, rfl⟩, hname⟩
  | inside hfound hreal =>
    apply hreal.under
    · intro place
      rw [Step.segment, Json.at?, hfound]
      rfl
    · exact fun place names hdeclared => .inr ⟨_, place, rfl, hdeclared⟩

mutual

/-- Every fault of a document is in the document. -/
theorem Shape.isReal_of_mem_faults {α : Type} :
    (shape : Shape α) → (document : Json) → ∀ fault ∈ shape.faults document,
      fault.IsReal shape.Declares document
  | .leaf kind, document, fault, hmem => by
    obtain ⟨-, rfl⟩ := hmem
    rfl
  | .list item, document, fault, hmem => by
    cases document with
    | array items =>
      rw [Shape.faults] at hmem
      obtain ⟨offset, document, part, hitem, hpart, rfl⟩ := exists_of_mem_itemFaults hmem
      rw [Nat.zero_add]
      apply (item.isReal_of_mem_faults document part hpart).under
      · intro place
        rw [Step.segment, Json.at?, hitem]
        rfl
      · exact fun place names hdeclared => ⟨offset, place, rfl, hdeclared⟩
    | _ =>
      simp only [Shape.faults] at hmem
      obtain rfl := hmem
      rfl
  | .record members make _, document, fault, hmem => by
    cases document with
    | object present =>
      rw [Shape.faults] at hmem
      rcases hmem with hmem | ⟨key, hkey, hother, rfl⟩
      · exact ShapeFault.isReal_of_memberFaultIsReal
          (members.isReal_of_mem_faults 0 present fault hmem)
      · exact ⟨[], key, present, rfl, rfl, hkey, .inl ⟨rfl, rfl⟩, hother⟩
    | _ =>
      simp only [Shape.faults] at hmem
      obtain rfl := hmem
      rfl

/-- Every fault of the declared members of an object is in the object. -/
theorem Members.isReal_of_mem_faults {β : Type} :
    (members : Members β) → (position : Nat) → (present : List (String × Json)) →
      ∀ fault ∈ members.faults position present, MemberFaultIsReal members present fault
  | .done, _, _, _, hmem => hmem.elim
  | .required name shape rest, position, present, fault, hmem => by
    rcases hmem with hmem | hmem
    · split at hmem
      · rename_i document hfound
        obtain ⟨part, hpart, rfl⟩ := hmem
        refine .inside hfound ((shape.isReal_of_mem_faults document part hpart).mono ?_)
        exact fun place names hdeclared => .inl ⟨rfl, hdeclared⟩
      · rename_i habsent
        obtain rfl := hmem
        exact .missing List.mem_cons_self habsent
    · exact (rest.isReal_of_mem_faults (position + 1) present fault hmem).mono
        (List.subset_cons_self name rest.names) fun _ _ _ hdeclared => .inr hdeclared
  | .optional name _ shape rest, position, present, fault, hmem => by
    rcases hmem with hmem | hmem
    · split at hmem
      · exact hmem.elim
      · exact hmem.elim
      · rename_i document _ hfound
        obtain ⟨part, hpart, rfl⟩ := hmem
        refine .inside hfound ((shape.isReal_of_mem_faults document part hpart).mono ?_)
        exact fun place names hdeclared => .inl ⟨rfl, hdeclared⟩
    · exact (rest.isReal_of_mem_faults (position + 1) present fault hmem).mono
        (List.subset_cons_self name rest.names) fun _ _ _ hdeclared => .inr hdeclared

end

end Recollection
