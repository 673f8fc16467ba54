import Recollection.Contract.Basic
import Recollection.Identity.Identifier
/-!
# What is written is read back

A shape carries a value if every leaf of it is read back from how it is written, the names of every
record in it are distinct, and nothing that is present is written as null. Such a value is decoded
from the document that stands for it: its members are found under their names, and there are no
others.
-/

set_option autoImplicit false

namespace Recollection

mutual

/-- Whether a value is one that is read back from the document that stands for it. -/
def Shape.Carries {α : Type} : Shape α → α → Prop
  | .leaf kind, value => kind.read (kind.write value) = some value
  | .list item, values => ∀ value ∈ values, item.Carries value
  | .record members make parts, value =>
    members.names.Nodup ∧ members.Carries (parts value) ∧ make (parts value) = value

/-- Whether the values of some members are. -/
def Members.Carries {β : Type} : Members β → β → Prop
  | .done, _ => True
  | .required _ shape rest, (value, values) => shape.Carries value ∧ rest.Carries values
  | .optional _ _ shape rest, (value, values) =>
    (∀ present, value = some present → shape.Carries present ∧ shape.encode present ≠ .null) ∧
      rest.Carries values

end

namespace Members

/-! ## Members of an object -/

/-- Whether an object holds the documents of some members under their names. What is absent may be
left out or null. -/
def HeldIn (present : List (String × Json)) {β : Type} : Members β → β → Prop
  | .done, _ => True
  | .required name shape rest, (value, values) =>
    present.lookup name = some (shape.encode value) ∧ rest.HeldIn present values
  | .optional name _ shape rest, (some value, values) =>
    present.lookup name = some (shape.encode value) ∧ rest.HeldIn present values
  | .optional name _ _ rest, (none, values) =>
    (present.lookup name = none ∨ present.lookup name = some .null) ∧ rest.HeldIn present values

theorem lookup_cons_of_not_mem {name other : String} {names : List String}
    (hother : other ∉ name :: names) (document : Json) (present : List (String × Json)) :
    ((other, document) :: present).lookup name = present.lookup name := by
  have hne : name ≠ other := (List.ne_of_not_mem_cons hother).symm
  rw [List.lookup_cons, beq_eq_false_iff_ne.2 hne]

/-- A further member with another name does not hide any. -/
theorem HeldIn.cons {present : List (String × Json)} {other : String} (document : Json) {β : Type} :
    (members : Members β) → (values : β) → members.HeldIn present values →
      other ∉ members.names → members.HeldIn ((other, document) :: present) values
  | .done, _, _, _ => trivial
  | .required name _ rest, (_, values), hheld, hother => by
    obtain ⟨hfound, hrest⟩ := hheld
    refine ⟨?_, hrest.cons document rest values (List.not_mem_of_not_mem_cons hother)⟩
    rwa [lookup_cons_of_not_mem hother]
  | .optional name _ _ rest, (some _, values), hheld, hother => by
    obtain ⟨hfound, hrest⟩ := hheld
    refine ⟨?_, hrest.cons document rest values (List.not_mem_of_not_mem_cons hother)⟩
    rwa [lookup_cons_of_not_mem hother]
  | .optional name _ _ rest, (none, values), hheld, hother => by
    obtain ⟨hnone, hrest⟩ := hheld
    refine ⟨?_, hrest.cons document rest values (List.not_mem_of_not_mem_cons hother)⟩
    rwa [lookup_cons_of_not_mem hother]

/-- What stands for some members has their names, and no others. -/
theorem keys_encode_subset {β : Type} :
    (members : Members β) → (values : β) → (members.encode values).map Prod.fst ⊆ members.names
  | .done, _ => List.nil_subset _
  | .required _ _ rest, (_, values) => List.cons_subset_cons _ (keys_encode_subset rest values)
  | .optional _ _ _ rest, (some _, values) =>
    List.cons_subset_cons _ (keys_encode_subset rest values)
  | .optional _ .omitted _ rest, (none, values) =>
    List.subset_cons_of_subset _ (keys_encode_subset rest values)
  | .optional _ .null _ rest, (none, values) =>
    List.cons_subset_cons _ (keys_encode_subset rest values)

theorem lookup_encode_eq_none {β : Type} {members : Members β} {name : String}
    (hname : name ∉ members.names) (values : β) : (members.encode values).lookup name = none := by
  rw [List.lookup_eq_none_iff]
  intro entry hmem
  have hkey : entry.1 ∈ members.names :=
    keys_encode_subset members values (List.mem_map_of_mem hmem)
  rw [bne_iff_ne]
  rintro rfl
  exact hname hkey

/-- What stands for some members holds them, as no two have one name. -/
theorem heldIn_encode {β : Type} :
    (members : Members β) → members.names.Nodup → (values : β) →
      members.HeldIn (members.encode values) values
  | .done, _, () => trivial
  | .required name shape rest, hnodup, (value, values) => by
    obtain ⟨hname, hrest⟩ := List.nodup_cons.1 hnodup
    exact ⟨List.lookup_cons_self, (rest.heldIn_encode hrest values).cons _ rest values hname⟩
  | .optional name _ shape rest, hnodup, (some value, values) => by
    obtain ⟨hname, hrest⟩ := List.nodup_cons.1 hnodup
    exact ⟨List.lookup_cons_self, (rest.heldIn_encode hrest values).cons _ rest values hname⟩
  | .optional name .omitted shape rest, hnodup, (none, values) => by
    obtain ⟨hname, hrest⟩ := List.nodup_cons.1 hnodup
    exact ⟨.inl (lookup_encode_eq_none hname values), rest.heldIn_encode hrest values⟩
  | .optional name .null shape rest, hnodup, (none, values) => by
    obtain ⟨hname, hrest⟩ := List.nodup_cons.1 hnodup
    exact ⟨.inr List.lookup_cons_self, (rest.heldIn_encode hrest values).cons _ rest values hname⟩

end Members

/-! ## Decoding what was encoded -/

theorem decodeItems_map {α : Type} {decode : Path → Json → Except Mismatch α} {encode : α → Json}
    {values : List α} (hitems : ∀ value ∈ values, ∀ path, decode path (encode value) = .ok value)
    (path : Path) (index : Nat) :
    decodeItems decode path index (values.map encode) = .ok values := by
  induction values generalizing index with
  | nil => rfl
  | cons value rest ih =>
    obtain ⟨hvalue, hrest⟩ := List.forall_mem_cons.1 hitems
    rw [List.map_cons, decodeItems, hvalue, ih hrest]
    rfl

theorem leastUndeclared?_encode {β : Type} (members : Members β) (values : β) :
    leastUndeclared? members.names (members.encode values) = none := by
  have hdeclared : (((members.encode values).map Prod.fst).filter fun key =>
      !members.names.contains key) = [] := by
    rw [List.filter_eq_nil_iff]
    intro key hkey
    have hname := Members.keys_encode_subset members values hkey
    simpa using hname
  rw [leastUndeclared?, hdeclared]
  rfl

mutual

/-- A value that a shape carries is decoded from the document that stands for it. -/
theorem Shape.decode_encode {α : Type} :
    (shape : Shape α) → (value : α) → shape.Carries value → (path : Path) →
      shape.decode path (shape.encode value) = .ok value
  | .leaf kind, value, hcarries, path => by
    rw [Shape.Carries] at hcarries
    rw [Shape.encode, Shape.decode, hcarries]
  | .list item, values, hcarries, path => by
    rw [Shape.Carries] at hcarries
    rw [Shape.encode, Shape.decode]
    exact decodeItems_map
      (fun value hmem => item.decode_encode value (hcarries value hmem)) path 0
  | .record members make parts, value, hcarries, path => by
    rw [Shape.Carries] at hcarries
    obtain ⟨hnodup, hparts, hmake⟩ := hcarries
    have hheld := members.heldIn_encode hnodup (parts value)
    have hdecode := members.decode_of_heldIn (parts value) hparts path _ hheld
    rw [Shape.encode, Shape.decode, hdecode]
    show (match leastUndeclared? members.names (members.encode (parts value)) with
      | some key => Except.error (Mismatch.undeclared (path.member key) members.names)
      | none => Except.ok (make (parts value))) = .ok value
    rw [leastUndeclared?_encode, hmake]

theorem Members.decode_of_heldIn {β : Type} :
    (members : Members β) → (values : β) → members.Carries values → (path : Path) →
      (present : List (String × Json)) → members.HeldIn present values →
      members.decode path present = .ok values
  | .done, (), _, _, _, _ => rfl
  | .required name shape rest, (value, values), hcarries, path, present, hheld => by
    obtain ⟨hvalue, hvalues⟩ := hcarries
    obtain ⟨hfound, hrest⟩ := hheld
    rw [Members.decode, hfound]
    dsimp only
    rw [shape.decode_encode value hvalue, rest.decode_of_heldIn values hvalues path present hrest]
    rfl
  | .optional name absence shape rest, (some value, values), hcarries, path, present, hheld => by
    obtain ⟨hvalue, hvalues⟩ := hcarries
    obtain ⟨hgiven, hvisible⟩ := hvalue value rfl
    obtain ⟨hfound, hrest⟩ := hheld
    rw [Members.decode, hfound]
    split
    · rename_i hnone
      cases hnone
    · rename_i hnull
      exact absurd (Option.some.inj hnull) hvisible
    · rename_i document hdocument
      obtain rfl := Option.some.inj hdocument
      rw [shape.decode_encode value hgiven, rest.decode_of_heldIn values hvalues path present hrest]
      rfl
  | .optional name absence shape rest, (none, values), hcarries, path, present, hheld => by
    obtain ⟨-, hvalues⟩ := hcarries
    obtain ⟨hnone, hrest⟩ := hheld
    rcases hnone with hnone | hnull
    · rw [Members.decode, hnone]
      dsimp only
      rw [rest.decode_of_heldIn values hvalues path present hrest]
      rfl
    · rw [Members.decode, hnull]
      dsimp only
      rw [rest.decode_of_heldIn values hvalues path present hrest]
      rfl

end

/-- A value that its contract carries and that keeps the invariants is accepted from the document
that stands for it. -/
theorem Contract.accept_encode {α : Type} {contract : Contract α} {value : α}
    (hcarries : contract.shape.Carries value) (hvalid : contract.validate value = .ok ()) :
    contract.accept (contract.encode value) = .ok value := by
  have hdecode : contract.decode (contract.encode value) = .ok value :=
    contract.shape.decode_encode value hcarries .root
  rw [accept, hdecode]
  show (contract.validate value).bind (fun _ => .ok value) = .ok value
  rw [hvalid]
  rfl

/-! ## Leaves -/

namespace Leaf

theorem read_write_word64 (value : UInt64) : word64.read (word64.write value) = some value := by
  show (if value.toNat < UInt64.size then some value.toNat else none).map UInt64.ofNat = some value
  rw [if_pos value.toNat_lt]
  exact congrArg some UInt64.ofNat_toNat

theorem read_write_word32 (value : UInt32) : word32.read (word32.write value) = some value := by
  show (if value.toNat < UInt32.size then some value.toNat else none).map UInt32.ofNat = some value
  rw [if_pos value.toNat_lt]
  exact congrArg some UInt32.ofNat_toNat

theorem read_write_number {value : Binary64} (hfinite : value.isFinite = true) :
    number.read (number.write value) = some value := by
  show (Json.ofBinary64 value).number?.filter Binary64.isFinite = some value
  rw [Json.ofBinary64, if_pos hfinite, Json.number?, Option.filter_some, if_pos hfinite]

theorem read_write_identifier {kind : IdentifierKind} (identifier : Identifier kind) :
    (Identifier.leaf kind).read ((Identifier.leaf kind).write identifier) = some identifier :=
  Identifier.ofText?_text identifier

end Leaf

end Recollection
