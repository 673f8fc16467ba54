import Mathlib.Algebra.Group.Nat.Defs
import Mathlib.Data.List.Forall2
import Recollection.Identity.Identifier
import Recollection.Proofs.Contract.Check
import Recollection.Proofs.Contract.Naming
import Recollection.Proofs.Text.Blank
/-!
# The documents that have a shape

Which documents stand for a value is said here without decoding them: a leaf by the kind of value it
is, a list item by item, and a record by what its object has under each declared name and by having
no other members. Decoding gives a value exactly from the documents that stand for it, wherever
they are.
-/

set_option autoImplicit false

namespace Recollection

/-! ## Kinds of values -/

/-- A string with the given text. -/
def IsText (value : String) (document : Json) : Prop :=
  document = .string value

/-- A given truth value. -/
def IsFlag (value : Bool) (document : Json) : Prop :=
  document = .bool value

/-- An integer in `0 ≤ n < 2 ^ 64`. -/
def IsWord64 (value : UInt64) (document : Json) : Prop :=
  ∃ n : Nat, n < 2 ^ 64 ∧ document = .integer n ∧ value = .ofNat n

/-- An integer in `0 ≤ n < 2 ^ 32`. -/
def IsWord32 (value : UInt32) (document : Json) : Prop :=
  ∃ n : Nat, n < 2 ^ 32 ∧ document = .integer n ∧ value = .ofNat n

/-- A number: a binary64 number, or an integer, which counts as the nearest one. -/
def IsNumber (value : Binary64) (document : Json) : Prop :=
  document = .double value ∨ ∃ n : Int, document = .integer n ∧ value = .ofInt n

/-- Any document, taken as it is. -/
def IsDocument (value document : Json) : Prop :=
  document = value

/-- The string that names a value. -/
def IsNamed {α : Type} (name : α → String) (value : α) (document : Json) : Prop :=
  document = .string (name value)

/-- A string that is not all white space and that trimming makes the identifier. -/
def IsIdentifier {kind : IdentifierKind} (identifier : Identifier kind) (document : Json) : Prop :=
  ∃ raw, document = .string raw ∧ Text.isBlankText raw = false ∧ identifier.text = Text.trim raw

/-- A list of documents of one kind, item by item. -/
def IsList {α : Type} (kind : α → Json → Prop) (values : List α) (document : Json) : Prop :=
  ∃ items, document = .array items ∧ List.Forall₂ kind values items

theorem isList_congr {α : Type} {kind other : α → Json → Prop} {values : List α}
    (hsame : ∀ value ∈ values, kind value = other value) :
    IsList kind values = IsList other values := by
  have hitems (items : List Json) :
      List.Forall₂ kind values items ↔ List.Forall₂ other values items := by
    induction values generalizing items with
    | nil => rw [List.forall₂_nil_left_iff, List.forall₂_nil_left_iff]
    | cons value rest ih =>
      obtain ⟨hvalue, hrest⟩ := List.forall_mem_cons.1 hsame
      simp only [List.forall₂_cons_left_iff, hvalue, ih hrest]
  funext document
  simp only [IsList, hitems]

/-- What an object must have under a name. -/
structure MemberRule where
  /-- The name. -/
  name : String
  /-- Which documents may be there, `none` standing for no member of that name. -/
  Allows : Option Json → Prop

namespace MemberRule

/-- A member that must be present and of some kind. -/
def required (name : String) (kind : Json → Prop) : MemberRule where
  name := name
  Allows found := ∃ document, found = some document ∧ kind document

/-- A member that stands for no value if it is absent or null, and else must be of some kind. -/
def optional {α : Type} (name : String) (kind : α → Json → Prop) (value : Option α) :
    MemberRule where
  name := name
  Allows found :=
    match value with
    | none => found = none ∨ found = some .null
    | some present => ∃ document, found = some document ∧ document ≠ .null ∧ kind present document

end MemberRule

/-- Whether the members of an object follow some rules. -/
def Follows (rules : List MemberRule) (present : List (String × Json)) : Prop :=
  ∀ rule ∈ rules, rule.Allows (present.lookup rule.name)

/-- An object that has what the rules ask for and no member that they do not name. -/
def IsRecord (rules : List MemberRule) (document : Json) : Prop :=
  ∃ present, document = .object present ∧
    (∀ key ∈ present.map Prod.fst, key ∈ rules.map MemberRule.name) ∧ Follows rules present

/-! ## Shapes -/

mutual

/-- Whether a document stands for a value. -/
def Shape.StandsFor {α : Type} : Shape α → α → Json → Prop
  | .leaf kind, value => fun document => kind.read document = some value
  | .list item, values => IsList item.StandsFor values
  | .record members make _, value => fun document =>
    ∃ given, make given = value ∧ IsRecord (members.rules given) document

/-- The rules for the members of an object that stands for some values. -/
def Members.rules {β : Type} : Members β → β → List MemberRule
  | .done, _ => []
  | .required name shape rest, (value, values) =>
    .required name (shape.StandsFor value) :: rest.rules values
  | .optional name _ shape rest, (value, values) =>
    .optional name shape.StandsFor value :: rest.rules values

end

theorem Members.map_name_rules {β : Type} :
    (members : Members β) → (values : β) →
      (members.rules values).map MemberRule.name = members.names
  | .done, _ => rfl
  | .required name _ rest, (_, values) => congrArg (name :: ·) (rest.map_name_rules values)
  | .optional name _ _ rest, (_, values) => congrArg (name :: ·) (rest.map_name_rules values)

/-! ## Decoding -/

theorem decodeItems_eq_ok_iff {α : Type} {decode : Path → Json → Except Mismatch α}
    {kind : α → Json → Prop}
    (hitem : ∀ path document value, decode path document = .ok value ↔ kind value document)
    (path : Path) (index : Nat) (items : List Json) (values : List α) :
    decodeItems decode path index items = .ok values ↔ List.Forall₂ kind values items := by
  induction items generalizing index values with
  | nil => simp [decodeItems, eq_comm]
  | cons item rest ih =>
    rw [decodeItems, bind_eq_ok_iff, List.forall₂_cons_right_iff]
    simp only [bind_eq_ok_iff, hitem, ih, pure, Except.pure, Except.ok.injEq]
    constructor
    · rintro ⟨value, hvalue, values, hvalues, rfl⟩
      exact ⟨value, values, hvalue, hvalues, rfl⟩
    · rintro ⟨value, values, hvalue, hvalues, rfl⟩
      exact ⟨value, hvalue, values, hvalues, rfl⟩

theorem leastText?_eq_none_iff (texts : List String) : leastText? texts = none ↔ texts = [] := by
  cases texts with
  | nil => simp [leastText?]
  | cons text rest =>
    rw [leastText?]
    cases leastText? rest <;> simp

/-- No key is undeclared exactly when all keys are declared. -/
theorem leastUndeclared?_eq_none_iff (declared : List String) (present : List (String × Json)) :
    leastUndeclared? declared present = none ↔ ∀ key ∈ present.map Prod.fst, key ∈ declared := by
  rw [leastUndeclared?, leastText?_eq_none_iff, List.filter_eq_nil_iff]
  simp

mutual

/-- A value is decoded from the documents that stand for it, and from no others. -/
theorem Shape.decode_eq_ok_iff {α : Type} :
    (shape : Shape α) → (path : Path) → (document : Json) → (value : α) →
      (shape.decode path document = .ok value ↔ shape.StandsFor value document)
  | .leaf kind, path, document, value => by
    rw [Shape.decode, Shape.StandsFor]
    cases hread : kind.read document <;> simp [hread]
  | .list item, path, document, values => by
    rw [Shape.StandsFor, IsList]
    cases document with
    | array items =>
      rw [Shape.decode, decodeItems_eq_ok_iff item.decode_eq_ok_iff]
      simp
    | _ => simp [Shape.decode]
  | .record members make _, path, document, value => by
    rw [Shape.StandsFor]
    cases document with
    | object present =>
      simp only [Shape.decode, bind_eq_ok_iff, members.decode_eq_ok_iff, IsRecord,
        Json.object.injEq, members.map_name_rules, exists_eq_left', ← leastUndeclared?_eq_none_iff]
      cases leastUndeclared? members.names present with
      | none => simp [pure, Except.pure, and_comm]
      | some key => simp
    | _ => simp [Shape.decode, IsRecord]

/-- The declared members of an object are decoded when they follow the rules, whatever else the
object has. -/
theorem Members.decode_eq_ok_iff {β : Type} :
    (members : Members β) → (path : Path) → (present : List (String × Json)) → (values : β) →
      (members.decode path present = .ok values ↔ Follows (members.rules values) present)
  | .done, path, present, () => by simp [Members.decode, Members.rules, Follows]
  | .required name shape rest, path, present, (value, values) => by
    rw [Members.decode, Members.rules, Follows, List.forall_mem_cons, ← Follows,
      ← rest.decode_eq_ok_iff path, MemberRule.required]
    cases present.lookup name with
    | none => simp
    | some document =>
      simp [bind_eq_ok_iff, shape.decode_eq_ok_iff, pure, Except.pure]
  | .optional name _ shape rest, path, present, (value, values) => by
    rw [Members.decode, Members.rules, Follows, List.forall_mem_cons, ← Follows,
      ← rest.decode_eq_ok_iff path, MemberRule.optional]
    split
    · rename_i hnone
      cases value <;> simp [hnone, bind_eq_ok_iff, pure, Except.pure]
    · rename_i hnull
      cases value <;> simp [hnull, bind_eq_ok_iff, pure, Except.pure]
    · rename_i document hvisible hfound
      have hne : document ≠ .null := by
        rintro rfl
        exact hvisible rfl
      cases value <;> simp [hfound, hne, bind_eq_ok_iff, shape.decode_eq_ok_iff, pure, Except.pure]

end

/-! ## Leaves -/

theorem natBelow?_eq_some_iff (bound : Nat) (document : Json) (n : Nat) :
    document.natBelow? bound = some n ↔ n < bound ∧ document = .integer n := by
  unfold Json.natBelow?
  split
  · rename_i m
    rw [Option.ite_none_right_eq_some, Option.some.injEq, Json.integer.injEq]
    constructor
    · rintro ⟨hbelow, rfl⟩
      exact ⟨hbelow, rfl⟩
    · rintro ⟨hbelow, hsame⟩
      obtain rfl := Int.ofNat.inj hsame
      exact ⟨hbelow, rfl⟩
  · rename_i hother
    simp only [reduceCtorEq, false_iff, not_and]
    rintro - rfl
    exact hother n rfl

theorem Identifier.ofText?_eq_some_iff {kind : IdentifierKind} (raw : String)
    (identifier : Identifier kind) :
    ofText? kind raw = some identifier ↔
      Text.isBlankText raw = false ∧ identifier.text = Text.trim raw := by
  unfold ofText?
  split
  · rename_i hblank
    rw [Text.trim_eq_empty_iff] at hblank
    simp [hblank]
  · rename_i hvisible
    rw [Text.trim_eq_empty_iff, Bool.not_eq_true] at hvisible
    simp only [Option.some.injEq, hvisible, true_and]
    constructor
    · rintro rfl
      rfl
    · exact fun hsame => ext_text hsame.symm

namespace Shape

@[simp]
theorem standsFor_text : (leaf Leaf.text).StandsFor = IsText := by
  funext value document
  cases document <;> simp [StandsFor, Leaf.text, Json.text?, IsText]

@[simp]
theorem standsFor_flag : (leaf Leaf.flag).StandsFor = IsFlag := by
  funext value document
  cases document <;> simp [StandsFor, Leaf.flag, Json.bool?, IsFlag]

@[simp]
theorem standsFor_word64 : (leaf Leaf.word64).StandsFor = IsWord64 := by
  funext value document
  show ((document.natBelow? (2 ^ 64)).map UInt64.ofNat = some value) = IsWord64 value document
  simp only [Option.map_eq_some_iff, natBelow?_eq_some_iff, IsWord64, and_assoc, @eq_comm _ value]

@[simp]
theorem standsFor_word32 : (leaf Leaf.word32).StandsFor = IsWord32 := by
  funext value document
  show ((document.natBelow? (2 ^ 32)).map UInt32.ofNat = some value) = IsWord32 value document
  simp only [Option.map_eq_some_iff, natBelow?_eq_some_iff, IsWord32, and_assoc, @eq_comm _ value]

/-- A number is read if it is finite; those that a contract accepts are. -/
theorem standsFor_number {value : Binary64} (hfinite : value.isFinite = true) :
    (leaf Leaf.number).StandsFor value = IsNumber value := by
  funext document
  simp only [StandsFor, Leaf.number, Option.filter_eq_some_iff, hfinite, and_true, IsNumber]
  cases document <;> simp [Json.number?, eq_comm]

@[simp]
theorem standsFor_document : (leaf Leaf.document).StandsFor = IsDocument := by
  funext value document
  simp [StandsFor, Leaf.document, IsDocument]

theorem standsFor_named {α : Type} {name : α → String} {values : List α}
    (hnaming : IsNaming name values) :
    (leaf (Leaf.named name values)).StandsFor = IsNamed name := by
  funext value document
  simp only [StandsFor, Leaf.named, IsNamed, Option.bind_eq_some_iff,
    hnaming.find?_eq_some_iff]
  cases document <;> simp [Json.text?]

@[simp]
theorem standsFor_identifier {kind : IdentifierKind} :
    (leaf (Identifier.leaf kind)).StandsFor = IsIdentifier := by
  funext identifier document
  simp only [StandsFor, Identifier.leaf, IsIdentifier, Option.bind_eq_some_iff,
    Identifier.ofText?_eq_some_iff]
  cases document <;> simp [Json.text?]

/-! ## Lists and records -/

@[simp]
theorem standsFor_list {α : Type} (item : Shape α) :
    (list item).StandsFor = IsList item.StandsFor := by
  funext values
  rw [StandsFor]

/-- A record that is put together from what it is taken apart into. -/
theorem standsFor_record {α β : Type} {members : Members β} {make : β → α} {parts : α → β}
    (hparts : Function.LeftInverse parts make) (hmake : Function.LeftInverse make parts)
    (value : α) :
    (record members make parts).StandsFor value = IsRecord (members.rules (parts value)) := by
  funext document
  rw [StandsFor, eq_iff_iff]
  constructor
  · rintro ⟨given, rfl, hrecord⟩
    rwa [hparts]
  · exact fun hrecord => ⟨parts value, hmake value, hrecord⟩

end Shape

/-! ## Contracts -/

/-- Whether a contract accepts, for each value, the documents that are written in some way, if the
value keeps some invariants, and no others. -/
def Contract.Recognizes {α : Type} (contract : Contract α) (written : α → Json → Prop)
    (keeps : α → Prop) : Prop :=
  ∀ document value, contract.accept document = .ok value ↔ written value document ∧ keeps value

/-- The documents of a contract are told by the members of its record, which need only be written
for the values that keep the invariants. -/
theorem Contract.recognizes {α β : Type} {contract : Contract α} {members : Members β}
    {make : β → α} {parts : α → β} {written : α → Json → Prop} {keeps : α → Prop}
    (hshape : contract.shape = .record members make parts)
    (hparts : Function.LeftInverse parts make) (hmake : Function.LeftInverse make parts)
    (hkeeps : ∀ value, contract.validate value = .ok () ↔ keeps value)
    (hwritten : ∀ value, keeps value → IsRecord (members.rules (parts value)) = written value) :
    contract.Recognizes written keeps := by
  intro document value
  rw [accept_eq_ok_iff, decode, Shape.decode_eq_ok_iff, hkeeps, hshape,
    Shape.standsFor_record hparts hmake]
  apply and_congr_left
  intro hvalid
  rw [hwritten value hvalid]

end Recollection
