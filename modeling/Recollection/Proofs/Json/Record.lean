import Recollection.Json.Record
import Recollection.Proofs.Contract.Language
import Recollection.Proofs.Json.Order
/-!
# Which documents are loaded

Loading a record is told in the words in which shapes are told: by what a document has under each
name. The members of an object with unique keys are looked up as they are, and a list is the object
that has its values under the declared names, in order.
-/

set_option autoImplicit false

namespace Recollection

/-! ## Values -/

namespace Load

variable {α : Type} {value : α}

theorem ofOption_eq_ok_iff {found : Option α} :
    ofOption found = .ok value ↔ found = some value := by
  cases found <;> simp [ofOption]

theorem text_eq_ok_iff (text : String) (document : Json) :
    Load.text document = .ok text ↔ IsText text document := by
  rw [Load.text, ofOption_eq_ok_iff]
  cases document <;> simp [Json.text?, IsText]

/-- A value is loaded by its name from a string, or from an object that has nothing but that name,
with nothing under it. -/
theorem named_eq_ok_iff {name : α → String} {values : List α} (hnaming : IsNaming name values)
    (document : Json) :
    Load.named name values document = .ok value ↔
      document = .string (name value) ∨ document = .object [(name value, .null)] := by
  have hfind (text : String) :
      ofOption (values.find? fun value => name value == text) = .ok value ↔ name value = text := by
    rw [ofOption_eq_ok_iff, hnaming.find?_eq_some_iff]
  rw [named]
  fun_cases namedIn .json name values document with
  | case1 text =>
    rw [hfind]
    simp [eq_comm]
  | case2 key payload hnothing =>
    rw [hfind]
    cases payload <;> simp_all [DocumentLanguage.isNothing, eq_comm]
  | case3 key payload hsomething =>
    simp only [reduceCtorEq, false_iff]
    rintro (hstring | hobject)
    · cases hstring
    · have hpayload : payload = .null := by simp_all
      rw [hpayload] at hsomething
      exact hsomething rfl
  | case4 document hstring hobject =>
    simp only [reduceCtorEq, false_iff]
    rintro (rfl | rfl)
    · exact hstring _ rfl
    · exact hobject _ _ rfl

end Load

/-! ## Members -/

namespace Record

variable {α : Type} (record : Record) (name : String) (load : Load α)

theorem required_eq_ok_iff (value : α) :
    record.required name load = .ok value ↔
      (MemberRule.required name fun document => load document = .ok value).Allows
        (record.members.lookup name) := by
  rw [required, MemberRule.required]
  cases record.members.lookup name <;> simp

theorem optional_eq_ok_iff (value : Option α) :
    record.optional name load = .ok value ↔
      (MemberRule.optional name (fun present document => load document = .ok present)
        value).Allows (record.members.lookup name) := by
  rw [optional, withDefault, MemberRule.optional]
  cases record.members.lookup name with
  | none => cases value <;> simp
  | some document =>
    dsimp only
    fun_cases Load.orNull load document with
    | case1 => cases value <;> simp
    | case2 document hvisible =>
      have hne : document ≠ .null := hvisible
      cases hload : load document <;> cases value <;> simp [hload, hne, Except.map]

end Record

/-! ## Documents -/

namespace Json

/-- A list that has at most one value for each of some names, as the object with these values under
the first names; any other document as it is. -/
def asObject (names : List String) : Json → Json
  | .array items =>
    if items.length ≤ names.length then .object (names.zip items) else .array items
  | document => document

@[simp]
theorem asObject_object (names : List String) (members : List (String × Json)) :
    (object members).asObject names = .object members :=
  rfl

/-- Changes what an object has under a key. -/
def mapMember (key : String) (change : Json → Json) : Json → Json
  | .object members =>
    .object (members.map fun (name, value) => (name, if name = key then change value else value))
  | document => document

/-- The keys of an object are unique. -/
def HasUniqueKeys : Json → Prop
  | .object members => (members.map Prod.fst).Nodup
  | _ => True

theorem WellFormed.hasUniqueKeys {document : Json} (hwell : document.WellFormed) :
    document.HasUniqueKeys := by
  cases document with
  | object members =>
    rw [WellFormed] at hwell
    exact hwell.1
  | _ => trivial

/-- The values of a list stand under the first of the names. -/
theorem keys_zip_sublist {names : List String} {items : List Json} :
    ((names.zip items).map Prod.fst).Sublist names := by
  rw [List.zip_eq_zip_take_min, List.map_fst_zip]
  · exact List.take_sublist _ _
  · rw [List.length_take, List.length_take]
    omega

theorem lookup_mapMember (key name : String) (change : Json → Json)
    (members : List (String × Json)) :
    (members.map fun (other, value) => (other, if other = key then change value else value)).lookup
      name = (members.lookup name).map (if name = key then change else id) := by
  induction members with
  | nil => rfl
  | cons member rest ih =>
    obtain ⟨other, value⟩ := member
    rw [List.map_cons, List.lookup_cons, List.lookup_cons, ih]
    by_cases hsame : name = other
    · subst hsame
      by_cases hkey : name = key <;> simp [hkey]
    · rw [beq_eq_false_iff_ne.2 hsame]

/-- Changing the member of one rule is changing what the rule asks for. -/
theorem isRecord_mapMember_iff {key : String} {kind : Json → Prop} {change : Json → Json}
    {rest : List MemberRule} (hother : ∀ rule ∈ rest, rule.name ≠ key) (document : Json) :
    IsRecord (.required key kind :: rest) (document.mapMember key change) ↔
      IsRecord (.required key (fun value => kind (change value)) :: rest) document := by
  cases document with
  | object members =>
    have hrest : Follows rest (members.map fun (name, value) =>
        (name, if name = key then change value else value)) ↔ Follows rest members := by
      apply forall₂_congr
      intro rule hrule
      rw [lookup_mapMember, if_neg (hother rule hrule), Option.map_id, id]
    simp only [mapMember, IsRecord, object.injEq, exists_eq_left', List.map_map,
      Function.comp_def, List.map_cons, MemberRule.required]
    rw [Follows, Follows, List.forall_mem_cons, List.forall_mem_cons, ← Follows, ← Follows, hrest,
      lookup_mapMember, if_pos rfl]
    simp only [Option.map_eq_some_iff, exists_exists_and_eq_and]
  | _ => simp [mapMember, IsRecord]

/-- Among members with unique keys, each is found under its key. -/
theorem lookup_eq_some_of_mem {members : List (String × Json)} {key : String} {value : Json}
    (hunique : (members.map Prod.fst).Nodup) (hmem : (key, value) ∈ members) :
    members.lookup key = some value := by
  induction members with
  | nil => cases hmem
  | cons member rest ih =>
    obtain ⟨other, present⟩ := member
    rw [List.map_cons, List.nodup_cons] at hunique
    rw [List.lookup_cons]
    obtain hhead | hrest := List.mem_cons.1 hmem
    · cases hhead
      rw [beq_self_eq_true]
    · have hne : key ≠ other := by
        rintro rfl
        exact hunique.1 (List.mem_map.2 ⟨_, hrest, rfl⟩)
      rw [beq_eq_false_iff_ne.2 hne]
      exact ih hunique.2 hrest

/-- Changing a member does nothing if it is as it is to become. -/
theorem mapMember_eq_self {key : String} {change : Json → Json} {document : Json}
    (hunique : document.HasUniqueKeys)
    (hsame : ∀ value, document.member? key = some value → change value = value) :
    document.mapMember key change = document := by
  cases document with
  | object members =>
    rw [mapMember, object.injEq]
    conv_rhs => rw [← List.map_id members]
    apply List.map_congr_left
    rintro ⟨name, value⟩ hmem
    show (name, if name = key then change value else value) = (name, value)
    by_cases hname : name = key
    · have hfound : members.lookup key = some value :=
        lookup_eq_some_of_mem hunique (hname ▸ hmem)
      rw [if_pos hname, hsame value hfound]
    · rw [if_neg hname]
  | _ => rfl

end Json

namespace Record

/-- A name that is the key of one member at most is not repeated. -/
theorem repeatsName_eq_false {names : List String} {members : List (String × Json)}
    (hunique : (members.map Prod.fst).Nodup) : repeatsName names members = false := by
  rw [repeatsName, List.any_eq_false]
  intro name _
  have honce := List.nodup_iff_count_le_one.1 hunique name
  rw [List.count, List.countP_map, List.countP_eq_length_filter] at honce
  rw [decide_eq_true_eq, Nat.not_lt]
  exact honce

/-- An object whose keys are unique is loaded as it is, if every key is declared. -/
theorem ofJsonClosed_object_eq_ok_iff {names : List String} {members : List (String × Json)}
    (hunique : (members.map Prod.fst).Nodup) (record : Record) :
    ofJsonClosed names (.object members) = .ok record ↔
      members = record.members ∧ ∀ key ∈ members.map Prod.fst, key ∈ names := by
  have hdeclared : (members.all fun entry => names.contains entry.1) = true ↔
      ∀ key ∈ members.map Prod.fst, key ∈ names := by
    simp
  rw [← hdeclared]
  -- The reader matches on the document once more behind the check of the keys.
  show (if (members.all fun entry => names.contains entry.1) = true then
    ofJson names (.object members) else .error .shape) = .ok record ↔ _
  split
  · rename_i hall
    rw [ofJson, repeatsName_eq_false hunique, if_neg Bool.false_ne_true, Except.ok.injEq,
      and_iff_left hall]
    constructor
    · rintro rfl
      rfl
    · rintro rfl
      rfl
  · rename_i hother
    simp only [reduceCtorEq, hother, and_false]

/-- A document is loaded as the object that it is, or that its values make, if the keys of the
object are declared. -/
theorem ofJsonClosed_eq_ok_iff {names : List String} {document : Json}
    (hunique : document.HasUniqueKeys) (record : Record) :
    ofJsonClosed names document = .ok record ↔
      document.asObject names = .object record.members ∧
        ∀ key ∈ record.members.map Prod.fst, key ∈ names := by
  cases document with
  | object members =>
    rw [ofJsonClosed_object_eq_ok_iff hunique, Json.asObject_object, Json.object.injEq]
    apply and_congr_right
    rintro rfl
    rfl
  | array items =>
    show ofJson names (.array items) = .ok record ↔ _
    rw [ofJson, Json.asObject]
    by_cases hfew : items.length ≤ names.length
    · rw [if_neg (Nat.not_lt.2 hfew), if_pos hfew, Except.ok.injEq, Json.object.injEq]
      constructor
      · rintro rfl
        exact ⟨rfl, Json.keys_zip_sublist.subset⟩
      · rintro ⟨hmembers, -⟩
        rw [hmembers]
    · rw [if_pos (Nat.not_le.1 hfew), if_neg hfew]
      simp
  | _ => simp [ofJsonClosed, ofJson, Json.asObject]

end Record

end Recollection
