import Recollection.Identity.Scope
import Recollection.Proofs.Json.Record
/-!
# The readers of scopes

Decoding a scope and loading it agree on every document but two kinds, which loading takes for
shorthands: a list, which stands for the object that has its values as level and anchors, and an
object whose level is itself an object, which stands for its only key. Decoding refuses both.
Loading a document is decoding what is left when the shorthands are written out.
-/

set_option autoImplicit false

namespace Recollection

/-! ## Levels -/

namespace ScopeLevel

@[simp]
theorem standsFor_leaf : (Shape.leaf leaf).StandsFor = IsNamed name :=
  Shape.standsFor_named isNaming

/-- An object that has nothing but one key, with nothing under it, as that key; any other document
as it is. -/
def writtenOut : Json → Json
  | .object [(key, .null)] => .string key
  | document => document

theorem writtenOut_eq_self {document : Json} (hother : ∀ members, document ≠ .object members) :
    writtenOut document = document := by
  fun_cases writtenOut document with
  | case1 key => exact absurd rfl (hother _)
  | case2 => rfl

/-- A level is loaded from its name, or from an object that stands for its name. -/
theorem load_eq_ok_iff (level : ScopeLevel) (document : Json) :
    load document = .ok level ↔ IsNamed name level (writtenOut document) := by
  rw [load, Load.named_eq_ok_iff isNaming, IsNamed]
  fun_cases writtenOut document with
  | case1 key => simp
  | case2 document hother =>
    rw [or_iff_left]
    rintro rfl
    exact hother _ rfl

end ScopeLevel

/-! ## Forms -/

namespace ScopeForm

/-- The documents that stand for a form. -/
def Written (form : ScopeForm) : Json → Prop :=
  IsRecord [
    .required "level" (IsNamed ScopeLevel.name form.level),
    .optional "projectId" IsText form.projectId,
    .optional "roleId" IsText form.roleId,
    .optional "userId" IsText form.userId]

theorem standsFor_shape (form : ScopeForm) : shape.StandsFor form = form.Written := by
  refine (Shape.standsFor_record (fun _ => rfl) (fun _ => rfl) form).trans ?_
  simp [Members.rules, Written]

theorem decode_shape_eq_ok_iff (path : Path) (document : Json) (form : ScopeForm) :
    shape.decode path document = .ok form ↔ form.Written document := by
  rw [Shape.decode_eq_ok_iff, standsFor_shape]

/-- A document in which loading may take a part for a shorthand: a list, or an object whose level is
an object. -/
def IsShorthand (document : Json) : Prop :=
  (∃ items, document = .array items) ∨ ∃ members, document.member? "level" = some (.object members)

/-- A document with its shorthands written out: the values of a list become members, and a level
that is an object becomes a name. -/
def writtenOut (document : Json) : Json :=
  (document.asObject ["level", "projectId", "roleId", "userId"]).mapMember "level"
    ScopeLevel.writtenOut

/-- A form is loaded from a document when the document stands for it after writing out the
shorthands. -/
theorem load_eq_ok_iff {document : Json} (hunique : document.HasUniqueKeys) (form : ScopeForm) :
    load document = .ok form ↔ form.Written (writtenOut document) := by
  rw [Written, writtenOut, Json.isRecord_mapMember_iff (by simp [MemberRule.optional]), load]
  simp only [bind_eq_ok_iff, Record.ofJsonClosed_eq_ok_iff hunique, Record.required_eq_ok_iff,
    Record.optional_eq_ok_iff, ScopeLevel.load_eq_ok_iff, Load.text_eq_ok_iff, pure, Except.pure,
    Except.ok.injEq, IsRecord, Follows, List.forall_mem_cons, List.not_mem_nil, false_imp_iff,
    implies_true, and_true]
  -- Both sides now speak of the same members; only the order of the parts differs.
  constructor
  · rintro ⟨record, ⟨hobject, hkeys⟩, level, hlevel, projectId, hproject, roleId, hrole, userId,
      huser, rfl⟩
    exact ⟨record.members, hobject, hkeys, hlevel, hproject, hrole, huser⟩
  · rintro ⟨members, hobject, hkeys, hlevel, hproject, hrole, huser⟩
    exact ⟨⟨members⟩, ⟨hobject, hkeys⟩, _, hlevel, _, hproject, _, hrole, _, huser, rfl⟩

theorem writtenOut_eq_self {document : Json} (hunique : document.HasUniqueKeys)
    (hplain : ¬IsShorthand document) : writtenOut document = document := by
  rw [IsShorthand, not_or, not_exists, not_exists] at hplain
  obtain ⟨hlist, hlevel⟩ := hplain
  have hobject : document.asObject ["level", "projectId", "roleId", "userId"] = document := by
    cases document with
    | array items => exact absurd rfl (hlist items)
    | _ => rfl
  rw [writtenOut, hobject]
  apply Json.mapMember_eq_self hunique
  intro value hvalue
  apply ScopeLevel.writtenOut_eq_self
  rintro members rfl
  exact hlevel members hvalue

theorem not_written_of_isShorthand {document : Json} (hshorthand : IsShorthand document)
    (form : ScopeForm) : ¬form.Written document := by
  rintro ⟨present, rfl, -, hfollows⟩
  obtain ⟨items, hlist⟩ | ⟨members, hlevel⟩ := hshorthand
  · cases hlist
  · obtain ⟨level, hfound, hnamed⟩ := hfollows _ (List.mem_cons_self ..)
    have hsame : level = .object members := Option.some.inj (hfound.symm.trans hlevel)
    rw [hsame] at hnamed
    cases hnamed

end ScopeForm

/-! ## Scopes -/

namespace Scope

/-- A scope is decoded from the documents that stand for its forms. -/
theorem decode_eq_ok_iff (path : Path) (document : Json) (scope : Scope) :
    decode path document = .ok scope ↔
      ∃ form : ScopeForm, form.Written document ∧ form.toScope = .ok scope := by
  simp only [decode, bind_eq_ok_iff, ScopeForm.decode_shape_eq_ok_iff, mapError_eq_ok_iff]

/-- A scope is loaded from the documents that stand for its forms after writing out the
shorthands. -/
theorem load_eq_ok_iff {document : Json} (hunique : document.HasUniqueKeys) (scope : Scope) :
    load document = .ok scope ↔
      ∃ form : ScopeForm, form.Written (ScopeForm.writtenOut document) ∧
        form.toScope = .ok scope := by
  simp only [load, bind_eq_ok_iff, ScopeForm.load_eq_ok_iff hunique, mapError_eq_ok_iff]

/-- Decoding gives a scope exactly when loading gives the same scope and the document is no
shorthand; loading gives what decoding gives after writing out the shorthands. -/
theorem readers_agree {document : Json} (hwell : document.WellFormed) (path : Path)
    (scope : Scope) :
    (decode path document = .ok scope ↔
      load document = .ok scope ∧ ¬ScopeForm.IsShorthand document) ∧
    (load document = .ok scope ↔
      decode path (ScopeForm.writtenOut document) = .ok scope) := by
  have hunique := hwell.hasUniqueKeys
  rw [load_eq_ok_iff hunique, decode_eq_ok_iff, decode_eq_ok_iff]
  refine ⟨?_, Iff.rfl⟩
  -- No form stands for a shorthand, and writing out leaves everything else as it is.
  by_cases hshorthand : ScopeForm.IsShorthand document
  · simp [ScopeForm.not_written_of_isShorthand hshorthand, hshorthand]
  · rw [ScopeForm.writtenOut_eq_self hunique hshorthand]
    exact (and_iff_left hshorthand).symm

/-- The role that reviews. -/
def reviewer : RoleId :=
  ⟨"reviewer", by decide +kernel, by decide⟩

/-- A list that loading takes for the job role of reviewers. -/
def reviewerList : Json :=
  .array [.object [("job_role", .null)], .null, .string " reviewer "]

/-- The list is loaded, its shorthands are written out and decoded as the same scope, and the list
itself is not decoded. -/
theorem reviewerList_loaded :
    reviewerList.WellFormed ∧ load reviewerList = .ok (.jobRole reviewer) ∧
      ScopeForm.writtenOut reviewerList =
        .object [("level", .string "job_role"), ("projectId", .null),
          ("roleId", .string " reviewer ")] ∧
      decode .root reviewerList ≠ .ok (.jobRole reviewer) := by
  have hwell : reviewerList.WellFormed := by
    simp [reviewerList, Json.WellFormed, Json.WellFormedItems, Json.WellFormedMembers]
  have hagree := readers_agree hwell .root (.jobRole reviewer)
  refine ⟨hwell, hagree.2.2 (by decide +kernel), by decide +kernel, ?_⟩
  intro hdecoded
  exact (hagree.1.1 hdecoded).2 (.inl ⟨_, rfl⟩)

/-- The level alone in a list is loaded and not decoded. -/
theorem levelList_not_decoded :
    (Json.array [.string "common"]).WellFormed ∧
      load (.array [.string "common"]) = .ok .common ∧
      decode .root (.array [.string "common"]) ≠ .ok .common := by
  refine ⟨?_, rfl, ?_⟩
  · simp [Json.WellFormed, Json.WellFormedItems]
  · decide +kernel

end Scope

end Recollection
